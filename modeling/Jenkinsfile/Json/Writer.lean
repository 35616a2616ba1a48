import Jenkinsfile.Decimal.Notation
import Jenkinsfile.Text.Quoted
import Jenkinsfile.Value.Basic

/-! JSON texts of values.  Characters outside ASCII stand for themselves, and numbers without digits
are written as names.  A value has no JSON text if a part of it has none. -/

namespace Jenkinsfile.Json

/-- What stands after an item and after a key. -/
structure Style where
  comma : String
  colon : String

/-- The style without blanks. -/
def compact : Style := ⟨",", ":"⟩

/-- The style with one blank after a comma and a colon. -/
def spaced : Style := ⟨", ", ": "⟩

/-- A character in a JSON text: the quote, the backslash and control characters are escaped, five of
the latter by a letter. -/
def escapeChar (c : Char) : List Char :=
  if c = '"' then ['\\', '"']
  else if c = '\\' then ['\\', '\\']
  else if c = '\n' then ['\\', 'n']
  else if c = '\r' then ['\\', 'r']
  else if c = '\t' then ['\\', 't']
  else if c = '\x08' then ['\\', 'b']
  else if c = '\x0c' then ['\\', 'f']
  else if c.toNat < 32 then '\\' :: 'u' :: Text.hexDigits 4 c.toNat
  else [c]

/-- A text in JSON quotes. -/
def quoted (s : String) : String :=
  .ofList ('"' :: s.toList.flatMap escapeChar ++ ['"'])

mutual

/-- The JSON text of a value. -/
def write (style : Style) : Value → Except TextFault String
  | .null => .ok "null"
  | .bool b => .ok (if b then "true" else "false")
  | .int n => intText n
  | .float x => .ok (Decimal.jsonSpelling.write x)
  | .str s => .ok (quoted s)
  | .list items => do pure ("[" ++ style.comma.intercalate (← writeItems style items) ++ "]")
  | .map entries => do
    pure ("\x7b" ++ style.comma.intercalate (← writeEntries style entries) ++ "\x7d")
  | .other o => .error (.noJson o.typeName)

/-- The JSON texts of the items of a list. -/
def writeItems (style : Style) : List Value → Except TextFault (List String)
  | [] => .ok []
  | v :: items => do
    let text ← write style v
    pure (text :: (← writeItems style items))

/-- The JSON texts of the entries of a map. -/
def writeEntries (style : Style) : List (String × Value) → Except TextFault (List String)
  | [] => .ok []
  | (key, v) :: entries => do
    let text ← write style v
    pure ((quoted key ++ style.colon ++ text) :: (← writeEntries style entries))

end

end Jenkinsfile.Json
