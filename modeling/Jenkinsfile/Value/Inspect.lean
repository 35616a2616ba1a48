import Jenkinsfile.Decimal.Notation
import Jenkinsfile.Text.Quoted
import Jenkinsfile.Value.Basic

/-! The text of a value in messages: its literal, with texts in quotes, and its plain text, which
leaves a text as it is. -/

namespace Jenkinsfile.Value

/-- The literal of a truth value. -/
def boolLiteral (b : Bool) : String := if b then "True" else "False"

mutual

/-- The literal of a value. -/
def inspect : Value → Except TextFault String
  | .null => .ok "None"
  | .bool b => .ok (boolLiteral b)
  | .int n => intText n
  | .float x => .ok (Decimal.plainSpelling.write x)
  | .str s => .ok (Text.quoted s)
  | .list items => do pure ("[" ++ ", ".intercalate (← inspectItems items) ++ "]")
  | .map entries => do pure ("\x7b" ++ ", ".intercalate (← inspectEntries entries) ++ "\x7d")
  | .other o => .ok o.literal

/-- The literals of the items of a list. -/
def inspectItems : List Value → Except TextFault (List String)
  | [] => .ok []
  | v :: items => do
    let literal ← v.inspect
    pure (literal :: (← inspectItems items))

/-- The literals of the entries of a map, each a key, a colon and a value. -/
def inspectEntries : List (String × Value) → Except TextFault (List String)
  | [] => .ok []
  | (key, v) :: entries => do
    let literal ← v.inspect
    pure ((Text.quoted key ++ ": " ++ literal) :: (← inspectEntries entries))

end

/-- The plain text of a value: a text itself, and the literal of almost anything else. -/
def text : Value → Except TextFault String
  | .str s => .ok s
  | .other o => .ok o.text
  | v => v.inspect

end Jenkinsfile.Value
