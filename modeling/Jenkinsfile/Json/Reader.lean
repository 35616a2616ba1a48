import Jenkinsfile.Decimal.Reader
import Jenkinsfile.Value.Basic

/-! Values read from JSON texts.  Beside the standard's texts, the names `NaN`, `Infinity` and
`-Infinity` are read as numbers; of two entries under one key the later one wins. -/

namespace Jenkinsfile.Json

/-- Why a text is no JSON text. -/
inductive ReadError where
  | byteOrderMark
  | noValue
  | noKey
  | noColon
  | noComma
  | extra
  | unterminated
  | control
  | badEscape
  | badCodePoint
  | tooManyDigits (count : Nat)

/-- The wording of an error; one of the digits' number is worded elsewhere. -/
def ReadError.message : ReadError → String
  | .byteOrderMark => "Unexpected UTF-8 BOM (decode using utf-8-sig)"
  | .noValue => "Expecting value"
  | .noKey => "Expecting property name enclosed in double quotes"
  | .noColon => "Expecting ':' delimiter"
  | .noComma => "Expecting ',' delimiter"
  | .extra => "Extra data"
  | .unterminated => "Unterminated string starting at"
  | .control => "Invalid control character at"
  | .badEscape => "Invalid \\escape"
  | .badCodePoint => "Invalid \\uXXXX escape"
  | .tooManyDigits _ => ""

/-- The four characters that may stand between the parts of a JSON text. -/
def isSpace (c : Char) : Bool := c == ' ' || c == '\t' || c == '\n' || c == '\r'

/-- The text after the space at its start. -/
def skipSpace (cs : List Char) : List Char := cs.dropWhile isSpace

/-- The value of a hexadecimal digit. -/
def hexValue? (c : Char) : Option Nat :=
  if '0' ≤ c && c ≤ '9' then some (c.toNat - '0'.toNat)
  else if 'a' ≤ c && c ≤ 'f' then some (c.toNat - 'a'.toNat + 10)
  else if 'A' ≤ c && c ≤ 'F' then some (c.toNat - 'A'.toNat + 10)
  else none

/-- The number that hexadecimal digits write. -/
def hexNumber? (cs : List Char) : Option Nat :=
  cs.foldl (fun n c => do some (16 * (← n) + (← hexValue? c))) (some 0)

/-- The character of an escape letter. -/
def escapeValue? : Char → Option Char
  | '"' => some '"'
  | '\\' => some '\\'
  | '/' => some '/'
  | 'b' => some '\x08'
  | 'f' => some '\x0c'
  | 'n' => some '\n'
  | 'r' => some '\r'
  | 't' => some '\t'
  | _ => none

/-- The code unit after `\u` at the start of `cs`, which has to be followed by another character. -/
def codeUnit? : List Char → Option (Nat × List Char)
  | a :: b :: c :: d :: e :: cs => (hexNumber? [a, b, c, d]).map (·, e :: cs)
  | _ => none

/-- Whether `n` is the first unit of a pair. -/
def isHigh (n : Nat) : Bool := 0xd800 ≤ n && n < 0xdc00

/-- Whether `n` is the second unit of a pair. -/
def isLow (n : Nat) : Bool := 0xdc00 ≤ n && n < 0xe000

/-- The character of a code unit, or of the pair that it forms with the escape after it; half of a
pair stands for the replacement character. -/
def codePoint (unit : Nat) (cs : List Char) : Char × List Char :=
  if isHigh unit then
    match cs with
    | '\\' :: 'u' :: rest =>
      match codeUnit? rest with
      | some (low, after) =>
        if isLow low then
          (Char.ofNat (0x10000 + (unit - 0xd800) * 0x400 + (low - 0xdc00)), after)
        else ('\ufffd', cs)
      | none => ('\ufffd', cs)
    | _ => ('\ufffd', cs)
  else if isLow unit then ('\ufffd', cs)
  else (Char.ofNat unit, cs)

/-- The rest of a text in quotes, with what follows the closing one.  `read` holds the characters
read, last first. -/
def readString (fuel : Nat) (read cs : List Char) : Except ReadError (String × List Char) :=
  match fuel, cs with
  | 0, _ | _, [] => .error .unterminated
  | fuel + 1, c :: cs =>
    if c = '"' then .ok (.ofList read.reverse, cs)
    else if c = '\\' then
      match cs with
      | [] => .error .unterminated
      | 'u' :: cs =>
        match codeUnit? cs with
        | none => .error .badCodePoint
        | some (unit, cs) =>
          let (point, cs) := codePoint unit cs
          readString fuel (point :: read) cs
      | e :: cs =>
        match escapeValue? e with
        | none => .error .badEscape
        | some v => readString fuel (v :: read) cs
    else if c.toNat < 32 then .error .control
    else readString fuel (c :: read) cs

/-- Whether `c` is one of the ten digits of JSON. -/
def isDecimal (c : Char) : Bool := '0' ≤ c && c ≤ '9'

/-- The digits after a point, if the text has a point with a digit after it. -/
def readFraction (cs : List Char) : Option (List Char × List Char) :=
  match cs with
  | '.' :: d :: cs =>
    if isDecimal d then some ((d :: cs).span isDecimal) else none
  | _ => none

/-- The power of ten, if the text has one with a digit. -/
def readExponent (cs : List Char) : Option (Int × List Char) :=
  let signed (negative : Bool) (cs : List Char) : Option (Int × List Char) :=
    let (digits, rest) := cs.span isDecimal
    if digits.isEmpty then none
    else
      let n := digits.foldl (fun n c => 10 * n + (c.toNat - '0'.toNat)) 0
      some (if negative then -Int.ofNat n else Int.ofNat n, rest)
  match cs with
  | e :: cs =>
    if e = 'e' || e = 'E' then
      match cs with
      | '-' :: cs => signed true cs
      | '+' :: cs => signed false cs
      | cs => signed false cs
    else none
  | [] => none

/-- A number at the start of a text.  It is whole unless it has a fraction or a power of ten. -/
def readNumber (cs : List Char) : Except ReadError (Value × List Char) := do
  let (negative, cs) := match cs with
    | '-' :: cs => (true, cs)
    | cs => (false, cs)
  let (whole, cs) ← match cs with
    | '0' :: cs => pure (['0'], cs)
    | c :: _ =>
      if isDecimal c then pure (cs.span isDecimal) else .error .noValue
    | [] => .error .noValue
  let fraction := readFraction cs
  let afterFraction := match fraction with
    | some (_, cs) => cs
    | none => cs
  let exponent := readExponent afterFraction
  let rest := match exponent with
    | some (_, cs) => cs
    | none => afterFraction
  if fraction.isNone && exponent.isNone then
    if whole.length > Decimal.maxDigits then .error (.tooManyDigits whole.length)
    else
      let n := whole.foldl (fun n c => 10 * n + (c.toNat - '0'.toNat)) 0
      pure (.int (if negative then -Int.ofNat n else Int.ofNat n), rest)
  else
    let digits := (fraction.map Prod.fst).getD []
    pure (.float (Decimal.ofParts negative whole digits ((exponent.map Prod.fst).getD 0)), rest)

/-- The names that stand for values. -/
def names : List (List Char × Value) :=
  [("null".toList, .null), ("true".toList, .bool true), ("false".toList, .bool false),
    ("NaN".toList, .float (0.0 / 0.0)), ("Infinity".toList, .float (1.0 / 0.0)),
    ("-Infinity".toList, .float (-1.0 / 0.0))]

/-- A name or a number at the start of a text. -/
def readPlain (cs : List Char) : Except ReadError (Value × List Char) :=
  match names.find? fun e => e.1.isPrefixOf cs with
  | some (name, v) => .ok (v, cs.drop name.length)
  | none => readNumber cs

mutual

/-- The value at the start of a text, with the text after it. -/
def readValue : (fuel : Nat) → List Char → Except ReadError (Value × List Char)
  | 0, _ | _, [] => .error .noValue
  | fuel + 1, c :: cs =>
    if c = '"' then do
      let (s, rest) ← readString cs.length [] cs
      pure (.str s, rest)
    else if c = '[' then
      match skipSpace cs with
      | ']' :: rest => .ok (.list [], rest)
      | cs => do
        let (items, rest) ← readItems fuel cs
        pure (.list items, rest)
    else if c = '\x7b' then
      match skipSpace cs with
      | '\x7d' :: rest => .ok (.map [], rest)
      | cs => do
        let (entries, rest) ← readEntries fuel [] cs
        pure (.map entries, rest)
    else readPlain (c :: cs)

/-- The items of a list from the next one on, up to the closing bracket. -/
def readItems : (fuel : Nat) → List Char → Except ReadError (List Value × List Char)
  | 0, _ => .error .noValue
  | fuel + 1, cs => do
    let (v, rest) ← readValue fuel cs
    match skipSpace rest with
    | ']' :: rest => pure ([v], rest)
    | ',' :: rest =>
      let (items, rest) ← readItems fuel (skipSpace rest)
      pure (v :: items, rest)
    | _ => .error .noComma

/-- The entries of a map from the next one on, up to the closing brace; `read` are those before. -/
def readEntries : (fuel : Nat) → Table Value → List Char →
    Except ReadError (Table Value × List Char)
  | 0, _, _ => .error .noKey
  | fuel + 1, read, cs =>
    match cs with
    | '"' :: cs => do
      let (key, rest) ← readString cs.length [] cs
      match skipSpace rest with
      | ':' :: rest =>
        let (v, rest) ← readValue fuel (skipSpace rest)
        let read := read.insert key v
        match skipSpace rest with
        | '\x7d' :: rest => pure (read, rest)
        | ',' :: rest => readEntries fuel read (skipSpace rest)
        | _ => .error .noComma
      | _ => .error .noColon
    | _ => .error .noKey

end

/-- The value of a JSON text; nothing but space may surround it. -/
def read (s : String) : Except ReadError Value := do
  let cs := s.toList
  if cs.head? == some '\ufeff' then .error .byteOrderMark
  else
    let (v, rest) ← readValue (2 * cs.length + 1) (skipSpace cs)
    if (skipSpace rest).isEmpty then pure v else .error .extra

end Jenkinsfile.Json
