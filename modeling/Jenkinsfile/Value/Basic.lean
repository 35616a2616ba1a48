import Jenkinsfile.Decimal.Reader
import Jenkinsfile.Table

/-! Dynamic values: what arguments, constants, agents and environment variables hold, and what data
files are read into. -/

namespace Jenkinsfile

/-- A value that JSON has no form for, such as a date: the name of its type, its plain text, its
literal, and whether it counts as present in a condition. -/
structure Foreign where
  typeName : String
  text : String
  literal : String
  truthy : Bool
  deriving DecidableEq

/-- A dynamic value.  A map keeps the order in which its keys came. -/
inductive Value where
  | null
  | bool (b : Bool)
  | int (n : Int)
  | float (x : Float)
  | str (s : String)
  | list (items : List Value)
  | map (entries : List (String × Value))
  | other (o : Foreign)

/-- Why a value has no text: a whole number in it is too long, or JSON has no form for a part of
it. -/
inductive TextFault where
  | tooManyDigits
  | noJson (typeName : String)
  deriving DecidableEq

/-- The wording of a missing text. -/
def TextFault.message : TextFault → String
  | .tooManyDigits =>
    "Exceeds the limit (4300 digits) for integer string conversion; " ++
      "use sys.set_int_max_str_digits() to increase the limit"
  | .noJson typeName => "Object of type " ++ typeName ++ " is not JSON serializable"

/-- Whether a number has at most `count` decimal digits. -/
def hasDigitsUpTo : (count : Nat) → Nat → Bool
  | 0, n => n == 0
  | count + 1, n => if n = 0 then true else hasDigitsUpTo count (n / 10)

/-- Whether a whole number is short enough to be written. -/
def isShort (n : Int) : Bool := hasDigitsUpTo Decimal.maxDigits n.natAbs

/-- The text of a whole number. -/
def intText (n : Int) : Except TextFault String :=
  if isShort n then .ok (toString n) else .error .tooManyDigits

namespace Value

instance : Inhabited Value := ⟨.null⟩

/-- The name of a value's type in messages. -/
def typeName : Value → String
  | .null => "NoneType"
  | .bool _ => "bool"
  | .int _ => "int"
  | .float _ => "float"
  | .str _ => "str"
  | .list _ => "list"
  | .map _ => "dict"
  | .other o => o.typeName

/-- Whether a value counts as present in a condition: null, false, zero and everything empty do
not. -/
def truthy : Value → Bool
  | .null => false
  | .bool b => b
  | .int n => n != 0
  | .float x => x != 0
  | .str s => s != ""
  | .list items => !items.isEmpty
  | .map entries => !entries.isEmpty
  | .other o => o.truthy

/-- Whether a value is null. -/
def isNull : Value → Bool
  | .null => true
  | _ => false

/-- The value, or `fallback` in place of null. -/
def orElse (v fallback : Value) : Value := if v.isNull then fallback else v

end Value

end Jenkinsfile
