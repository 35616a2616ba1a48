import Jenkinsfile.Value.Inspect

/-! Where and how a value differs from the shape that its place asks for. -/

namespace Jenkinsfile.Shape

/-- A step into a value: to the entry under a key, or to the item at a position. -/
inductive Step where
  | key (name : String)
  | index (i : Nat)
  deriving DecidableEq

/-- What is wrong with a value. -/
inductive Cause where
  | notRecord (name : String)
  | notText
  | notList
  | notMap
  | missing
  | notMember (members : List String)
  | belowLeast (least : Int)
  | notInt
  | fractional
  | notFinite
  | unreadableInt
  | tooLongInt
  | notBool
  | unreadableBool
  deriving DecidableEq

/-- The identifier of a cause. -/
def Cause.code : Cause → String
  | .notRecord _ => "model_type"
  | .notText => "string_type"
  | .notList => "list_type"
  | .notMap => "dict_type"
  | .missing => "missing"
  | .notMember _ => "enum"
  | .belowLeast _ => "greater_than_equal"
  | .notInt => "int_type"
  | .fractional => "int_from_float"
  | .notFinite => "finite_number"
  | .unreadableInt => "int_parsing"
  | .tooLongInt => "int_parsing_size"
  | .notBool => "bool_type"
  | .unreadableBool => "bool_parsing"

/-- The members of a choice, the last two joined by "or". -/
def listMembers : List String → String
  | [] => ""
  | [m] => Text.quoted m
  | [m, n] => Text.quoted m ++ " or " ++ Text.quoted n
  | m :: ms => Text.quoted m ++ ", " ++ listMembers ms

/-- The wording of a cause. -/
def Cause.message : Cause → String
  | .notRecord name => "Input should be a valid dictionary or instance of " ++ name
  | .notText => "Input should be a valid string"
  | .notList => "Input should be a valid list"
  | .notMap => "Input should be a valid dictionary"
  | .missing => "Field required"
  | .notMember members => "Input should be " ++ listMembers members
  | .belowLeast least => "Input should be greater than or equal to " ++ toString least
  | .notInt => "Input should be a valid integer"
  | .fractional => "Input should be a valid integer, got a number with a fractional part"
  | .notFinite => "Input should be a finite number"
  | .unreadableInt => "Input should be a valid integer, unable to parse string as an integer"
  | .tooLongInt => "Unable to parse input string as an integer, exceeded maximum size"
  | .notBool => "Input should be a valid boolean"
  | .unreadableBool => "Input should be a valid boolean, unable to interpret input"

/-- What else a cause tells, by name. -/
def Cause.context : Cause → Table Value
  | .notRecord name => [("class_name", .str name)]
  | .notMember members => [("expected", .str (listMembers members))]
  | .belowLeast least => [("ge", .int least)]
  | _ => []

/-- One difference: the steps from the whole value to its place, its cause, and the value found
there, which is the enclosing map where an entry is missing. -/
structure Mismatch where
  path : List Step
  cause : Cause
  found : Value

/-- The literal of a step. -/
def Step.inspect : Step → String
  | .key name => Text.quoted name
  | .index i => toString i

/-- The literal of a path: the steps in parentheses, with a comma after a lone one. -/
def inspectPath : List Step → String
  | [] => "()"
  | [s] => "(" ++ s.inspect ++ ",)"
  | path => "(" ++ ", ".intercalate (path.map Step.inspect) ++ ")"

/-- The literal of a difference, with all that is known of it. -/
def Mismatch.inspect (m : Mismatch) : Except TextFault String := do
  let context := m.cause.context
  let found ← m.found.inspect
  let more ← if context.isEmpty then pure "" else (", 'ctx': " ++ ·) <$> (Value.map context).inspect
  pure ("\x7b'type': " ++ Text.quoted m.cause.code ++ ", 'loc': " ++ inspectPath m.path ++
    ", 'msg': " ++ Text.quoted m.cause.message ++ ", 'input': " ++ found ++ more ++ "\x7d")

/-- The literals of several differences. -/
def inspectAll : List Mismatch → Except TextFault (List String)
  | [] => .ok []
  | m :: ms => do
    let literal ← m.inspect
    pure (literal :: (← inspectAll ms))

/-- The difference seen from a value that is one step further out. -/
def Mismatch.under (m : Mismatch) (s : Step) : Mismatch := { m with path := s :: m.path }

end Jenkinsfile.Shape
