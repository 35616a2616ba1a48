import Jenkinsfile.Failure
import Jenkinsfile.Json.Writer
import Jenkinsfile.Text.Blank
import Jenkinsfile.Text.Case
import Jenkinsfile.Text.Separator
import Jenkinsfile.Value.ScriptText

/-! The functions of the expression language.  A call takes a value and the arguments written after
the function's name; what it cannot take is told as a misuse of the function. -/

namespace Jenkinsfile.Expression

/-- The nine functions. -/
inductive Function where
  | split
  | replace
  | join
  | index
  | fallback
  | upper
  | lower
  | trim
  | json
  deriving DecidableEq

namespace Function

/-- All functions. -/
def all : List Function := [split, replace, join, index, fallback, upper, lower, trim, json]

/-- The name under which a function is called. -/
def name : Function → String
  | split => "split"
  | replace => "replace"
  | join => "join"
  | index => "index"
  | fallback => "default"
  | upper => "upper"
  | lower => "lower"
  | trim => "trim"
  | json => "json"

/-- The function of a name. -/
def ofName? (s : String) : Option Function := all.find? fun f => f.name == s

end Function

/-- What an argument of a call is written as: a quoted text or a whole number. -/
inductive Literal where
  | text (s : String)
  | int (n : Int)
  deriving DecidableEq

/-- The value of an argument. -/
def Literal.toValue : Literal → Value
  | .text s => .str s
  | .int n => .int n

/-- Why a call has no value: the function was given what it cannot take, the value does not answer
the call, or a fault. -/
inductive CallError where
  | misuse (message : String)
  | unanswered (message : String)
  | fault (f : Fault)

/-- A text that a function needs; a value without one is a misuse of the function. -/
def CallError.ofText {α : Type} : Except TextFault α → Except CallError α
  | .ok a => .ok a
  | .error f => .error (.misuse f.message)

/-- The text on which the functions for texts work. -/
def operand : Value → Except CallError String
  | .str s => .ok s
  | v => CallError.ofText v.scriptText

/-- The texts of the items of a list. -/
def operands : List Value → Except CallError (List String)
  | [] => .ok []
  | v :: items => do
    let text ← operand v
    pure (text :: (← operands items))

namespace Function

/-- The name by which messages call a function. -/
def internalName : Function → String
  | split => "_split"
  | replace => "_replace"
  | join => "_join"
  | index => "_index"
  | fallback => "_default"
  | upper | lower | trim | json => "<lambda>"

/-- Refuses more arguments than a function takes; the value counts as one. -/
def tooMany (f : Function) (takes : String) (args : List Literal) : CallError :=
  .misuse (f.internalName ++ "() takes " ++ takes ++ " but " ++ toString (args.length + 1) ++
    " were given")

/-- Splits a text at a separator, or into words when there is none. -/
def applySplit (v : Value) : List Literal → Except CallError Value
  | [] => do pure (.list ((Text.words (← operand v)).map .str))
  | [.text s] => do
    let text ← operand v
    if s.isEmpty then .error (.misuse "empty separator")
    else pure (.list ((Text.splitOn s.toList text.toList).map fun cs => .str (.ofList cs)))
  | [.int _] => do
    let _ ← operand v
    .error (.misuse "must be str or None, not int")
  | args => .error (split.tooMany "from 1 to 2 positional arguments" args)

/-- Replaces every occurrence of one text by another. -/
def applyReplace (v : Value) : List Literal → Except CallError Value
  | [] =>
    .error (.misuse "_replace() missing 2 required positional arguments: 'old' and 'new'")
  | [_] => .error (.misuse "_replace() missing 1 required positional argument: 'new'")
  | [.text old, .text new] => do
    pure (.str (.ofList (Text.replaceAll old.toList new.toList (← operand v).toList)))
  | [.int _, _] => do
    let _ ← operand v
    .error (.misuse "replace() argument 1 must be str, not int")
  | [.text _, .int _] => do
    let _ ← operand v
    .error (.misuse "replace() argument 2 must be str, not int")
  | args => .error (replace.tooMany "3 positional arguments" args)

/-- The items of a list, joined with a text; what is no list is joined already. -/
def joined (sep : String) (v : Value) : Except CallError Value :=
  match v with
  | .list items => do
    pure (.str (.ofList (Text.joinWith sep.toList ((← operands items).map String.toList))))
  | v => .str <$> operand v

/-- Joins the items of a list with a comma or another text. -/
def applyJoin (v : Value) (args : List Literal) : Except CallError Value :=
  match args with
  | [] => joined "," v
  | [.text sep] => joined sep v
  | [.int _] =>
    match v with
    | .list _ => .error (.fault .joinsWithInteger)
    | v => .str <$> operand v
  | args => .error (join.tooMany "from 1 to 2 positional arguments" args)

/-- The item at a position; a negative one counts from the end. -/
def itemAt? {α : Type} (items : List α) (i : Int) : Option α :=
  match i with
  | .ofNat i => items[i]?
  | .negSucc i => if i < items.length then items[items.length - (i + 1)]? else none

/-- One item of a list, or one character of a text. -/
def applyIndex (v : Value) (args : List Literal) : Except CallError Value :=
  let outOfRange (i : Int) : CallError :=
    match v.inspect with
    | .ok literal => .unanswered ("index " ++ toString i ++ " out of range for " ++ literal)
    | .error f => .misuse f.message
  match args with
  | [] => .error (.misuse "_index() missing 1 required positional argument: 'i'")
  | [arg] =>
    match v, arg with
    | .list items, .int i =>
      match itemAt? items i with
      | some item => .ok item
      | none => .error (outOfRange i)
    | .str s, .int i =>
      match itemAt? s.toList i with
      | some c => .ok (.str (.singleton c))
      | none => .error (outOfRange i)
    | .list _, .text _ => .error (.misuse "list indices must be integers or slices, not str")
    | .str _, .text _ => .error (.misuse "string indices must be integers, not 'str'")
    | v, _ => .error (.unanswered ("index() needs a list, got " ++ v.typeName))
  | args => .error (index.tooMany "2 positional arguments" args)

/-- Whether a value gives way to the fallback: nothing, null and the empty text do. -/
def givesWay : Option Value → Bool
  | none => true
  | some .null => true
  | some (.str s) => s.isEmpty
  | some _ => false

/-- The value, or the fallback in place of one that gives way. -/
def applyFallback (v : Option Value) (args : List Literal) : Except CallError Value :=
  let orElse (other : Value) : Value :=
    if givesWay v then other else v.getD other
  match args with
  | [] => .ok (orElse (.str ""))
  | [arg] => .ok (orElse arg.toValue)
  | args => .error (fallback.tooMany "from 1 to 2 positional arguments" args)

/-- Calls a function that takes no argument beside the value. -/
def applyPlain (f : Function) (result : Except CallError String) :
    List Literal → Except CallError Value
  | [] => .str <$> result
  | args => .error (f.tooMany "1 positional argument" args)

/-- Calls a function on a value that is there. -/
def apply (f : Function) (v : Value) (args : List Literal) : Except CallError Value :=
  match f with
  | split => applySplit v args
  | replace => applyReplace v args
  | join => applyJoin v args
  | index => applyIndex v args
  | fallback => applyFallback (some v) args
  | upper => applyPlain upper (Text.upper <$> operand v) args
  | lower => applyPlain lower (Text.lower <$> operand v) args
  | trim => applyPlain trim (Text.strip <$> operand v) args
  | json => applyPlain json (CallError.ofText (Json.write Json.spaced v)) args

end Function

end Jenkinsfile.Expression
