import Jenkinsfile.Argument.Composite
import Jenkinsfile.Pattern.Reader
import Jenkinsfile.Pattern.Search

/-! Checks of supplied values against their arguments' declarations. -/

namespace Jenkinsfile.Argument

open Pattern (CharacterNames)

/-- The kind that a type's name stands for; `place` says where the name is declared. -/
def kindOf (reg : Registry) (a : Argument) (place typeName : String) :
    Except Error ArgumentKind :=
  match reg.get? typeName with
  | some k => .ok k
  | none =>
    .error (.definition (a.name ++ "." ++ place ++ "=" ++ typeName ++ " is not support now"))

/-- The kind of the argument. -/
def kind (reg : Registry) (a : Argument) : Except Error ArgumentKind :=
  a.kindOf reg "schema.type" a.typeName

/-- The kind of the argument's items. -/
def itemKind (reg : Registry) (a : Argument) : Except Error ArgumentKind :=
  a.kindOf reg "schema.items.type" (a.itemTypeName?.getD "")

/-- What an error tells of a value of the wrong type. -/
def received (v : Value) : Table Detail :=
  [("receivedValue", .value v), ("receivedType", .value (.str v.typeName))]

/-- A text is no longer than its limit, if it has one.  A limit that is told is less than the length
of a text, so that it is short itself. -/
def checkLength (a : Argument) (limits : Validation) (s : String) : Except Error Unit :=
  if limits.maxLength > 0 && limits.maxLength < s.length then
    .error (.value (a.name ++ " is too long, length should be less than " ++
        toString limits.maxLength)
      [("receivedValue", .value (.str s)), ("maxLength", .value (.int limits.maxLength))])
  else .ok ()

/-- A text has a place that matches its pattern, if it has one. -/
def checkPattern [CharacterNames] (a : Argument) (limits : Validation) (s : String) :
    Except Failure Unit :=
  if limits.pattern.isEmpty then .ok ()
  else
    match Pattern.read limits.pattern with
    | .error .countTooLarge => .error (.fault .tooManyRepeats)
    | .error (.tooManyDigits n) => .error (.fault (.tooManyDigits n))
    | .error .flagsClash => .error (.fault .flagsClash)
    | .error (.error e) =>
      .error (.error (.definition (a.name ++ ".validation.pattern is invalid: " ++
        e.text limits.pattern)))
    | .ok p =>
      if p.search s then .ok ()
      else
        .error (.error (.value (a.name ++ "'s value " ++ s ++ " is not match the pattern " ++
            limits.pattern)
          [("receivedValue", .value (.str s)), ("pattern", .value (.str limits.pattern))]))

/-- A text within its limits. -/
def checkText [CharacterNames] (a : Argument) (v : Value) : Except Failure Unit :=
  match v with
  | .str s =>
    match a.validation with
    | none => .ok ()
    | some limits => do
      Failure.ofError (a.checkLength limits s)
      a.checkPattern limits s
  | v => .error (.error (.value (a.name ++ " should be string") (received v)))

/-- The truth value that a text spells. -/
def boolOfText? (s : String) : Option Bool :=
  if ["1", "t", "T", "TRUE", "true", "True"].contains s then some true
  else if ["0", "f", "F", "FALSE", "false", "False"].contains s then some false
  else none

/-- The truth value that a value spells, if it is a text. -/
def boolOf? : Value → Option Bool
  | .str s => boolOfText? s
  | _ => none

/-- A truth value, or a text that spells one. -/
def checkBool (a : Argument) (v : Value) : Except Error Unit :=
  match v with
  | .bool _ => .ok ()
  | v =>
    if (boolOf? v).isSome then .ok ()
    else .error (.value (a.name ++ " should be boolean") (received v))

/-- A value of a kind other than a list. -/
def checkSingle [CharacterNames] (a : Argument) (k : ArgumentKind) (v : Value) :
    Except Failure Unit :=
  match k with
  | .string => a.checkText v
  | .boolean => Failure.ofError (a.checkBool v)
  | .int | .object | .array => .ok ()
  | .record k => do a.checkRecord k (← a.decode v)
  | .environment => do a.checkEnvironment (← a.decode v)

/-- The check of an item; an error notes the item's position. -/
def atIndex (i : Nat) : Except Failure Unit → Except Failure Unit
  | .error (.error e) => .error (.error (e.noting "index" (.int i)))
  | r => r

/-- The checks of the items from position `i` on. -/
def itemChecks (check : Value → Except Failure Unit) (i : Nat) :
    List Value → List (Except Failure Unit)
  | [] => []
  | v :: vs => atIndex i (check v) :: itemChecks check (i + 1) vs

/-- Refuses a value that is no list. -/
def notList (a : Argument) (v : Value) : Failure :=
  .error (.value ("argument " ++ a.name ++
    "'s value is invalid format, it should be an array, but got type " ++ v.typeName))

mutual

/-- A list whose items are lists of the same kind in turn. -/
def checkNested (a : Argument) : Value → Except Failure Unit
  | .list items => Failure.raise (nestedChecks a 0 items)
  | .null => .error (notList a .null)
  | .bool b => .error (notList a (.bool b))
  | .int n => .error (notList a (.int n))
  | .float x => .error (notList a (.float x))
  | .str s => .error (notList a (.str s))
  | .map entries => .error (notList a (.map entries))
  | .other o => .error (notList a (.other o))

/-- The checks of items that are lists, from position `i` on. -/
def nestedChecks (a : Argument) (i : Nat) : List Value → List (Except Failure Unit)
  | [] => []
  | v :: vs => atIndex i (checkNested a v) :: nestedChecks a (i + 1) vs

end

/-- A list of items of the declared kind. -/
def checkList [CharacterNames] (reg : Registry) (a : Argument) (v : Value) :
    Except Failure Unit :=
  match v with
  | .list items => do
    match ← Failure.ofError (a.itemKind reg) with
    | .array => a.checkNested (.list items)
    | k => Failure.raise (itemChecks (a.checkSingle k) 0 items)
  | v => .error (notList a v)

/-- A value other than null of a kind. -/
def checkOfKind [CharacterNames] (reg : Registry) (a : Argument) (k : ArgumentKind) (v : Value) :
    Except Failure Unit :=
  match k with
  | .array => a.checkList reg v
  | k => a.checkSingle k v

/-- A supplied value meets its declaration; null stands for no value, which a required argument does
not accept. -/
def checkValue [CharacterNames] (reg : Registry) (a : Argument) (v : Value) :
    Except Failure Unit :=
  match v with
  | .null =>
    if a.required then .error (.error (.value (a.name ++ " is required"))) else .ok ()
  | v => do a.checkOfKind reg (← Failure.ofError (a.kind reg)) v

/-- The errors of the supplied values of visible arguments, in order. -/
def valueErrors [CharacterNames] (reg : Registry) (values : Table Value) :
    List Argument → Except Failure (List Error)
  | [] => .ok []
  | a :: args => do
    if ← a.visible values then
      match a.checkValue reg ((values.get? a.name).getD .null) with
      | .ok () => valueErrors reg values args
      | .error (.error e) => return e :: (← valueErrors reg values args)
      | .error (.fault f) => .error (.fault f)
    else valueErrors reg values args

end Jenkinsfile.Argument
