import Jenkinsfile.Argument.Basic
import Jenkinsfile.Argument.Kind
import Jenkinsfile.Failure
import Jenkinsfile.Json.Reader

/-! Composite values: maps with certain texts, and lists of environment variables.  Either may be
given as a JSON text. -/

namespace Jenkinsfile.Argument

/-- A composite value, decoded if it is given as a JSON text. -/
def decode (a : Argument) (v : Value) : Except Failure Value :=
  match v with
  | .str s =>
    match Json.read s with
    | .ok v => .ok v
    | .error (.tooManyDigits n) => .error (.fault (.tooManyDigits n))
    | .error e =>
      .error (.error (.value
        ("argument " ++ a.typeName ++ "(" ++ a.name ++ ")'s value is not valid json: " ++ e.message)
        [("receivedValue", .value v)]))
  | v => .ok v

/-- Refuses a value that has not the form of its type. -/
def wrongForm (a : Argument) (typeId : String) (v : Value) : Failure :=
  .telling v.inspect fun literal =>
    .value ("argument " ++ typeId ++ "(" ++ a.name ++ ")'s value " ++ literal ++
      " is invalid format, got type " ++ v.typeName)

/-- Every one of the fields is there and is a text. -/
def checkFields (a : Argument) (entries : Table Value) : List String → Except Failure Unit
  | [] => .ok ()
  | field :: fields =>
    match entries.get? field with
    | none =>
      .error (.telling (Value.map entries).inspect fun literal =>
        .value (field ++ " is required for argument " ++ a.name ++ ", but get value " ++ literal))
    | some (.str _) => checkFields a entries fields
    | some v =>
      .error (.telling v.inspect fun literal =>
        .value ("argument " ++ a.name ++ "." ++ field ++ "'s value " ++ literal ++
          " is invalid format, it should be string, but got type " ++ v.typeName))

/-- A decoded value of a record kind is null or a map with all required texts. -/
def checkRecord (a : Argument) (k : RecordKind) (v : Value) : Except Failure Unit :=
  match v with
  | .null => .ok ()
  | .map entries => checkFields a entries k.requiredFields
  | v => .error (wrongForm a k.typeId v)

/-- Refuses an environment variable. -/
def badVariable (a : Argument) (entry : Value) (reason : String) : Failure :=
  .telling entry.inspect fun literal =>
    .value ("argument " ++ a.name ++ "'s item value `" ++ literal ++ "` is invalid format, " ++
      reason)

/-- Whether the entry under `key` is there and counts as present. -/
def hasTruthy (entries : Table Value) (key : String) : Bool :=
  (entries.get? key).any Value.truthy

/-- A value taken from elsewhere names a configuration map and a key in it. -/
def checkSource (a : Argument) (entry source : Value) : Except Failure Unit :=
  match source with
  | .map source =>
    match (Table.get? source "configMapKeyRef").getD .null with
    | .null => .error (badVariable a entry "should contains configMapKeyRef")
    | .map ref =>
      if hasTruthy ref "name" && hasTruthy ref "key" then .ok ()
      else .error (badVariable a entry "configMapKeyRef requires name and key")
    | _ => .error (badVariable a entry "configMapKeyRef should be map")
  | _ => .error (badVariable a entry "valueFrom should be map")

/-- Whether a value counts as no value: null and the empty text do. -/
def isVoid : Value → Bool
  | .null => true
  | .str s => s.isEmpty
  | _ => false

/-- An environment variable has a name, and either a value or the source of one. -/
def checkVariable (a : Argument) (entry : Value) : Except Failure Unit :=
  match entry with
  | .map fields =>
    match Table.get? fields "name" with
    | none => .error (.error (.value ("[].name is required for argument " ++ a.name)))
    | some name =>
      if !name.truthy then
        .error (.error (.value ("[].name should not be empty for argument " ++ a.name)))
      else
        match Table.get? fields "value", Table.get? fields "valueFrom" with
        | some v, none =>
          if isVoid v then
            .error (.error (.value ("[].value should not be empty for argument " ++ a.name)))
          else .ok ()
        | none, some source => checkSource a entry source
        | _, _ =>
          .error (badVariable a entry "exactly one of value and valueFrom is required")
  | _ => .error (badVariable a entry "it should be map in array")

/-- All variables pass, or the first error. -/
def checkVariables (a : Argument) : List Value → Except Failure Unit
  | [] => .ok ()
  | entry :: entries => do
    checkVariable a entry
    checkVariables a entries

/-- A decoded list of environment variables, or null. -/
def checkEnvironment (a : Argument) (v : Value) : Except Failure Unit :=
  match v with
  | .null => .ok ()
  | .list entries => checkVariables a entries
  | v => .error (wrongForm a ArgumentKind.environment.typeId v)

end Jenkinsfile.Argument
