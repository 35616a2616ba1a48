import Jenkinsfile.Argument.Definition
import Jenkinsfile.Template.Basic

/-! Bindings: the way of arguments' values to tasks.  A path names a task and then either one of its
arguments or a field of the task itself. -/

namespace Jenkinsfile

/-- The values that are led to one task. -/
structure TaskBinding where
  arguments : Table Value
  fields : Table Value

/-- What a path leads to in its task. -/
inductive Target where
  | argument (name : String)
  | field (path : String)
  deriving DecidableEq

namespace Binding

/-- The segments put together again with dots. -/
def joinSegments (segments : List (List Char)) : String := .ofList (Text.joinWith ['.'] segments)

/-- The task and the target of a path.  Of a path to an argument only the first three segments
count. -/
def target (argument path : String) : Except Error (String × Target) :=
  match Text.splitOn ['.'] path.toList with
  | task :: scope :: rest =>
    if scope = "args".toList then
      match rest with
      | name :: _ =>
        if name.isEmpty then
          .error (.definition ("pipeline template error, " ++ argument ++ "'s binding `" ++ path ++
            "` misses the argument name") [("binding", .value (.str path))])
        else .ok (.ofList task, .argument (.ofList name))
      | [] =>
        .error (.definition ("pipeline template error, " ++ argument ++ "'s binding `" ++ path ++
          "` misses the argument name") [("binding", .value (.str path))])
    else
      let inner := joinSegments rest
      .ok (.ofList task,
        .field (if inner.isEmpty then .ofList scope else .ofList scope ++ "." ++ inner))
  | _ =>
    .error (.definition ("pipeline template error, " ++ argument ++ "'s binding format `" ++ path ++
      "` is invalid") [("binding", .value (.str path))])

/-- The binding with a value put at a target. -/
def put (b : TaskBinding) (v : Value) : Target → TaskBinding
  | .argument name => { b with arguments := b.arguments.insert name v }
  | .field path => { b with fields := b.fields.insert path v }

/-- Leads a value along paths. -/
def bindPaths (argument : String) (v : Value) (bindings : Table TaskBinding) :
    List String → Except Error (Table TaskBinding)
  | [] => .ok bindings
  | path :: paths => do
    let (task, place) ← target argument path
    let b := (bindings.get? task).getD ⟨[], []⟩
    bindPaths argument v (bindings.insert task (put b v place)) paths

/-- Leads the values of the visible arguments along their paths. -/
def bindAll (values : Table Value) (bindings : Table TaskBinding) :
    List Argument → Except Failure (Table TaskBinding)
  | [] => .ok bindings
  | a :: args => do
    if ← a.visible values then
      let v := (values.get? a.name).getD .null
      bindAll values (← Failure.ofError (bindPaths a.name v bindings a.bindings)) args
    else bindAll values bindings args

/-- The bindings of the named tasks and of all others that paths lead to.  A context of the run that
is not null reaches every task. -/
def resolve (args : List Argument) (values : Table Value) (tasks : List String) :
    Except Failure (Table TaskBinding) := do
  let empty := Table.ofEntries (tasks.map fun name => (name, TaskBinding.mk [] []))
  let bindings ← bindAll values empty args
  let context := (values.get? systemKey).getD .null
  if context.isNull then pure bindings
  else
    pure (bindings.map fun e =>
      (e.1, { e.2 with arguments := e.2.arguments.insert systemKey context }))

end Binding

end Jenkinsfile
