import Jenkinsfile.Argument.Normal
import Jenkinsfile.Placeholder
import Jenkinsfile.Template.Check

/-! The script of a task template for given values. -/

namespace Jenkinsfile.TaskTemplate

open Pattern (CharacterNames)

/-- The values of the visible arguments meet their declarations. -/
def checkValues [CharacterNames] (t : TaskTemplate) (values : Table Value) : Except Failure Unit := do
  Failure.ofError (Error.raise (← Argument.valueErrors Registry.standard values t.arguments))

/-- The normal forms of the arguments' values on top of those in `read`. -/
def normalFrom (values read : Table Value) : List Argument → Except Failure (Table Value)
  | [] => .ok read
  | a :: args => do
    let v ← a.normal Registry.standard ((values.get? a.name).getD .null)
    normalFrom values (read.insert a.name v) args

/-- The values that the body sees: the normal form of every argument's value, and the context of the
run. -/
def normalValues (t : TaskTemplate) (values : Table Value) : Except Failure (Table Value) := do
  let read ← normalFrom values [] t.arguments
  match values.get? systemKey with
  | some v => pure (read.insert systemKey v)
  | none => pure read

/-- The body with its placeholders replaced, if the template is well formed and the values meet
it. -/
def render [CharacterNames] (t : TaskTemplate) (values : Table Value) : Except Failure String := do
  t.check
  t.checkValues values
  Placeholder.interpolate t.body (← t.normalValues values)

end Jenkinsfile.TaskTemplate
