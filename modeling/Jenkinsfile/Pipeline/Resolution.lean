import Jenkinsfile.Binding
import Jenkinsfile.Failure
import Jenkinsfile.Pipeline.Basic

/-! Tasks with their values: what is bound to a task, overlaid by its constants, and the task's own
fields, which bindings may replace.  Tasks and constants are plain values: whatever is set is set in a
copy, and the task itself stands in the result as it was. -/

namespace Jenkinsfile

/-- A task with its template and everything that decides its stage. -/
structure ResolvedTask where
  task : Task
  template : TaskTemplate
  arguments : Table Value
  options : Option Options
  approval : Option Approval
  visible : Bool

/-- The task's own agent, or else its template's. -/
def ResolvedTask.agent (t : ResolvedTask) : Value := t.task.agent.orElse t.template.agent

namespace Resolution

/-- The fields of a task that bindings replace. -/
structure TaskFields where
  options : Option Options
  approval : Option Approval

/-- Sets the timeout of options, which are made if there are none. -/
def withTimeout (o : Option Options) (timeout : Int) : Option Options :=
  some { o.getD ⟨0⟩ with timeout := timeout }

/-- Sets the timeout of an approval, which is made if there is none. -/
def withApprovalTimeout (a : Option Approval) (timeout : Int) : Option Approval :=
  some { a.getD ⟨0, ""⟩ with timeout := timeout }

/-- Sets the message of an approval, which is made if there is none. -/
def withMessage (a : Option Approval) (message : String) : Option Approval :=
  some { a.getD ⟨0, ""⟩ with message := message }

/-- The fields with those of an approval that is fixed: its message only if there is one. -/
def overApproval (own : Option Approval) (fixed : Approval) : Option Approval :=
  let own := withApprovalTimeout own fixed.timeout
  if fixed.message.isEmpty then own else withMessage own fixed.message

/-- A task's own fields with its constants over them. -/
def constantFields (t : Task) (c : Option TaskConstants) : TaskFields :=
  match c with
  | none => ⟨t.options, t.approval⟩
  | some c =>
    ⟨match c.options with
      | some o => withTimeout t.options o.timeout
      | none => t.options,
      match c.approval with
      | some a => overApproval t.approval a
      | none => t.approval⟩

/-- The whole number that a timeout is set to. -/
def timeoutOf (t : Task) (path : String) (v : Value) : Except Failure Int :=
  match v with
  | .int n => .ok n
  | v =>
    .error (.telling v.inspect fun literal =>
      .value (path ++ "'s value " ++ literal ++ " should be int, but got " ++ v.typeName)
        [("task", .value (.str t.name))])

/-- Replaces the field at a path by a value; null and paths to other fields change nothing. -/
def setField (t : Task) (f : TaskFields) (path : String) (v : Value) :
    Except Failure TaskFields :=
  if v.isNull then .ok f
  else if path = "options.timeout" then do
    pure { f with options := withTimeout f.options (← timeoutOf t path v) }
  else if path = "approve.timeout" then do
    pure { f with approval := withApprovalTimeout f.approval (← timeoutOf t path v) }
  else if path = "approve.message" then do
    pure { f with approval := withMessage f.approval (← Failure.ofText v.text) }
  else .ok f

/-- Replaces fields by bound values, in order. -/
def setFields (t : Task) (f : TaskFields) : Table Value → Except Failure TaskFields
  | [] => .ok f
  | (path, v) :: rest => do setFields t (← setField t f path v) rest

/-- A task with its values.  Constants win over bound arguments, and bound fields over constants.  The
options and the approval of the result are values of their own: the task is part of the result as it
was given, and so are the constants and the binding that others share. -/
def resolveTask (t : Task) (template : TaskTemplate) (b : TaskBinding) (c : Option TaskConstants)
    (values : Table Value) : Except Failure ResolvedTask := do
  let arguments := b.arguments.overlay ((c.map TaskConstants.arguments).getD [])
  let fields ← setFields t (constantFields t c) b.fields
  let visible ← t.visible values
  pure ⟨t, template, arguments, fields.options, fields.approval, visible⟩

end Resolution

end Jenkinsfile
