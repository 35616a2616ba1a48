import Jenkinsfile.Pipeline.Resolution
import Jenkinsfile.Template.Render

/-! Pipelines compiled from templates.  The work is done in phases; the first phase that has errors
ends it and reports all of its errors. -/

namespace Jenkinsfile.Compile

open Pattern (CharacterNames)

/-- The argument that carries the source control context to the task that clones. -/
def sourceDeclaration : Argument where
  name := sourceArgument
  bindings := [cloneTask ++ ".args." ++ sourceArgument]
  schema := some ⟨"object", none⟩
  required := true
  default := .null
  validation := none
  display := none
  relation := none

/-- The value of the source control argument, null without a context. -/
def sourceValue (source : Option SourceControl) : Value :=
  (source.map SourceControl.toValue).getD .null

/-- The arguments of a pipeline: the declared ones, and the source control context if the template
asks for it. -/
def suppliedArguments (p : PipelineTemplate) : List Argument :=
  if p.withSource then p.arguments ++ [sourceDeclaration] else p.arguments

/-- The supplied values over the declared defaults, and the source control context if the template
asks for it. -/
def mergedValues (p : PipelineTemplate) (values : Table Value) (source : Option SourceControl) :
    Table Value :=
  let merged := p.defaults.overlay values
  if p.withSource then merged.insert sourceArgument (sourceValue source) else merged

/-- The errors of the task types without a template. -/
def missingTemplates (templates : Table TaskTemplate) (p : PipelineTemplate) : List Error :=
  (p.taskTypes.filter fun type => !templates.has type).map fun type =>
    .value ("require definition of task template named:" ++ type)

/-- The templates of the tasks, by the tasks' names. -/
def attachedTemplates (templates : Table TaskTemplate) : List Task → Table TaskTemplate
  | [] => []
  | t :: ts =>
    match templates.get? t.type with
    | some template => (attachedTemplates templates ts).insertNew t.name template
    | none => attachedTemplates templates ts

/-- The resolutions of the tasks in order.  A task without a template has none. -/
def resolutions (attached : Table TaskTemplate) (bindings : Table TaskBinding)
    (constants : Table TaskConstants) (values : Table Value) (tasks : List Task) :
    List (String × Except Failure ResolvedTask) :=
  tasks.filterMap fun t =>
    (attached.get? t.name).map fun template =>
      (t.name, Resolution.resolveTask t template ((bindings.get? t.name).getD ⟨[], []⟩)
        (constants.get? t.name) values)

/-- The errors among resolutions, or the first fault. -/
def resolutionErrors (rs : List (String × Except Failure ResolvedTask)) :
    Except Fault (List Error) :=
  Failure.collect (rs.map fun r => r.2.map fun _ => ())

/-- The tasks among resolutions, by name. -/
def resolvedTasks (rs : List (String × Except Failure ResolvedTask)) : Table ResolvedTask :=
  Table.ofEntries (rs.filterMap fun r => r.2.toOption.map (r.1, ·))

/-- What a phase made, and its errors so far. -/
structure Outcome (α : Type u) where
  result : α
  errors : List Error

/-- What was rendered, or nothing but its error. -/
def attempt {α : Type} (r : Except Failure α) : Except Fault (Outcome (Option α)) :=
  match r with
  | .ok a => .ok ⟨some a, []⟩
  | .error (.error e) => .ok ⟨none, [e]⟩
  | .error (.fault f) => .error f

/-- The stage of a task. -/
def renderTask [CharacterNames] (t : ResolvedTask) : Except Failure Stage := do
  let script ← t.template.render t.arguments
  pure ⟨t.task.name, t.agent, t.options, t.task.conditions, t.approval, t.task.environments,
    some script, false, []⟩

/-- The stages of the visible tasks among those named, and the errors of the others. -/
def renderTasks [CharacterNames] (resolved : Table ResolvedTask) :
    List Task → Except Fault (Outcome (List Stage))
  | [] => .ok ⟨[], []⟩
  | t :: ts =>
    match resolved.get? t.name with
    | some r =>
      if r.visible then do
        let one ← attempt (renderTask r)
        let rest ← renderTasks resolved ts
        pure ⟨one.result.toList ++ rest.result, one.errors ++ rest.errors⟩
      else renderTasks resolved ts
    | none => renderTasks resolved ts

/-- The stage of a stage template: that of its task if it has one task, and otherwise a parallel
one, unless no task of it gives a stage. -/
def stageOf (s : StageTemplate) (stages : List Stage) : List Stage :=
  if s.tasks.length == 1 then stages
  else if stages.isEmpty then []
  else [.parallel s.name s.conditions stages]

/-- The stages of a pipeline, and the errors of the tasks that could not be rendered. -/
def renderStages [CharacterNames] (resolved : Table ResolvedTask) :
    List StageTemplate → Except Fault (Outcome (List Stage))
  | [] => .ok ⟨[], []⟩
  | s :: ss => do
    let own ← renderTasks resolved s.tasks
    let rest ← renderStages resolved ss
    pure ⟨stageOf s own.result ++ rest.result, own.errors ++ rest.errors⟩

/-- The scripts of tasks one after the other, visible or not. -/
def renderScripts [CharacterNames] (resolved : Table ResolvedTask) :
    List Task → Except Fault (Outcome String)
  | [] => .ok ⟨"", []⟩
  | t :: ts =>
    match resolved.get? t.name with
    | some r => do
      let one ← attempt (r.template.render r.arguments)
      let rest ← renderScripts resolved ts
      pure ⟨one.result.getD "" ++ rest.result, one.errors ++ rest.errors⟩
    | none => renderScripts resolved ts

/-- What is done under each of the conditions after a pipeline. -/
def renderActions [CharacterNames] (resolved : Table ResolvedTask) :
    Table (List Task) → Except Fault (Outcome (List PostAction))
  | [] => .ok ⟨[], []⟩
  | (condition, tasks) :: post => do
    let own ← renderScripts resolved tasks
    let rest ← renderActions resolved post
    pure ⟨⟨condition, own.result⟩ :: rest.result, own.errors ++ rest.errors⟩

/-- What is done after a pipeline: the workspace is cleared if nothing else is asked for. -/
def renderPost [CharacterNames] (resolved : Table ResolvedTask) (p : PipelineTemplate) :
    Except Fault (Outcome (List PostAction)) :=
  match p.post.getD [] with
  | [] => .ok ⟨[⟨alwaysCondition, cleanUpScript⟩], []⟩
  | post => renderActions resolved post

end Compile

/-- The agent of a pipeline that names none. -/
def defaultAgent : Value := .str "any"

open Compile Pattern in
/-- The pipeline of a template for the given values.  In turn the template is checked, the values of
visible arguments are checked, the templates of tasks are looked up, the tasks are given their
values, and their scripts are rendered. -/
def PipelineTemplate.compile [CharacterNames] (p : PipelineTemplate)
    (templates : Table TaskTemplate) (values : Table Value) (source : Option SourceControl) :
    Except Failure Pipeline := do
  p.check
  let args := suppliedArguments p
  let merged := mergedValues p values source
  Failure.ofError (Error.raise (← Argument.valueErrors Registry.standard merged args))
  Failure.ofError (Error.raise (missingTemplates templates p))
  let bindings ← Binding.resolve args merged (p.allTasks.map Task.name)
  let attached := attachedTemplates templates p.allTasks
  let rs := resolutions attached bindings p.taskConstants merged p.allTasks
  Failure.ofError (Error.raise (← Failure.ofFault (resolutionErrors rs)))
  let resolved := resolvedTasks rs
  let stages ← Failure.ofFault (renderStages resolved p.stages)
  let post ← Failure.ofFault (renderPost resolved p)
  Failure.ofError (Error.raise (stages.errors ++ post.errors))
  pure ⟨p.agent.orElse defaultAgent, p.environments, p.options, stages.result, post.result⟩

end Jenkinsfile
