import Jenkinsfile.Argument.Definition
import Jenkinsfile.Template.Basic

/-! Checks of templates.  Each reports all errors of its template together. -/

namespace Jenkinsfile

/-- An agent is nothing, a text or a map. -/
def checkAgent (agent : Value) : Except Error Unit :=
  match agent with
  | .null | .str _ | .map _ => .ok ()
  | agent =>
    .error (.definition ("agent should be string or mapping, but got " ++ agent.typeName)
      [("agent", .value agent)])

namespace Task

/-- Conditions stand under `all` and `any` only. -/
def checkCondition (t : Task) (key : String) : Except Error Unit :=
  if key = "all" || key = "any" then .ok ()
  else
    .error (.definition ("task " ++ t.name ++ ".conditions key `" ++ key ++
      "` should be all or any"))

/-- Refuses a task unless `ok` holds. -/
def require (ok : Bool) (message : String) : Except Error Unit :=
  if ok then .ok () else .error (.definition message)

/-- A task has a name without a dot, a type and an agent; its conditions and its relation are well
formed. -/
def check (t : Task) : Except Error Unit :=
  Error.raise (Error.collect (
    [require (!t.name.isEmpty) "task.name should not be empty",
      require (!t.type.isEmpty) ("task " ++ t.name ++ ".type should not be empty"),
      checkAgent t.agent,
      require (!t.name.toList.contains '.')
        ("task name " ++ t.name ++ " should not contain dot")] ++
    (t.conditions.getD []).map (fun c => t.checkCondition c.1) ++
    t.relation.toList.map Relation.check))

/-- The checks of tasks, each after that of its name, which no task before has; `seen` are the names
before. -/
def checksFrom (seen : List String) : List Task → List (Except Error Unit)
  | [] => []
  | t :: ts =>
    require (!seen.contains t.name) ("task name " ++ t.name ++ " should be unique") :: t.check ::
      checksFrom (t.name :: seen) ts

end Task

/-- A stage has a name and a task. -/
def StageTemplate.check (s : StageTemplate) : Except Error Unit :=
  if Text.isAllBlank s.name then .error (.definition "stage.name should not be empty")
  else if s.tasks.isEmpty then
    .error (.definition ("stage `" ++ s.name ++ "`'s tasks should be one at least"))
  else .ok ()

/-- A task template has a body that is not blank, a known engine and an agent, and its arguments are
well formed. -/
def TaskTemplate.check (t : TaskTemplate) : Except Failure Unit :=
  Failure.raise (
    [Failure.ofError (Task.require (!Text.isAllBlank t.body)
        "task template body should not be empty"),
      Failure.ofError (Task.require (["", "interpolate"].contains t.engine)
        ("task template engine `" ++ t.engine ++ "` is not supported")),
      Failure.ofError (checkAgent t.agent)] ++
    Argument.definitionChecks Registry.standard [] t.arguments)

namespace PipelineTemplate

/-- There is a stage, and every stage is well formed. -/
def stageChecks (p : PipelineTemplate) : List (Except Error Unit) :=
  if p.stages.isEmpty then [.error (.definition "stages should be one at least")]
  else p.stages.map StageTemplate.check

/-- There is a task, no name comes twice, and every task is well formed. -/
def taskChecks (p : PipelineTemplate) : List (Except Error Unit) :=
  if p.allTasks.isEmpty then [.error (.definition "tasks should be one at least")]
  else Task.checksFrom [] p.allTasks

/-- Every post condition is a known one. -/
def postChecks (p : PipelineTemplate) : List (Except Error Unit) :=
  (p.post.getD []).map fun e =>
    Task.require (postConditions.contains e.1)
      ("post condition `" ++ e.1 ++ "` is not supported, it should be one of " ++
        ", ".intercalate postConditions)

/-- A pipeline template has a known engine and an agent, and its stages, tasks, post conditions and
arguments are well formed. -/
def check (p : PipelineTemplate) : Except Failure Unit :=
  Failure.raise (
    ([Task.require (["", "graph"].contains p.engine)
          ("pipeline engine `" ++ p.engine ++ "` is not supported"),
        checkAgent p.agent] ++
      p.stageChecks ++ p.taskChecks ++ p.postChecks).map Failure.ofError ++
    Argument.definitionChecks Registry.standard [] p.arguments)

end PipelineTemplate

end Jenkinsfile
