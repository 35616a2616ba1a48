import Jenkinsfile.Argument.Basic

/-! Templates: tasks with scripts of their own, and pipelines that put tasks into stages. -/

namespace Jenkinsfile

/-- The key under which every task is given the context of the run. -/
def systemKey : String := "_system_"

/-- The argument that carries the source control context. -/
def sourceArgument : String := "SCM"

/-- The task that is given the source control context. -/
def cloneTask : String := "Clone"

/-- The post condition that always holds. -/
def alwaysCondition : String := "always"

/-- The conditions under which something can be done after a pipeline. -/
def postConditions : List String :=
  [alwaysCondition, "changed", "fixed", "regression", "aborted", "failure", "success", "unstable",
    "unsuccessful", "cleanup"]

/-- The kinds of source control. -/
inductive SourceKind where
  | git
  | svn
  deriving DecidableEq

/-- The name of a kind of source control. -/
def SourceKind.label : SourceKind → String
  | .git => "GIT"
  | .svn => "SVN"

/-- The source control context of a run. -/
structure SourceControl where
  kind : SourceKind
  repositoryPath : String
  credentialsId : String
  branch : String

/-- The context as the value of an argument. -/
def SourceControl.toValue (s : SourceControl) : Value :=
  .map [("type", .str s.kind.label), ("repositoryPath", .str s.repositoryPath),
    ("credentialsId", .str s.credentialsId), ("branch", .str s.branch)]

/-- Options of a stage or a pipeline; a timeout of zero is none. -/
structure Options where
  timeout : Int

/-- A question that has to be answered before the steps of a stage are run. -/
structure Approval where
  timeout : Int
  message : String

/-- An environment variable. -/
structure Variable where
  name : String
  value : Value

/-- Groovy expressions under `all` and `any`. -/
abbrev Conditions := Table (List String)

/-- What the author of a pipeline fixes for one task. -/
structure TaskConstants where
  arguments : Table Value
  options : Option Options
  approval : Option Approval

/-- A task of a pipeline; its type names the template of its script. -/
structure Task where
  name : String
  type : String
  agent : Value
  options : Option Options
  conditions : Option Conditions
  approval : Option Approval
  environments : List Variable
  relation : Option Relation

/-- A stage of a pipeline template. -/
structure StageTemplate where
  name : String
  conditions : Option Conditions
  tasks : List Task

/-- A script with declared arguments. -/
structure TaskTemplate where
  engine : String
  agent : Value
  body : String
  arguments : List Argument

/-- Stages, what is done after them, and declared arguments. -/
structure PipelineTemplate where
  engine : String
  withSource : Bool
  agent : Value
  stages : List StageTemplate
  post : Option (Table (List Task))
  constants : Option (Table TaskConstants)
  options : Option Options
  sections : List ArgumentSection
  environments : List Variable

/-- Whether the task is shown. -/
def Task.visible (t : Task) (values : Table Value) : Except Failure Bool :=
  Relation.visible? t.relation values

namespace PipelineTemplate

/-- The tasks of the stages in order. -/
def stageTasks (p : PipelineTemplate) : List Task := p.stages.flatMap StageTemplate.tasks

/-- The tasks of the post conditions in order. -/
def postTasks (p : PipelineTemplate) : List Task := (p.post.getD []).flatMap Prod.snd

/-- All tasks: those of the stages, then those of the post conditions. -/
def allTasks (p : PipelineTemplate) : List Task := p.stageTasks ++ p.postTasks

/-- The texts of a list in order of their first occurrence; `seen` are left out. -/
def distinctFrom (seen : List String) : List String → List String
  | [] => []
  | s :: ss => if seen.contains s then distinctFrom seen ss else s :: distinctFrom (s :: seen) ss

/-- The types of all tasks, each once, in order of first use. -/
def taskTypes (p : PipelineTemplate) : List String := distinctFrom [] (p.allTasks.map Task.type)

/-- The declared arguments in order. -/
def arguments (p : PipelineTemplate) : List Argument := ArgumentSection.allArguments p.sections

/-- The declared defaults. -/
def defaults (p : PipelineTemplate) : Table Value := Argument.defaults p.arguments

/-- The constants of the tasks. -/
def taskConstants (p : PipelineTemplate) : Table TaskConstants := p.constants.getD []

end PipelineTemplate

end Jenkinsfile
