import Jenkinsfile.Template.Basic

/-! Pipelines: stages with the scripts that they run, and scripts run after them. -/

namespace Jenkinsfile

/-- A stage of a pipeline.  It runs its own steps, or other stages in parallel if it has any. -/
structure Stage where
  name : String
  agent : Value
  options : Option Options
  conditions : Option Conditions
  approval : Option Approval
  environments : List Variable
  steps : Option String
  failFast : Bool
  stages : List Stage

/-- Whether the stage runs other stages. -/
def Stage.isParallel (s : Stage) : Bool := !s.stages.isEmpty

/-- A stage that runs a script, with nothing else set. -/
def Stage.leaf (name script : String) : Stage :=
  ⟨name, .null, none, none, none, [], some script, false, []⟩

/-- A stage that runs other stages in parallel. -/
def Stage.parallel (name : String) (conditions : Option Conditions) (stages : List Stage) : Stage :=
  ⟨name, .null, none, conditions, none, [], none, false, stages⟩

/-- A script to run under a condition after a pipeline. -/
structure PostAction where
  condition : String
  script : String

/-- A whole pipeline. -/
structure Pipeline where
  agent : Value
  environments : List Variable
  options : Option Options
  stages : List Stage
  post : List PostAction

/-- The script that clears the workspace. -/
def cleanUpScript : String :=
  "\nscript\x7b\n    echo \"clean up workspace\"\n    deleteDir()\n\x7d\n"

end Jenkinsfile
