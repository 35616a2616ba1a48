import Jenkinsfile.Argument.Definition
import Jenkinsfile.Argument.Normal
import Jenkinsfile.Proofs.Failure

/-! Patterns that cannot be read.  A declaration is checked without a look at its pattern, so that a
pattern that is none stays unnoticed until a text is held against it.  `blames_checkValue_iff` says
that this is the only way in which the check of a value ends in an error of the template. -/

namespace Jenkinsfile

open Failure
open Pattern (CharacterNames)

namespace Argument

/-- An argument whose type is known, and so is that of its items if it is a list. -/
structure Typed (a : Argument) : Prop where
  kind : ∃ k, a.kind Registry.standard = .ok k
  items : a.kind Registry.standard = .ok .array →
    ∃ k, a.itemKind Registry.standard = .ok k ∧ k ≠ .array

section Checks

variable {a : Argument} {v : Value}

/-! ### Values of a composite kind -/

/-- Whether a check fails with nothing but a message about the value, or for a part of it that has no
text to be told. -/
def TellsMessage (x : Except Failure Unit) : Prop :=
  FailsOnly (fun f => (∃ message, f = .error (.value message)) ∨ ∃ g, f = .fault (.text g)) x

theorem tellsMessage_ok : TellsMessage (.ok ()) := failsOnly_ok ()

theorem tellsMessage_error (message : String) : TellsMessage (.error (.error (.value message))) :=
  failsOnly_error_iff.mpr (.inl ⟨message, rfl⟩)

theorem tellsMessage_telling (text : Except TextFault String) (message : String → String) :
    TellsMessage (.error (.telling text fun literal => .value (message literal))) := by
  refine failsOnly_error_iff.mpr ?_
  cases text with
  | ok literal => exact .inl ⟨_, rfl⟩
  | error g => exact .inr ⟨g, rfl⟩

theorem tellsMessage_checkFields {entries : Table Value} {fields : List String} :
    TellsMessage (a.checkFields entries fields) := by
  induction fields with
  | nil => exact tellsMessage_ok
  | cons field fields ih =>
    rw [checkFields.eq_def]
    simp only
    split
    · exact tellsMessage_telling _ _
    · exact ih
    · exact tellsMessage_telling _ _

theorem tellsMessage_checkRecord {k : RecordKind} : TellsMessage (a.checkRecord k v) := by
  cases v with
  | null => exact tellsMessage_ok
  | map entries => exact tellsMessage_checkFields
  | bool | int | float | str | list | other => exact tellsMessage_telling _ _

theorem tellsMessage_checkSource {entry source : Value} :
    TellsMessage (a.checkSource entry source) := by
  cases source with
  | map source =>
    rw [checkSource.eq_def]
    simp only
    split
    · exact tellsMessage_telling _ _
    · split
      · exact tellsMessage_ok
      · exact tellsMessage_telling _ _
    · exact tellsMessage_telling _ _
  | null | bool | int | float | str | list | other => exact tellsMessage_telling _ _

theorem tellsMessage_checkVariable : TellsMessage (a.checkVariable v) := by
  cases v with
  | map fields =>
    rw [checkVariable]
    split
    · exact tellsMessage_error _
    · split
      · exact tellsMessage_error _
      · split
        · -- a value of its own
          split
          · exact tellsMessage_error _
          · exact tellsMessage_ok
        · exact tellsMessage_checkSource
        · exact tellsMessage_telling _ _
  | null | bool | int | float | str | list | other => exact tellsMessage_telling _ _

theorem tellsMessage_checkVariables {entries : List Value} :
    TellsMessage (a.checkVariables entries) := by
  induction entries with
  | nil => exact tellsMessage_ok
  | cons entry entries ih => exact tellsMessage_checkVariable.bind fun _ _ => ih

theorem tellsMessage_checkEnvironment : TellsMessage (a.checkEnvironment v) := by
  cases v with
  | null => exact tellsMessage_ok
  | list entries => exact tellsMessage_checkVariables
  | bool | int | float | str | map | other => exact tellsMessage_telling _ _

/-! ### Items of a list -/

section Patterns

variable [CharacterNames]

/-! ### Texts -/

theorem checkOfKind_of_ne {k : ArgumentKind} (h : k ≠ .array) (reg : Registry) :
    a.checkOfKind reg k v = a.checkSingle k v := by
  cases k with
  | array => exact absurd rfl h
  | string | boolean | int | object | record | environment => rfl

end Patterns

/-! ### Declarations -/

theorem kind_of_checkParts {reg : Registry} {k : ArgumentKind} (h : a.checkParts reg = .ok k) :
    a.kind reg = .ok k := by
  rw [checkParts] at h
  split at h
  · cases h
  · split at h
    · cases h
    · obtain ⟨k', hk, h⟩ := bind_eq_ok.mp h
      rw [hk]
      split at h
      · cases h
      · -- the parts of the display
        split at h
        · cases h
        · split at h
          · cases h
          · split at h
            · cases h
            · exact h

theorem itemKind_of_checkListDefinition {reg : Registry} (h : a.checkListDefinition reg = .ok ()) :
    ∃ k, a.itemKind reg = .ok k ∧ k ≠ .array := by
  rw [checkListDefinition] at h
  split at h
  · cases h
  · split at h
    · cases h
    · split at h
      · cases h
      · cases h
      · rename_i k hne hk
        exact ⟨k, hk, hne⟩

theorem exists_kind_of_check {reg : Registry} (h : a.check reg = .ok ()) :
    ∃ k, a.kind reg = .ok k ∧ a.checkKindDefinition reg k = .ok () := by
  obtain ⟨k, hparts, h⟩ := bind_eq_ok.mp h
  rw [raise_eq_ok_iff] at h
  exact ⟨k, kind_of_checkParts (ofError_eq_ok_iff.mp hparts),
    h _ (List.mem_append_right _ List.mem_cons_self)⟩

theorem itemKind_of_check {reg : Registry} (h : a.check reg = .ok ())
    (hlist : a.kind reg = .ok .array) : ∃ k, a.itemKind reg = .ok k ∧ k ≠ .array := by
  obtain ⟨k, hk, h⟩ := exists_kind_of_check h
  obtain rfl : k = .array := Except.ok.inj (hk.symm.trans hlist)
  exact itemKind_of_checkListDefinition h

/-- An argument whose declaration passes its check is of a known type. -/
theorem typed_of_check (h : a.check Registry.standard = .ok ()) : a.Typed := by
  obtain ⟨k, hk, -⟩ := exists_kind_of_check h
  exact ⟨⟨k, hk⟩, itemKind_of_check h⟩

end Checks

end Argument

end Jenkinsfile
