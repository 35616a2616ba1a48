import Jenkinsfile.Manifest.Check
import Jenkinsfile.Proofs.Template.Accepted

/-! What the checks of definitions refuse with: errors of the template and nothing else, in groups of
whatever depth.  Each check is taken to the checks that it is made of. -/

namespace Jenkinsfile

open Failure

/-- An error with a report in it, all of whose reports are of the template. -/
structure Error.OfTemplate (e : Error) : Prop where
  reported : e.leaves ≠ []
  kind : ∀ r ∈ e.leaves, r.kind = .definition

namespace Error

variable {e : Error} {errors : List Error}

@[simp] theorem ofTemplate_definition (message : String) (data : Table Detail) :
    (definition message data).OfTemplate where
  reported := by simp [definition, leaves]
  kind := by simp [definition, leaves]

theorem OfTemplate.group (hne : errors ≠ []) (h : ∀ e ∈ errors, e.OfTemplate)
    (data : Table Detail) : (Error.group errors data).OfTemplate where
  reported := by
    obtain ⟨e, rest, rfl⟩ := List.exists_cons_of_ne_nil hne
    rw [leaves, leavesOf]
    exact List.append_ne_nil_of_left_ne_nil (h e List.mem_cons_self).reported _
  kind := by
    intro r hr
    rw [leaves, mem_leavesOf] at hr
    obtain ⟨e, he, hr⟩ := hr
    exact (h e he).kind r hr

theorem OfTemplate.isDefinition (h : e.OfTemplate) : e.isDefinition = true := by
  obtain ⟨r, hr⟩ := List.exists_mem_of_ne_nil _ h.reported
  exact List.any_eq_true.mpr ⟨r, hr, by rw [h.kind r hr]; rfl⟩

theorem OfTemplate.contains_eq_false (h : e.OfTemplate) {kind : ErrorKind}
    (hk : kind.covers .definition = false) : e.contains kind = false := by
  rw [contains, List.any_eq_false]
  intro r hr
  rw [h.kind r hr, hk]
  exact Bool.false_ne_true

end Error

/-- Whether a failure is an error of the template alone. -/
def Failure.OfTemplate : Failure → Prop
  | .error e => e.OfTemplate
  | .fault _ => False

/-! ### Checks put together -/

section Checks

theorem failsOnly_definition {α : Type} (message : String) (data : Table Detail) :
    FailsOnly Failure.OfTemplate (ofError (.error (.definition message data) : Except Error α)) :=
  failsOnly_error_iff.mpr (Error.ofTemplate_definition message data)

theorem failsOnly_raise_errors {errors : List Error} (h : ∀ e ∈ errors, e.OfTemplate) :
    FailsOnly Failure.OfTemplate (ofError (Error.raise errors)) := by
  cases errors with
  | nil => exact failsOnly_ok ()
  | cons e errors => exact failsOnly_error_iff.mpr (.group (by simp) h [])

theorem failsOnly_raise_collect {checks : List (Except Error Unit)}
    (h : ∀ c ∈ checks, FailsOnly Failure.OfTemplate (ofError c)) :
    FailsOnly Failure.OfTemplate (ofError (Error.raise (Error.collect checks))) := by
  refine failsOnly_raise_errors fun e he => ?_
  exact h _ (Error.mem_collect_iff.mp he) (.error e) rfl

theorem failsOnly_raise {checks : List (Except Failure Unit)}
    (h : ∀ c ∈ checks, FailsOnly Failure.OfTemplate c) :
    FailsOnly Failure.OfTemplate (raise checks) := by
  have hfaultless : ∀ c ∈ checks, Faultless c := fun c hc f hf => h c hc (.fault f) hf
  obtain ⟨errors, herrors⟩ := exists_collect hfaultless
  rw [raise, herrors]
  refine failsOnly_raise_errors fun e he => ?_
  exact h _ ((mem_of_collect herrors).mp he) (.error e) rfl

end Checks

/-! ### Relations -/

theorem ofTemplate_of_mem_namelessTests (key : String) (i : Nat) (tests : List ValueTest) :
    ∀ e ∈ Condition.namelessTests key i tests, e.OfTemplate := by
  induction tests generalizing i with
  | nil => simp [Condition.namelessTests]
  | cons t tests ih =>
    rw [Condition.namelessTests]
    split
    · exact List.forall_mem_cons.mpr ⟨Error.ofTemplate_definition _ _, ih (i + 1)⟩
    · exact ih (i + 1)

theorem Condition.failsOnly_check (c : Condition) :
    FailsOnly Failure.OfTemplate (ofError c.check) := by
  rw [check]
  split
  · exact failsOnly_definition _ _
  · refine failsOnly_raise_errors fun e he => ?_
    rcases List.mem_append.mp he with he | he
    · exact ofTemplate_of_mem_namelessTests _ _ _ e he
    · exact ofTemplate_of_mem_namelessTests _ _ _ e he

theorem RelationEntry.failsOnly_check (e : RelationEntry) :
    FailsOnly Failure.OfTemplate (ofError e.check) := by
  rw [check]
  refine failsOnly_raise_collect (List.forall_mem_cons.mpr ⟨?_, ?_⟩)
  · rw [action?]
    cases Action.ofLabel? e.action with
    | none => exact failsOnly_definition _ _
    | some a => exact failsOnly_ok ()
  · rw [List.forall_mem_singleton]
    cases e.condition with
    | none => exact failsOnly_definition _ _
    | some c => exact c.failsOnly_check

theorem ofTemplate_of_mem_entryErrors (i : Nat) (seen : List String)
    (entries : List RelationEntry) : ∀ e ∈ Relation.entryErrors i seen entries, e.OfTemplate := by
  induction entries generalizing i seen with
  | nil => simp [Relation.entryErrors]
  | cons entry entries ih =>
    intro e he
    rw [Relation.entryErrors] at he
    rcases List.mem_append.mp he with he | he
    · rcases List.mem_append.mp he with he | he
      · have hentry := Error.mem_collect_iff.mp he
        rw [List.mem_singleton] at hentry
        exact entry.failsOnly_check (.error e) (by rw [← hentry]; rfl)
      · split at he
        · rw [List.mem_singleton.mp he]
          exact Error.ofTemplate_definition _ _
        · cases he
    · exact ih _ _ e he

theorem Relation.failsOnly_check (r : Relation) :
    FailsOnly Failure.OfTemplate (ofError r.check) :=
  failsOnly_raise_errors (ofTemplate_of_mem_entryErrors 0 [] r.entries)

/-! ### Tasks -/

theorem failsOnly_checkAgent (agent : Value) :
    FailsOnly Failure.OfTemplate (ofError (checkAgent agent)) := by
  rw [checkAgent.eq_def]
  split
  · exact failsOnly_ok ()
  · exact failsOnly_ok ()
  · exact failsOnly_ok ()
  · exact failsOnly_definition _ _

namespace Task

theorem failsOnly_require (ok : Bool) (message : String) :
    FailsOnly Failure.OfTemplate (ofError (require ok message)) := by
  cases ok with
  | true => exact failsOnly_ok ()
  | false => exact failsOnly_definition _ _

theorem failsOnly_checkCondition (t : Task) (key : String) :
    FailsOnly Failure.OfTemplate (ofError (t.checkCondition key)) := by
  rw [checkCondition]
  split
  · exact failsOnly_ok ()
  · exact failsOnly_definition _ _

theorem failsOnly_check (t : Task) : FailsOnly Failure.OfTemplate (ofError t.check) := by
  refine failsOnly_raise_collect fun c hc => ?_
  simp only [List.mem_append, List.mem_cons, List.not_mem_nil, or_false, List.mem_map] at hc
  obtain ((rfl | rfl | rfl | rfl) | ⟨entry, -, rfl⟩) | ⟨r, -, rfl⟩ := hc
  · exact failsOnly_require _ _
  · exact failsOnly_require _ _
  · exact failsOnly_checkAgent t.agent
  · exact failsOnly_require _ _
  · exact t.failsOnly_checkCondition entry.1
  · exact r.failsOnly_check

theorem failsOnly_checksFrom (seen : List String) (ts : List Task) :
    ∀ c ∈ checksFrom seen ts, FailsOnly Failure.OfTemplate (ofError c) := by
  induction ts generalizing seen with
  | nil => simp [checksFrom]
  | cons t ts ih =>
    rw [checksFrom, List.forall_mem_cons, List.forall_mem_cons]
    exact ⟨failsOnly_require _ _, t.failsOnly_check, ih _⟩

end Task

theorem StageTemplate.failsOnly_check (s : StageTemplate) :
    FailsOnly Failure.OfTemplate (ofError s.check) := by
  rw [check]
  split
  · exact failsOnly_definition _ _
  · split
    · exact failsOnly_definition _ _
    · exact failsOnly_ok ()

/-! ### Arguments -/

namespace Argument

variable {reg : Registry} {a : Argument} {k : ArgumentKind}

theorem failsOnly_kindOf (a : Argument) (reg : Registry) (place typeName : String) :
    FailsOnly Failure.OfTemplate (ofError (a.kindOf reg place typeName)) := by
  rw [kindOf]
  cases reg.get? typeName with
  | some k => exact failsOnly_ok k
  | none => exact failsOnly_definition _ _

theorem failsOnly_checkDisplayType (a : Argument) (typeId : String) :
    FailsOnly Failure.OfTemplate (ofError (a.checkDisplayType typeId)) := by
  rw [checkDisplayType]
  split
  · exact failsOnly_ok ()
  · exact failsOnly_definition _ _

theorem failsOnly_checkSingleDefinition (a : Argument) (k : ArgumentKind) :
    FailsOnly Failure.OfTemplate (ofError (a.checkSingleDefinition k)) := by
  cases k with
  | string =>
    rw [checkSingleDefinition]
    split
    · split
      · exact failsOnly_definition _ _
      · exact failsOnly_ok ()
    · exact failsOnly_ok ()
  | boolean | int | object | array => exact failsOnly_ok ()
  | record k => exact a.failsOnly_checkDisplayType k.typeId
  | environment => exact a.failsOnly_checkDisplayType _

/-- By induction on the rules of the check, which goes from a list to its items. -/
theorem Checked.failsOnly {r : Except Error Unit} (h : Checked reg a k r) :
    FailsOnly Failure.OfTemplate (ofError r) := by
  induction h with
  | single => exact a.failsOnly_checkSingleDefinition _
  | noItems => exact failsOnly_definition _ _
  | lists => exact failsOnly_definition _ _
  | @unknown items e _ _ hk =>
    have hkind : ofError (a.itemKind reg) = .error (.error e) := by rw [hk, ofError]
    exact failsOnly_error_iff.mpr (a.failsOnly_kindOf reg _ _ _ hkind)
  | items _ _ ih => exact ih

theorem failsOnly_checkBinding (name path : String) :
    FailsOnly Failure.OfTemplate (ofError (checkBinding name path)) := by
  simp only [checkBinding]
  split
  · exact failsOnly_definition _ _
  · split
    · exact failsOnly_definition _ _
    · exact failsOnly_ok ()

theorem failsOnly_checkParts (reg : Registry) (a : Argument) :
    FailsOnly Failure.OfTemplate (ofError (a.checkParts reg)) := by
  rw [checkParts]
  split
  · exact failsOnly_definition _ _
  · split
    · exact failsOnly_definition _ _
    · rw [ofError_bind]
      refine (a.failsOnly_kindOf reg _ _).bind fun k _ => ?_
      cases a.display with
      | none => exact failsOnly_definition _ _
      | some d =>
        dsimp only
        split
        · exact failsOnly_definition _ _
        · split
          · exact failsOnly_definition _ _
          · split
            · exact failsOnly_definition _ _
            · exact failsOnly_ok k

/-- The check ends because lists go by one name. -/
theorem failsOnly_checkKindDefinition (h : reg.ListsOnce) (a : Argument) (k : ArgumentKind) :
    FailsOnly Failure.OfTemplate (a.checkKindDefinition reg k) := by
  intro f hf
  cases f with
  | error e =>
    have hchecked : Checked reg a k (.error e) := checked_iff.mpr hf
    exact hchecked.failsOnly (.error e) rfl
  | fault f =>
    obtain ⟨-, -, hgo⟩ := checkKindDefinition_eq_fault_iff.mp hf
    exact absurd rfl (ne_array_of_goesOn h hgo)

theorem failsOnly_check (h : reg.ListsOnce) (a : Argument) :
    FailsOnly Failure.OfTemplate (a.check reg) := by
  refine (a.failsOnly_checkParts reg).bind fun k _ => failsOnly_raise fun c hc => ?_
  simp only [List.mem_append, List.mem_map, List.mem_singleton] at hc
  obtain (⟨path, -, rfl⟩ | ⟨r, -, rfl⟩) | rfl := hc
  · exact failsOnly_checkBinding a.name path
  · exact r.failsOnly_check
  · exact a.failsOnly_checkKindDefinition h k

theorem failsOnly_definitionChecks (h : reg.ListsOnce) (seen : List String) (args : List Argument) :
    ∀ c ∈ definitionChecks reg seen args, FailsOnly Failure.OfTemplate c := by
  induction args generalizing seen with
  | nil => simp [definitionChecks]
  | cons a args ih =>
    intro c hc
    rw [definitionChecks] at hc
    rcases List.mem_cons.mp hc with rfl | hc
    · exact a.failsOnly_check h
    · rcases List.mem_append.mp hc with hc | hc
      · split at hc
        · rw [List.mem_singleton.mp hc]
          exact failsOnly_definition _ _
        · cases hc
      · exact ih _ c hc

end Argument

/-! ### Templates and manifests -/

theorem TaskTemplate.failsOnly_check (t : TaskTemplate) :
    FailsOnly Failure.OfTemplate t.check := by
  refine failsOnly_raise fun c hc => ?_
  simp only [List.mem_append, List.mem_cons, List.not_mem_nil, or_false] at hc
  obtain (rfl | rfl | rfl) | hc := hc
  · exact Task.failsOnly_require _ _
  · exact Task.failsOnly_require _ _
  · exact failsOnly_checkAgent t.agent
  · exact Argument.failsOnly_definitionChecks Registry.listsOnce_standard [] t.arguments c hc

namespace PipelineTemplate

theorem failsOnly_stageChecks (p : PipelineTemplate) :
    ∀ c ∈ p.stageChecks, FailsOnly Failure.OfTemplate (ofError c) := by
  rw [stageChecks]
  split
  · rw [List.forall_mem_singleton]
    exact failsOnly_definition _ _
  · rw [List.forall_mem_map]
    exact fun s _ => s.failsOnly_check

theorem failsOnly_taskChecks (p : PipelineTemplate) :
    ∀ c ∈ p.taskChecks, FailsOnly Failure.OfTemplate (ofError c) := by
  rw [taskChecks]
  split
  · rw [List.forall_mem_singleton]
    exact failsOnly_definition _ _
  · exact Task.failsOnly_checksFrom [] p.allTasks

theorem failsOnly_check (p : PipelineTemplate) : FailsOnly Failure.OfTemplate p.check := by
  refine failsOnly_raise fun check hcheck => ?_
  rcases List.mem_append.mp hcheck with hcheck | hcheck
  · obtain ⟨c, hc, rfl⟩ := List.mem_map.mp hcheck
    simp only [List.mem_append, List.mem_cons, List.not_mem_nil, or_false] at hc
    obtain (((rfl | rfl) | hc) | hc) | hc := hc
    · exact Task.failsOnly_require _ _
    · exact failsOnly_checkAgent p.agent
    · exact p.failsOnly_stageChecks c hc
    · exact p.failsOnly_taskChecks c hc
    · obtain ⟨entry, -, rfl⟩ := List.mem_map.mp hc
      exact Task.failsOnly_require _ _
  · exact Argument.failsOnly_definitionChecks Registry.listsOnce_standard [] p.arguments _ hcheck

end PipelineTemplate

theorem Metadata.ofTemplate_of_mem {d : Metadata} {e : Error}
    (he : e ∈ d.nameErrors ++ d.annotationErrors ++ d.versionErrors) : e.OfTemplate := by
  rcases List.mem_append.mp he with he | he
  · rcases List.mem_append.mp he with he | he
    · rw [nameErrors] at he
      split at he
      · cases he
      · rw [List.mem_singleton.mp he]
        exact Error.ofTemplate_definition _ _
    · obtain ⟨key, -, rfl⟩ := List.mem_map.mp he
      exact Error.ofTemplate_definition _ _
  · rw [versionErrors] at he
    split at he
    · cases he
    · cases he
    · rw [List.mem_singleton.mp he]
      exact Error.ofTemplate_definition _ _

namespace Manifest

theorem failsOnly_template {α : Type} (m : Manifest) (kind : TemplateKind)
    (read : Value → Shape.Reading α) :
    FailsOnly Failure.OfTemplate (ofError (m.template kind read)) := by
  rw [template]
  split
  · exact failsOnly_definition _ _
  · split
    · exact failsOnly_ok _
    · exact failsOnly_definition _ _

theorem ofTemplate_of_mem_envelopeErrors {m : Manifest} :
    ∀ e ∈ m.envelopeErrors, e.OfTemplate := by
  have hone (ok : Bool) (message : String) :
      ∀ e ∈ (if ok then [] else [Error.definition message]), e.OfTemplate := by
    cases ok <;> simp
  intro e he
  simp only [envelopeErrors, List.mem_append] at he
  obtain ((he | he) | he) | he := he
  · exact hone _ _ e he
  · exact hone _ _ e he
  · cases m.spec <;> simp_all
  · split at he
    · rw [List.mem_singleton.mp he]
      exact Error.ofTemplate_definition _ _
    · exact Metadata.ofTemplate_of_mem he

theorem failsOnly_check [Loader] (m : Manifest) : FailsOnly Failure.OfTemplate m.check := by
  rw [check]
  split
  · refine failsOnly_raise (List.forall_mem_singleton.mpr ?_)
    rw [checkTemplate]
    split
    · exact (m.failsOnly_template _ _).bind fun p _ => p.failsOnly_check
    · exact (m.failsOnly_template _ _).bind fun t _ => t.failsOnly_check
  · exact failsOnly_raise_errors ofTemplate_of_mem_envelopeErrors

end Manifest

/-- Whether a check passes or tells what is wrong with the template: its error has a report in it,
and every report at whatever depth is of the template. -/
def ReportsTemplate (x : Except Failure Unit) : Prop :=
  x = .ok () ∨ ∃ e : Error, x = .error (.error e) ∧ e.leaves ≠ [] ∧
    (∀ r ∈ e.leaves, r.kind = .definition) ∧ e.isDefinition = true ∧ e.isValue = false ∧
      e.isRender = false

theorem Failure.FailsOnly.reportsTemplate {x : Except Failure Unit}
    (h : FailsOnly Failure.OfTemplate x) : ReportsTemplate x := by
  match x, h with
  | .ok (), _ => exact .inl rfl
  | .error (.error e), h =>
    have he : e.OfTemplate := h _ rfl
    exact .inr ⟨e, rfl, he.reported, he.kind, he.isDefinition, he.contains_eq_false rfl,
      he.contains_eq_false rfl⟩
  | .error (.fault f), h => exact (h _ rfl).elim

/-- The checks of pipeline templates, of task templates and of manifests pass or tell what is wrong
with the template. -/
theorem check_reportsTemplate [Loader] :
    (∀ p : PipelineTemplate, ReportsTemplate p.check) ∧
      (∀ t : TaskTemplate, ReportsTemplate t.check) ∧
      ∀ m : Manifest, ReportsTemplate m.check :=
  ⟨fun p => p.failsOnly_check.reportsTemplate, fun t => t.failsOnly_check.reportsTemplate,
    fun m => m.failsOnly_check.reportsTemplate⟩

end Jenkinsfile
