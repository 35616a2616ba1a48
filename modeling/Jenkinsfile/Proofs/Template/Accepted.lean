import Jenkinsfile.Pipeline.Compile
import Jenkinsfile.Proofs.Argument.Registration
import Jenkinsfile.Proofs.Relation.Meaning

/-! Templates that pass their check.  What the check asks for is what the later steps rely on: names
of tasks are distinct, relations are settled, and bindings lead somewhere. -/

namespace Jenkinsfile

/-- An argument whose relation is settled and whose bindings lead somewhere. -/
structure Argument.Sound (a : Argument) : Prop where
  settled : Relation.Settled a.relation
  targets : ∀ path ∈ a.bindings, ∃ target, Binding.target a.name path = .ok target

/-- A pipeline template that later steps can rely on. -/
structure PipelineTemplate.Accepted (p : PipelineTemplate) : Prop where
  names : (p.allTasks.map Task.name).Nodup
  settled : ∀ t ∈ p.allTasks, Relation.Settled t.relation
  arguments : ∀ a ∈ Compile.suppliedArguments p, a.Sound

namespace Task

theorem require_eq_ok_iff {ok : Bool} {message : String} :
    require ok message = .ok () ↔ ok = true := by
  cases ok <;> simp [require]

theorem relation_of_check {t : Task} (h : t.check = .ok ()) : ∀ r ∈ t.relation, r.check = .ok () := by
  rw [check, Error.raise_collect_eq_ok_iff] at h
  intro r hr
  refine h r.check (List.mem_append_right _ (List.mem_map.mpr ⟨r, ?_, rfl⟩))
  rwa [Option.mem_toList]

/-- No name comes twice among tasks that pass their checks. -/
theorem checksFrom_ok {seen : List String} {ts : List Task}
    (h : ∀ c ∈ checksFrom seen ts, c = .ok ()) :
    (ts.map Task.name).Nodup ∧ ∀ t ∈ ts, t.name ∉ seen ∧ t.check = .ok () := by
  induction ts generalizing seen with
  | nil => simp
  | cons t ts ih =>
    simp only [checksFrom, List.mem_cons, forall_eq_or_imp, require_eq_ok_iff] at h
    obtain ⟨hseen, hcheck, h⟩ := h
    obtain ⟨hn, hts⟩ := ih h
    simp only [List.mem_cons, not_or] at hts
    refine ⟨List.nodup_cons.mpr ⟨?_, hn⟩, fun u hu => ?_⟩
    · intro hmem
      obtain ⟨u, hu, hname⟩ := List.mem_map.mp hmem
      exact (hts u hu).1.1 hname
    · rcases List.mem_cons.mp hu with rfl | hu
      · exact ⟨by simpa using hseen, hcheck⟩
      · exact ⟨(hts u hu).1.2, (hts u hu).2⟩

end Task

namespace Argument

theorem segments_of_checkBinding {name path : String} (h : checkBinding name path = .ok ()) :
    2 ≤ (Text.splitOn ['.'] path.toList).length ∧
      (∀ s ∈ Text.splitOn ['.'] path.toList, s ≠ []) ∧
      ((Text.splitOn ['.'] path.toList)[1]? = some "args".toList →
        3 ≤ (Text.splitOn ['.'] path.toList).length) := by
  simp only [checkBinding] at h
  generalize Text.splitOn ['.'] path.toList = segments at h ⊢
  split at h
  · cases h
  · rename_i hshort
    split at h
    · cases h
    · rename_i hargs
      simp only [Bool.or_eq_true, decide_eq_true_eq, List.any_eq_true, List.isEmpty_iff, not_or,
        not_exists, not_and, Nat.not_lt] at hshort
      simp only [Bool.and_eq_true, decide_eq_true_eq, not_and, Nat.not_lt] at hargs
      exact ⟨hshort.1, hshort.2, hargs⟩

theorem target_of_checkBinding {name path : String} (h : checkBinding name path = .ok ()) :
    ∃ target, Binding.target name path = .ok target := by
  obtain ⟨hlen, hne, hargs⟩ := segments_of_checkBinding h
  rw [Binding.target]
  match hs : Text.splitOn ['.'] path.toList with
  | [] | [_] => simp [hs] at hlen
  | task :: scope :: rest =>
    rw [hs] at hne hargs
    by_cases hscope : scope = "args".toList
    · match rest with
      | [] => simp [hscope] at hargs
      | name :: rest =>
        have hname : name.isEmpty = false := by simpa using hne name (by simp)
        exact ⟨_, by simp only [if_pos hscope, hname, Bool.false_eq_true, if_false]; rfl⟩
    · exact ⟨_, by simp only [if_neg hscope]; rfl⟩

theorem sound_of_check {reg : Registry} {a : Argument} (h : a.check reg = .ok ()) : a.Sound := by
  obtain ⟨k, -, h⟩ := bind_eq_ok.mp h
  rw [Failure.raise_eq_ok_iff] at h
  have hr : ∀ r ∈ a.relation, r.check = .ok () := by
    intro r hr
    refine Failure.ofError_eq_ok_iff.mp (h _ ?_)
    exact List.mem_append_left _ (List.mem_append_right _
      (List.mem_map.mpr ⟨r, Option.mem_toList.mpr hr, rfl⟩))
  refine ⟨Relation.settled_of_check hr, fun path hp => ?_⟩
  apply target_of_checkBinding
  refine Failure.ofError_eq_ok_iff.mp (h _ ?_)
  exact List.mem_append_left _ (List.mem_append_left _ (List.mem_map.mpr ⟨path, hp, rfl⟩))

/-- The parts of a declaration that its check asks for, other than those that are looked at first. -/
theorem check_of_parts {reg : Registry} {a : Argument} {k : ArgumentKind}
    (hparts : a.checkParts reg = .ok k)
    (hpaths : ∀ path ∈ a.bindings, checkBinding a.name path = .ok ())
    (hrelation : ∀ r ∈ a.relation, r.check = .ok ())
    (hkind : a.checkKindDefinition reg k = .ok ()) : a.check reg = .ok () := by
  rw [check, hparts]
  refine Failure.raise_eq_ok_iff.mpr fun c hc => ?_
  simp only [List.mem_append, List.mem_map, List.mem_singleton, Option.mem_toList] at hc
  obtain (⟨path, hpath, rfl⟩ | ⟨r, hr, rfl⟩) | rfl := hc
  · rw [hpaths path hpath]
    rfl
  · rw [hrelation r hr]
    rfl
  · exact hkind

theorem check_of_definitionChecks {reg : Registry} {seen : List String} {args : List Argument}
    (h : ∀ c ∈ definitionChecks reg seen args, c = .ok ()) : ∀ a ∈ args, a.check reg = .ok () := by
  induction args generalizing seen with
  | nil => simp
  | cons a args ih =>
    simp only [definitionChecks, List.cons_append, List.mem_cons, forall_eq_or_imp] at h
    intro b hb
    rcases List.mem_cons.mp hb with rfl | hb
    · exact h.1
    · exact ih (fun c hc => h.2 c (List.mem_append_right _ hc)) b hb

theorem name_ne_empty_of_check {reg : Registry} {a : Argument} (h : a.check reg = .ok ()) :
    a.name ≠ "" := by
  intro hname
  rw [check, checkParts, hname] at h
  cases h

/-- No name comes twice among declarations that pass their checks. -/
theorem names_of_definitionChecks {reg : Registry} {seen : List String} {args : List Argument}
    (h : ∀ c ∈ definitionChecks reg seen args, c = .ok ()) :
    (args.map name).Nodup ∧ ∀ a ∈ args, a.name ∉ seen := by
  induction args generalizing seen with
  | nil => simp
  | cons a args ih =>
    simp only [definitionChecks, List.cons_append, List.mem_cons, List.mem_append,
      forall_eq_or_imp] at h
    obtain ⟨hcheck, h⟩ := h
    obtain ⟨hn, hargs⟩ := ih fun c hc => h c (.inr hc)
    simp only [List.mem_cons, not_or] at hargs
    have hseen : a.name ∉ seen := by
      intro hmem
      have hdouble : (!a.name.isEmpty && seen.contains a.name) = true := by
        simp [name_ne_empty_of_check hcheck, hmem]
      rw [if_pos hdouble] at h
      cases h _ (.inl List.mem_cons_self)
    refine ⟨List.nodup_cons.mpr ⟨fun hmem => ?_, hn⟩, fun b hb => ?_⟩
    · obtain ⟨b, hb, hname⟩ := List.mem_map.mp hmem
      exact (hargs b hb).1 hname
    · rcases List.mem_cons.mp hb with rfl | hb
      · exact hseen
      · exact (hargs b hb).2

theorem check_faultless (a : Argument) : Failure.Faultless (a.check Registry.standard) :=
  faultless_check_iff.mpr (not_endless_of_listsOnce Registry.listsOnce_standard a)

theorem definitionChecks_faultless (seen : List String) (args : List Argument) :
    ∀ c ∈ definitionChecks Registry.standard seen args, Failure.Faultless c := by
  induction args generalizing seen with
  | nil => simp [definitionChecks]
  | cons a args ih =>
    intro c hc
    rw [definitionChecks] at hc
    rcases List.mem_cons.mp hc with rfl | hc
    · exact a.check_faultless
    · rcases List.mem_append.mp hc with hc | hc
      · split at hc
        · rw [List.mem_singleton.mp hc]
          simp [Failure.Faultless]
        · cases hc
      · exact ih _ c hc

end Argument

theorem Compile.sourceDeclaration_sound : sourceDeclaration.Sound where
  settled := Relation.settled_of_check (by simp [sourceDeclaration])
  targets := by
    intro path hp
    obtain rfl := List.mem_singleton.mp hp
    exact ⟨(cloneTask, .argument sourceArgument), by cbv⟩

/-- A template that passes its check without arguments passes it with one that does so too. -/
theorem PipelineTemplate.check_of_argument {p : PipelineTemplate} {a : Argument}
    (hp : ({ p with sections := [] } : PipelineTemplate).check = .ok ()) (hargs : p.arguments = [a])
    (ha : a.check Registry.standard = .ok ()) : p.check = .ok () := by
  rw [check, Failure.raise_eq_ok_iff] at hp ⊢
  intro c hc
  rcases List.mem_append.mp hc with hc | hc
  · exact hp c (List.mem_append_left _ hc)
  · obtain rfl : c = a.check Registry.standard := by
      simpa [hargs, Argument.definitionChecks] using hc
    exact ha

/-- A pipeline template that does not pass its check tells its errors as a group. -/
theorem PipelineTemplate.check_eq_error {p : PipelineTemplate} {f : Failure}
    (h : p.check = .error f) : ∃ e errors, f = .error (.group (e :: errors) []) := by
  refine Failure.raise_eq_error (fun c hc => ?_) h
  rcases List.mem_append.mp hc with hc | hc
  · obtain ⟨_, -, rfl⟩ := List.mem_map.mp hc
    exact Failure.faultless_ofError _
  · exact Argument.definitionChecks_faultless [] p.arguments c hc

/-- The arguments of a pipeline are the declared ones and at most that of the source control
context. -/
theorem Compile.mem_suppliedArguments {p : PipelineTemplate} {a : Argument}
    (h : a ∈ suppliedArguments p) :
    a ∈ p.arguments ∨ p.withSource = true ∧ a = sourceDeclaration := by
  rw [suppliedArguments] at h
  split at h
  · rename_i hsource
    rcases List.mem_append.mp h with h | h
    · exact .inl h
    · exact .inr ⟨hsource, List.mem_singleton.mp h⟩
  · exact .inl h

namespace PipelineTemplate

variable {p : PipelineTemplate}

theorem arguments_of_check (h : p.check = .ok ()) :
    ∀ a ∈ p.arguments, a.check Registry.standard = .ok () := by
  rw [check, Failure.raise_eq_ok_iff] at h
  exact Argument.check_of_definitionChecks fun c hc => h c (List.mem_append_right _ hc)

theorem tasks_of_check (h : p.check = .ok ()) :
    (p.allTasks.map Task.name).Nodup ∧ ∀ t ∈ p.allTasks, t.check = .ok () := by
  rw [check, Failure.raise_eq_ok_iff] at h
  have htasks : ∀ c ∈ p.taskChecks, c = .ok () := by
    intro c hc
    refine Failure.ofError_eq_ok_iff.mp (h _ (List.mem_append_left _ (List.mem_map.mpr ⟨c, ?_, rfl⟩)))
    exact List.mem_append_left _ (List.mem_append_right _ hc)
  rw [taskChecks] at htasks
  split at htasks
  · cases htasks _ List.mem_cons_self
  · obtain ⟨hn, ht⟩ := Task.checksFrom_ok htasks
    exact ⟨hn, fun t hm => (ht t hm).2⟩

end PipelineTemplate

/-- A pipeline template that passes its check can be relied on. -/
theorem PipelineTemplate.accepted_of_check {p : PipelineTemplate} (h : p.check = .ok ()) :
    p.Accepted := by
  obtain ⟨hn, htasks⟩ := p.tasks_of_check h
  refine ⟨hn, fun t ht => ?_, fun a ha => ?_⟩
  · exact Relation.settled_of_check (Task.relation_of_check (htasks t ht))
  · rcases Compile.mem_suppliedArguments ha with ha | ⟨-, rfl⟩
    · exact Argument.sound_of_check (p.arguments_of_check h a ha)
    · exact Compile.sourceDeclaration_sound

theorem PipelineTemplate.names_of_check {p : PipelineTemplate} (h : p.check = .ok ()) :
    (p.arguments.map Argument.name).Nodup := by
  rw [check, Failure.raise_eq_ok_iff] at h
  exact (Argument.names_of_definitionChecks fun c hc => h c (List.mem_append_right _ hc)).1

end Jenkinsfile
