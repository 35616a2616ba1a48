import Jenkinsfile.Proofs.Template.Accepted

/-! What a task is given: the values that visible arguments lead to it, the context of the run and
the constants of the pipeline.  `resolve_spec` says that the bindings of a pipeline are just that,
task by task. -/

namespace Jenkinsfile

/-- A value on its way to a place in a task. -/
structure Lead where
  task : String
  place : Target
  value : Value

/-- The ways of an argument's value. -/
def Argument.leads (a : Argument) (values : Table Value) (paths : List String) : List Lead :=
  paths.filterMap fun path =>
    (Binding.target a.name path).toOption.map fun r =>
      ⟨r.1, r.2, (values.get? a.name).getD .null⟩

namespace Supply

/-- The ways of the values of visible arguments, in order. -/
def leads (args : List Argument) (values : Table Value) : List Lead :=
  (args.filter fun a => isShown a.relation values).flatMap fun a => a.leads values a.bindings

/-- A binding with the values of leads put at their places, in order. -/
def putAll (b : TaskBinding) (ls : List Lead) : TaskBinding :=
  ls.foldl (fun b l => Binding.put b l.value l.place) b

/-- What leads bring to a task. -/
def boundTo (ls : List Lead) (task : String) : TaskBinding :=
  putAll ⟨[], []⟩ (ls.filter (·.task = task))

/-- A binding with the context of the run, if there is one. -/
def withContext (values : Table Value) (b : TaskBinding) : TaskBinding :=
  let context := (values.get? systemKey).getD .null
  if context.isNull then b else { b with arguments := b.arguments.insert systemKey context }

/-- What arguments and the context of the run bring to a task. -/
def taskBinding (args : List Argument) (values : Table Value) (task : String) : TaskBinding :=
  withContext values (boundTo (leads args values) task)

/-- Bindings with leads put in, in order. -/
def carry (bindings : Table TaskBinding) (ls : List Lead) : Table TaskBinding :=
  ls.foldl (fun bs l =>
    bs.insert l.task (Binding.put ((bs.get? l.task).getD ⟨[], []⟩) l.value l.place)) bindings

section Carry

variable {args : List Argument} {values : Table Value} {bindings : Table TaskBinding}
  {ls : List Lead} {task : String}

theorem carry_append (bindings : Table TaskBinding) (ls more : List Lead) :
    carry bindings (ls ++ more) = carry (carry bindings ls) more := List.foldl_append ..

/-- A task is brought what is led to it and nothing else. -/
theorem get?_carry (bindings : Table TaskBinding) (ls : List Lead) (task : String) :
    ((carry bindings ls).get? task).getD ⟨[], []⟩ =
      putAll ((bindings.get? task).getD ⟨[], []⟩) (ls.filter (·.task = task)) := by
  induction ls generalizing bindings with
  | nil => rfl
  | cons l ls ih =>
    rw [carry, List.foldl_cons, ← carry, ih, Table.get?_insert]
    by_cases h : l.task = task
    · subst h
      simp [putAll]
    · rw [if_neg (Ne.symm h), List.filter_cons_of_neg (by simpa using h)]

theorem has_carry_iff :
    (carry bindings ls).has task = true ↔ bindings.has task = true ∨ ∃ l ∈ ls, l.task = task := by
  induction ls generalizing bindings with
  | nil => simp [carry]
  | cons l ls ih =>
    rw [carry, List.foldl_cons, ← carry, ih, Table.has, Table.get?_insert]
    by_cases h : task = l.task
    · simp [h]
    · simp [h, Ne.symm h, Table.has]

theorem bindPaths_eq {a : Argument} {paths : List String}
    (h : ∀ path ∈ paths, ∃ target, Binding.target a.name path = .ok target)
    (bindings : Table TaskBinding) :
    Binding.bindPaths a.name ((values.get? a.name).getD .null) bindings paths =
      .ok (carry bindings (a.leads values paths)) := by
  induction paths generalizing bindings with
  | nil => rfl
  | cons path paths ih =>
    obtain ⟨⟨task, place⟩, ht⟩ := h path List.mem_cons_self
    rw [Binding.bindPaths, ht]
    have hleads : a.leads values (path :: paths) =
        ⟨task, place, (values.get? a.name).getD .null⟩ :: a.leads values paths := by
      simp [Argument.leads, ht, Except.toOption]
    rw [hleads]
    exact ih (fun path hp => h path (List.mem_cons_of_mem _ hp)) _

theorem leads_cons (a : Argument) (args : List Argument) (values : Table Value) :
    leads (a :: args) values = leads [a] values ++ leads args values := by
  cases hs : isShown a.relation values <;> simp [leads, hs]

/-- What an argument of which it is decided whether it is shown adds to the bindings. -/
theorem bindAll_cons {a : Argument} (hshown : a.visible values = .ok (isShown a.relation values))
    (htargets : ∀ path ∈ a.bindings, ∃ target, Binding.target a.name path = .ok target)
    (bindings : Table TaskBinding) (args : List Argument) :
    Binding.bindAll values bindings (a :: args) =
      Binding.bindAll values (carry bindings (leads [a] values)) args := by
  rw [Binding.bindAll, hshown]
  cases hs : isShown a.relation values with
  | true =>
    have hleads : leads [a] values = a.leads values a.bindings := by simp [leads, hs]
    simp only [bind, Except.bind, if_true, bindPaths_eq htargets, Failure.ofError, hleads]
  | false =>
    have hleads : leads [a] values = [] := by simp [leads, hs]
    rw [hleads]
    rfl

theorem bindAll_eq (hshown : ∀ a ∈ args, a.visible values = .ok (isShown a.relation values))
    (htargets : ∀ a ∈ args, ∀ path ∈ a.bindings, ∃ target, Binding.target a.name path = .ok target)
    (bindings : Table TaskBinding) :
    Binding.bindAll values bindings args = .ok (carry bindings (leads args values)) := by
  induction args generalizing bindings with
  | nil => rfl
  | cons a args ih =>
    have ih := ih (fun b hb => hshown b (List.mem_cons_of_mem _ hb))
      fun b hb => htargets b (List.mem_cons_of_mem _ hb)
    rw [bindAll_cons (hshown a List.mem_cons_self) (htargets a List.mem_cons_self), ih,
      leads_cons a args, carry_append]

/-- A number too long for the relation of some argument ends the work. -/
theorem bindAll_eq_error (h : ∀ a ∈ args, a.Sound)
    (hlong : ¬ ∀ a ∈ args, Relation.Legible a.relation values) (bindings : Table TaskBinding) :
    Binding.bindAll values bindings args = .error Failure.longNumber := by
  induction args generalizing bindings with
  | nil => simp at hlong
  | cons a args ih =>
    have ha := h a List.mem_cons_self
    obtain ⟨hshown, hlegible⟩ | ⟨hstop, -⟩ := ha.settled values
    · rw [bindAll_cons hshown ha.targets]
      refine ih (fun b hb => h b (List.mem_cons_of_mem _ hb)) (fun hargs => hlong ?_) _
      exact List.forall_mem_cons.mpr ⟨hlegible, hargs⟩
    · rw [Binding.bindAll, Argument.visible, hstop]
      rfl

theorem get?_overlay_empty {tasks : List String} {bindings : Table TaskBinding}
    (h : (bindings.get? task).getD ⟨[], []⟩ = ⟨[], []⟩) :
    ((bindings.overlay (tasks.map fun name => (name, ⟨[], []⟩))).get? task).getD ⟨[], []⟩ =
      ⟨[], []⟩ := by
  induction tasks generalizing bindings with
  | nil => exact h
  | cons name tasks ih =>
    refine ih ?_
    rw [Table.get?_insert]
    split
    · rfl
    · exact h

/-- The bindings are those of the named tasks and of all tasks that something is led to, and each is
what is led to its task. -/
theorem resolve_eq (hshown : ∀ a ∈ args, a.visible values = .ok (isShown a.relation values))
    (htargets : ∀ a ∈ args, ∀ path ∈ a.bindings, ∃ target, Binding.target a.name path = .ok target)
    (tasks : List String) :
    ∃ bindings, Binding.resolve args values tasks = .ok bindings ∧
      (∀ task, bindings.has task = true ↔
        task ∈ tasks ∨ ∃ l ∈ leads args values, l.task = task) ∧
      ∀ task b, bindings.get? task = some b → b = taskBinding args values task := by
  rw [Binding.resolve, bindAll_eq hshown htargets]
  simp only [bind, Except.bind]
  have hhas (task : String) : (Table.ofEntries (tasks.map fun name =>
      (name, TaskBinding.mk [] []))).has task = true ↔ task ∈ tasks := by
    rw [Table.has_ofEntries_iff]
    simp
  have hempty (task : String) : ((Table.ofEntries (tasks.map fun name =>
      (name, TaskBinding.mk [] []))).get? task).getD ⟨[], []⟩ = ⟨[], []⟩ := get?_overlay_empty rfl
  generalize Table.ofEntries (tasks.map fun name => (name, TaskBinding.mk [] [])) = empty
    at hhas hempty
  have hcarry (task : String) : (carry empty (leads args values)).has task = true ↔
      task ∈ tasks ∨ ∃ l ∈ leads args values, l.task = task := by
    rw [has_carry_iff, hhas]
  have hget {task : String} {b : TaskBinding}
      (hb : (carry empty (leads args values)).get? task = some b) :
      b = boundTo (leads args values) task := by
    have hget := get?_carry empty (leads args values) task
    rwa [hb, hempty, Option.getD_some, ← boundTo] at hget
  split
  · rename_i hnull
    refine ⟨_, rfl, hcarry, fun task b hb => ?_⟩
    rw [taskBinding, withContext, if_pos hnull, hget hb]
  · rename_i hnull
    have hmap := Table.get?_map (carry empty (leads args values)) (fun b : TaskBinding =>
      { b with arguments := b.arguments.insert systemKey ((values.get? systemKey).getD .null) })
    refine ⟨_, rfl, fun task => ?_, fun task b hb => ?_⟩
    · rw [Table.has, hmap, Option.isSome_map, ← Table.has]
      exact hcarry task
    · rw [hmap] at hb
      obtain ⟨bound, hbound, rfl⟩ := Option.map_eq_some_iff.mp hb
      rw [taskBinding, withContext, if_neg hnull, hget hbound]

/-- The bindings of sound arguments bring every named task what is led to it. -/
theorem resolve_spec (h : ∀ a ∈ args, a.Sound)
    (hlegible : ∀ a ∈ args, Relation.Legible a.relation values) (tasks : List String) :
    ∃ bindings, Binding.resolve args values tasks = .ok bindings ∧
      ∀ task ∈ tasks, (bindings.get? task).getD ⟨[], []⟩ = taskBinding args values task := by
  have hshown : ∀ a ∈ args, a.visible values = .ok (isShown a.relation values) := fun a ha =>
    ((h a ha).settled values).elim And.left fun hstop => absurd (hlegible a ha) hstop.2
  obtain ⟨bindings, hbindings, hhas, hget⟩ :=
    resolve_eq hshown (fun a ha => (h a ha).targets) tasks
  refine ⟨bindings, hbindings, fun task ht => ?_⟩
  obtain ⟨b, hb⟩ := Option.isSome_iff_exists.mp ((hhas task).mpr (.inl ht))
  rw [hb, Option.getD_some, hget task b hb]

theorem resolve_eq_error (h : ∀ a ∈ args, a.Sound)
    (hlong : ¬ ∀ a ∈ args, Relation.Legible a.relation values) (tasks : List String) :
    Binding.resolve args values tasks = .error Failure.longNumber := by
  rw [Binding.resolve, bindAll_eq_error h hlong]
  rfl

end Carry

end Supply

end Jenkinsfile
