import Jenkinsfile.Proofs.Pipeline.Supply

/-! Tasks with their values.  A task is resolved unless a value is bound to one of its timeouts that
is no whole number, or one without a text to its message; what is resolved is found again under the
task's name. -/

namespace Jenkinsfile.Supply

open Pattern (CharacterNames)

/-- Why a value cannot be a timeout: it is no whole number. -/
def timeoutFailure? (t : Task) (path : String) (v : Value) : Option Failure :=
  match v with
  | .int _ => none
  | v =>
    some (.telling v.inspect fun literal =>
      .value (path ++ "'s value " ++ literal ++ " should be int, but got " ++ v.typeName)
        [("task", .value (.str t.name))])

/-- Why a bound value cannot be taken.  Null stands for no value, and fields other than the timeouts
and the message are not looked at. -/
def fieldFailure? (t : Task) (path : String) (v : Value) : Option Failure :=
  if v.isNull then none
  else if path = "options.timeout" ∨ path = "approve.timeout" then timeoutFailure? t path v
  else if path = "approve.message" then Failure.of? (Failure.ofText v.text)
  else none

/-- Why the first of the bound values that cannot be taken cannot. -/
def fieldsFailure? (t : Task) (fields : Table Value) : Option Failure :=
  fields.findSome? fun e => fieldFailure? t e.1 e.2

/-- The arguments that a task's script is rendered with: the constants over what is bound. -/
def taskArguments (p : PipelineTemplate) (merged : Table Value) (t : Task) : Table Value :=
  (taskBinding (Compile.suppliedArguments p) merged t.name).arguments.overlay
    (((p.taskConstants.get? t.name).map TaskConstants.arguments).getD [])

/-- A task's bound values can be taken, and it is decided whether the task is shown. -/
def taskCheck (p : PipelineTemplate) (merged : Table Value) (t : Task) : Except Failure Unit :=
  match fieldsFailure? t (taskBinding (Compile.suppliedArguments p) merged t.name).fields with
  | some f => .error f
  | none => (t.visible merged).map fun _ => ()

/-- The script of a task, or why it cannot be rendered. -/
def taskScript [CharacterNames] (p : PipelineTemplate) (templates : Table TaskTemplate)
    (merged : Table Value) (t : Task) : Except Failure String :=
  match templates.get? t.type with
  | some template => template.render (taskArguments p merged t)
  | none => .ok ""

/-- A task's own fields with its constants and its bound values over them. -/
def taskFields (p : PipelineTemplate) (merged : Table Value) (t : Task) : Resolution.TaskFields :=
  let own := Resolution.constantFields t (p.taskConstants.get? t.name)
  let fields := (taskBinding (Compile.suppliedArguments p) merged t.name).fields
  (Resolution.setFields t own fields).toOption.getD own

/-- The stage of a task, with its script if that can be rendered. -/
def taskStage [CharacterNames] (p : PipelineTemplate) (templates : Table TaskTemplate)
    (merged : Table Value) (t : Task) : Stage :=
  let fields := taskFields p merged t
  let agent := ((templates.get? t.type).map TaskTemplate.agent).getD .null
  ⟨t.name, t.agent.orElse agent, fields.options, t.conditions, fields.approval, t.environments,
    (taskScript p templates merged t).toOption, false, []⟩

/-! ### One task -/

section Task

variable {t : Task} {f : Resolution.TaskFields} {path : String} {v : Value} {fields : Table Value}

open Resolution

theorem of?_timeoutOf (t : Task) (path : String) (v : Value) :
    Failure.of? (timeoutOf t path v) = timeoutFailure? t path v := by
  cases v <;> rfl

theorem of?_setField (t : Task) (f : TaskFields) (path : String) (v : Value) :
    Failure.of? (setField t f path v) = fieldFailure? t path v := by
  rw [setField, fieldFailure?]
  cases v.isNull with
  | true => rfl
  | false =>
    simp only [Bool.false_eq_true, if_false]
    by_cases ho : path = "options.timeout"
    · rw [if_pos ho, if_pos (.inl ho), Failure.of?_bind_pure, of?_timeoutOf]
    · by_cases ha : path = "approve.timeout"
      · rw [if_neg ho, if_pos ha, if_pos (.inr ha), Failure.of?_bind_pure, of?_timeoutOf]
      · rw [if_neg ho, if_neg ha, if_neg (not_or.mpr ⟨ho, ha⟩)]
        split
        · exact Failure.of?_bind_pure _
        · rfl

theorem of?_setFields (t : Task) (f : TaskFields) (fields : Table Value) :
    Failure.of? (setFields t f fields) = fieldsFailure? t fields := by
  induction fields generalizing f with
  | nil => rfl
  | cons e fields ih =>
    obtain ⟨path, v⟩ := e
    have hfield := of?_setField t f path v
    rw [setFields, fieldsFailure?, List.findSome?_cons, ← hfield]
    cases setField t f path v with
    | error e => rfl
    | ok f' => exact ih f'

/-- A task is resolved unless a value bound to it cannot be taken, and if it is decided whether it is
shown. -/
theorem resolveTask_spec (t : Task) (template : TaskTemplate) (b : TaskBinding)
    (c : Option TaskConstants) (values : Table Value) :
    match fieldsFailure? t b.fields with
    | some e => resolveTask t template b c values = .error e
    | none => ∃ f, setFields t (constantFields t c) b.fields = .ok f ∧
        resolveTask t template b c values = (t.visible values).map fun shown =>
          ⟨t, template, b.arguments.overlay ((c.map TaskConstants.arguments).getD []),
            f.options, f.approval, shown⟩ := by
  rw [resolveTask, ← of?_setFields t (constantFields t c)]
  cases setFields t (constantFields t c) b.fields with
  | error e => rfl
  | ok f =>
    refine ⟨f, rfl, ?_⟩
    cases t.visible values <;> rfl

end Task

/-! ### All tasks -/

section Tasks

variable {templates attached : Table TaskTemplate} {bindings : Table TaskBinding}
  {merged : Table Value} {tasks : List Task} {p : PipelineTemplate}

open Compile

theorem get?_attachedTemplates_of_not_mem {name : String} (h : name ∉ tasks.map Task.name) :
    (attachedTemplates templates tasks).get? name = none := by
  induction tasks with
  | nil => rfl
  | cons t tasks ih =>
    simp only [List.map_cons, List.mem_cons, not_or] at h
    rw [attachedTemplates]
    split
    · rw [Table.get?_insertNew, if_neg h.1, ih h.2]
    · exact ih h.2

theorem get?_attachedTemplates (hn : (tasks.map Task.name).Nodup) :
    ∀ t ∈ tasks, (attachedTemplates templates tasks).get? t.name = templates.get? t.type := by
  induction tasks with
  | nil => simp
  | cons t tasks ih =>
    rw [List.map_cons, List.nodup_cons] at hn
    have hnone : (attachedTemplates templates tasks).get? t.name = none :=
      get?_attachedTemplates_of_not_mem hn.1
    intro u hu
    rw [attachedTemplates]
    rcases List.mem_cons.mp hu with rfl | hu
    · split
      · rename_i template ht
        rw [Table.get?_insertNew, if_pos rfl, hnone, ht]
        rfl
      · rename_i ht
        rw [hnone, ht]
    · have hne : u.name ≠ t.name := fun h => hn.1 (h ▸ List.mem_map_of_mem hu)
      split
      · rw [Table.get?_insertNew, if_neg hne, ih hn.2 u hu]
      · exact ih hn.2 u hu

/-- What the later steps know of the tasks before they are resolved. -/
structure Ready (p : PipelineTemplate) (templates attached : Table TaskTemplate)
    (bindings : Table TaskBinding) (merged : Table Value) (t : Task) : Prop where
  attached : ∃ template, attached.get? t.name = some template ∧ templates.get? t.type = some template
  bound : (bindings.get? t.name).getD ⟨[], []⟩ =
    taskBinding (suppliedArguments p) merged t.name

/-- What is resolved for a task. -/
structure ResolvedAs [CharacterNames] (p : PipelineTemplate) (templates : Table TaskTemplate)
    (merged : Table Value) (t : Task) (r : ResolvedTask) : Prop where
  script : r.template.render r.arguments = taskScript p templates merged t
  stage : renderTask r = (taskScript p templates merged t).map fun _ => taskStage p templates merged t
  visible : r.visible = isShown t.relation merged

theorem Ready.resolveTask [CharacterNames] {t : Task}
    (h : Ready p templates attached bindings merged t) :
    ∃ result, (attached.get? t.name).map (fun template =>
        (t.name, Resolution.resolveTask t template ((bindings.get? t.name).getD ⟨[], []⟩)
          (p.taskConstants.get? t.name) merged)) = some (t.name, result) ∧
      result.map (fun _ => ()) = taskCheck p merged t ∧
      ∀ r, result = .ok r → ResolvedAs p templates merged t r := by
  obtain ⟨⟨template, ha, ht⟩, hb⟩ := h
  rw [ha, hb]
  refine ⟨_, rfl, ?_⟩
  have hr := resolveTask_spec t template (taskBinding (suppliedArguments p) merged t.name)
    (p.taskConstants.get? t.name) merged
  rw [taskCheck]
  split
  · rename_i f hf
    simp only [hf] at hr
    simp [hr, Except.map]
  · rename_i hf
    simp only [hf] at hr
    obtain ⟨f, hf, hr⟩ := hr
    rw [hr]
    cases hs : t.visible merged with
    | error e => simp [Except.map]
    | ok shown =>
      refine ⟨rfl, fun r hr => ?_⟩
      obtain rfl := Except.ok.inj hr
      have hscript : taskScript p templates merged t =
          template.render (taskArguments p merged t) := by rw [taskScript, ht]
      refine ⟨hscript.symm, ?_, (Relation.isShown_of_visible? hs).symm⟩
      rw [renderTask, ← taskArguments, ← hscript]
      cases hscript : taskScript p templates merged t with
      | error => rfl
      | ok script =>
        simp [bind, Except.bind, taskStage, taskFields, hf, ht, hscript, Except.toOption]
        rfl

/-- The errors of resolutions are those of the tasks' checks, in order. -/
theorem resolutionErrors_eq [CharacterNames]
    (h : ∀ t ∈ tasks, Ready p templates attached bindings merged t) :
    resolutionErrors (resolutions attached bindings p.taskConstants merged tasks) =
      Failure.collect (tasks.map (taskCheck p merged)) := by
  rw [resolutionErrors]
  congr 1
  induction tasks with
  | nil => rfl
  | cons t tasks ih =>
    have ih := ih fun u hu => h u (List.mem_cons_of_mem _ hu)
    obtain ⟨result, hres, hcheck, -⟩ := (h t List.mem_cons_self).resolveTask
    rw [resolutions, List.filterMap_cons, hres, List.map_cons, List.map_cons, ← hcheck, ← ih]
    rfl

theorem map_filterMap_sublist {α β γ : Type} {f : α → Option β} {k : α → γ} {k' : β → γ}
    (h : ∀ a b, f a = some b → k' b = k a) (l : List α) :
    ((l.filterMap f).map k').Sublist (l.map k) := by
  induction l with
  | nil => exact .slnil
  | cons a l ih =>
    rw [List.filterMap_cons]
    cases hf : f a with
    | none => exact ih.cons _
    | some b =>
      simp only [List.map_cons, h a b hf]
      exact ih.cons_cons _

theorem map_fst_resolutions (attached : Table TaskTemplate) (bindings : Table TaskBinding)
    (constants : Table TaskConstants) (values : Table Value) (tasks : List Task) :
    ((resolutions attached bindings constants values tasks).map Prod.fst).Sublist
      (tasks.map Task.name) := by
  refine map_filterMap_sublist (fun t r hr => ?_) tasks
  obtain ⟨_, -, rfl⟩ := Option.map_eq_some_iff.mp hr
  rfl

/-- What a task resolves to is found under its name: no other task has taken its place. -/
theorem get?_resolvedTasks_of_ok {constants : Table TaskConstants} {values : Table Value} {t : Task}
    {template : TaskTemplate} {r : ResolvedTask} (hn : (tasks.map Task.name).Nodup) (ht : t ∈ tasks)
    (ha : attached.get? t.name = some template)
    (hr : Resolution.resolveTask t template ((bindings.get? t.name).getD ⟨[], []⟩)
      (constants.get? t.name) values = .ok r) :
    (resolvedTasks (resolutions attached bindings constants values tasks)).get? t.name = some r := by
  refine Table.get?_ofEntries_of_mem ?_ ?_
  · have hnames := map_fst_resolutions attached bindings constants values tasks
    refine hn.sublist (List.Sublist.trans ?_ hnames)
    refine map_filterMap_sublist (fun r e hr => ?_) _
    obtain ⟨_, -, rfl⟩ := Option.map_eq_some_iff.mp hr
    rfl
  · refine List.mem_filterMap.mpr ⟨(t.name, .ok r), ?_, rfl⟩
    exact List.mem_filterMap.mpr ⟨t, ht, by rw [ha, Option.map_some, hr]⟩

/-- If all checks pass every task is resolved and found under its name. -/
theorem get?_resolvedTasks [CharacterNames] (hn : (tasks.map Task.name).Nodup)
    (h : ∀ t ∈ tasks, Ready p templates attached bindings merged t)
    (hcheck : ∀ t ∈ tasks, taskCheck p merged t = .ok ()) :
    ∀ t ∈ tasks, ∃ r,
      (resolvedTasks (resolutions attached bindings p.taskConstants merged tasks)).get? t.name =
        some r ∧ ResolvedAs p templates merged t r := by
  intro t ht
  obtain ⟨result, hres, hok, hresolved⟩ := (h t ht).resolveTask
  rw [hcheck t ht] at hok
  cases result with
  | error f => cases hok
  | ok r =>
    obtain ⟨template, ha, hpair⟩ := Option.map_eq_some_iff.mp hres
    exact ⟨r, get?_resolvedTasks_of_ok hn ht ha (Prod.mk.inj hpair).2, hresolved r rfl⟩

end Tasks

end Jenkinsfile.Supply
