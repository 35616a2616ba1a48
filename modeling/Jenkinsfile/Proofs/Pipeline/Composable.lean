import Jenkinsfile.Proofs.Pipeline.Hidden
import Jenkinsfile.Proofs.Text.Separator

/-! What the check of a pipeline template is worth to the steps after it.  The main statement is
`composable_of_check`: every relation decides on values short enough to be compared, every binding
leads to a place in a task, and every task is found under its own name. -/

namespace Jenkinsfile

/-- `path` leads to `place` in `task`: to the argument that its third segment names if the second
one is `args`, and otherwise to the field that everything after the first dot names. -/
def Leads (path task : String) (place : Target) : Prop :=
  task ≠ "" ∧ '.' ∉ task.toList ∧
    match place with
    | .argument name => name ≠ "" ∧ '.' ∉ name.toList ∧
      (path = task ++ ".args." ++ name ∨ ∃ rest, path = task ++ ".args." ++ name ++ "." ++ rest)
    | .field field => field ≠ "" ∧ path = task ++ "." ++ field ∧
      field ≠ "args" ∧ ∀ rest, field ≠ "args." ++ rest

namespace Binding

theorem ne_dot_of_mem {segment : List Char} (h : '.' ∉ segment) :
    ∀ c ∈ segment, (c != '.') = true := by
  intro c hc
  rw [bne_iff_ne]
  rintro rfl
  exact h hc

theorem takeWhile_segment {segment : List Char} (h : '.' ∉ segment) (rest : List Char) :
    (segment ++ '.' :: rest).takeWhile (· != '.') = segment := by
  rw [List.takeWhile_append_of_pos (ne_dot_of_mem h)]
  simp

/-- The first of joined segments is what stands before the first dot. -/
theorem takeWhile_joinWith {segment : List Char} (h : '.' ∉ segment) (rest : List (List Char)) :
    (Text.joinWith ['.'] (segment :: rest)).takeWhile (· != '.') = segment := by
  cases rest with
  | nil => exact List.takeWhile_eq_self_iff.mpr (ne_dot_of_mem h)
  | cons s rest =>
    rw [Text.joinWith_cons (by simp)]
    exact takeWhile_segment h _

/-- A field path is its scope and what comes after that, joined. -/
theorem toList_fieldPath {scope : List Char} {rest : List (List Char)} (hrest : ∀ s ∈ rest, s ≠ []) :
    (if (joinSegments rest).isEmpty then String.ofList scope
      else .ofList scope ++ "." ++ joinSegments rest).toList =
      Text.joinWith ['.'] (scope :: rest) := by
  cases rest with
  | nil => simp [joinSegments, Text.joinWith]
  | cons s rest =>
    have hne : Text.joinWith ['.'] (s :: rest) ≠ [] := by
      have hs := hrest s List.mem_cons_self
      cases rest with
      | nil => simpa [Text.joinWith] using hs
      | cons s' rest => simp [Text.joinWith]
    have hempty : (joinSegments (s :: rest)).isEmpty = false := by
      rw [← Bool.not_eq_true, String.isEmpty_iff, joinSegments, ← String.toList_inj]
      simpa using hne
    rw [hempty, Text.joinWith_cons (by simp), joinSegments]
    simp

theorem ofList_ne_empty {cs : List Char} (h : cs ≠ []) : String.ofList cs ≠ "" := by
  rw [Ne, ← String.toList_inj]
  simpa using h

section Segments

variable {path : String} {task scope name : List Char} {rest : List (List Char)}

/-- What comes after the third segment of a path to an argument does not matter. -/
theorem leads_argument (hne : ∀ s ∈ [task, name], s ≠ []) (hdots : ∀ s ∈ [task, name], '.' ∉ s)
    (hpath : Text.joinWith ['.'] (task :: "args".toList :: name :: rest) = path.toList) :
    Leads path (.ofList task) (.argument (.ofList name)) := by
  rw [Text.joinWith_cons (by simp), Text.joinWith_cons (by simp)] at hpath
  refine ⟨ofList_ne_empty (hne task (by simp)), by simpa using hdots task (by simp),
    ofList_ne_empty (hne name (by simp)), by simpa using hdots name (by simp), ?_⟩
  cases rest with
  | nil =>
    left
    rw [← String.toList_inj, ← hpath]
    simp [Text.joinWith]
  | cons s rest =>
    right
    refine ⟨.ofList (Text.joinWith ['.'] (s :: rest)), ?_⟩
    rw [Text.joinWith_cons (by simp)] at hpath
    rw [← String.toList_inj, ← hpath]
    simp

/-- A path to a field names all of the field after the task. -/
theorem leads_field (hne : ∀ s ∈ task :: scope :: rest, s ≠ [])
    (hdots : ∀ s ∈ [task, scope], '.' ∉ s) (hscope : scope ≠ "args".toList)
    (hpath : Text.joinWith ['.'] (task :: scope :: rest) = path.toList) :
    Leads path (.ofList task) (.field (if (joinSegments rest).isEmpty then .ofList scope
      else .ofList scope ++ "." ++ joinSegments rest)) := by
  have hrest : ∀ s ∈ rest, s ≠ [] := fun s hs => hne s (by simp [hs])
  have hfield : _ = Text.joinWith ['.'] (scope :: rest) := toList_fieldPath hrest
  have hfirst := takeWhile_joinWith (hdots scope (by simp)) rest
  generalize (if (joinSegments rest).isEmpty then String.ofList scope
    else .ofList scope ++ "." ++ joinSegments rest) = field at hfield
  rw [Text.joinWith_cons (by simp), ← hfield] at hpath
  rw [← hfield] at hfirst
  refine ⟨ofList_ne_empty (hne task (by simp)), by simpa using hdots task (by simp), ?_, ?_, ?_, ?_⟩
  · rintro rfl
    exact hne scope (by simp) hfirst.symm
  · rw [← String.toList_inj, ← hpath]
    simp
  · rintro rfl
    exact hscope hfirst.symm
  · rintro more rfl
    refine hscope ?_
    rw [← hfirst, String.toList_append]
    simp

end Segments

/-- A path that passes its check leads to a place in a task. -/
theorem leads_of_checkBinding {argument path : String}
    (h : Argument.checkBinding argument path = .ok ()) :
    ∃ task place, target argument path = .ok (task, place) ∧ Leads path task place := by
  obtain ⟨hlen, hne, hargs⟩ := Argument.segments_of_checkBinding h
  have hdots : ∀ segment ∈ Text.splitOn ['.'] path.toList, '.' ∉ segment :=
    Text.not_mem_of_mem_splitOn
  have hpath := Text.joinWith_splitOn '.' path.toList
  rw [target]
  generalize Text.splitOn ['.'] path.toList = segments at hlen hne hargs hdots hpath
  rcases segments with _ | ⟨task, _ | ⟨scope, rest⟩⟩
  · cases hlen
  · simp at hlen
  · by_cases hscope : scope = "args".toList
    · subst hscope
      rcases rest with _ | ⟨name, rest⟩
      · simp at hargs
      · have hname : name ≠ [] := hne name (by simp)
        refine ⟨.ofList task, .argument (.ofList name), by simp [hname], ?_⟩
        have hpair : ∀ s ∈ [task, name], s ∈ task :: "args".toList :: name :: rest := by
          intro s hs
          rcases List.mem_pair.mp hs with rfl | rfl <;> simp
        exact leads_argument (fun s hs => hne s (hpair s hs)) (fun s hs => hdots s (hpair s hs)) hpath
    · refine ⟨.ofList task, _, by simp only [if_neg hscope]; rfl, ?_⟩
      have hpair : ∀ s ∈ [task, scope], s ∈ task :: scope :: rest := by
        intro s hs
        rcases List.mem_pair.mp hs with rfl | rfl <;> simp
      exact leads_field hne (fun s hs => hdots s (hpair s hs)) hscope hpath

end Binding

namespace Supply

open Compile

section Composable

variable {p : PipelineTemplate} {templates : Table TaskTemplate} {merged : Table Value}

theorem task_of_resolveTask {t : Task} {template : TaskTemplate} {b : TaskBinding}
    {c : Option TaskConstants} {r : ResolvedTask}
    (h : Resolution.resolveTask t template b c merged = .ok r) : r.task = t ∧ r.template = template := by
  obtain ⟨fields, -, h⟩ := bind_eq_ok.mp h
  obtain ⟨shown, -, h⟩ := bind_eq_ok.mp h
  obtain rfl := Except.ok.inj h
  exact ⟨rfl, rfl⟩

/-- Every task has its own template under its name, unless the template of some task is missing. -/
theorem exists_attached (hn : (p.allTasks.map Task.name).Nodup)
    (h : missingTemplates templates p = []) :
    ∀ t ∈ p.allTasks, ∃ template, templates.get? t.type = some template ∧
      (attachedTemplates templates p.allTasks).get? t.name = some template := by
  rw [missingTemplates_eq, List.map_eq_nil_iff] at h
  intro t ht
  obtain ⟨template, htemplate⟩ := exists_template h t ht
  exact ⟨template, htemplate, by rw [get?_attachedTemplates hn t ht, htemplate]⟩

/-- Every task is resolved under its own name, unless some resolution has an error. -/
theorem exists_resolved (hn : (p.allTasks.map Task.name).Nodup)
    (hmissing : missingTemplates templates p = []) (bindings : Table TaskBinding)
    (herrors : resolutionErrors (resolutions (attachedTemplates templates p.allTasks) bindings
      p.taskConstants merged p.allTasks) = .ok []) :
    ∀ t ∈ p.allTasks, ∃ r,
      (resolvedTasks (resolutions (attachedTemplates templates p.allTasks) bindings p.taskConstants
        merged p.allTasks)).get? t.name = some r ∧
      r.task = t ∧ templates.get? t.type = some r.template := by
  intro t ht
  obtain ⟨template, htemplate, hattached⟩ := exists_attached hn hmissing t ht
  rw [resolutionErrors, Failure.collect_eq_nil_iff] at herrors
  cases hr : Resolution.resolveTask t template ((bindings.get? t.name).getD ⟨[], []⟩)
      (p.taskConstants.get? t.name) merged with
  | error f =>
    have hmem : (t.name, Except.error f) ∈ resolutions (attachedTemplates templates p.allTasks)
        bindings p.taskConstants merged p.allTasks :=
      List.mem_filterMap.mpr ⟨t, ht, by rw [hattached, Option.map_some, hr]⟩
    cases herrors _ (List.mem_map_of_mem hmem)
  | ok r =>
    obtain ⟨htask, rfl⟩ := task_of_resolveTask hr
    exact ⟨r, get?_resolvedTasks_of_ok hn ht hattached hr, htask, htemplate⟩

/-- A template that passes its check can be composed.  Of every argument and every task it is decided
whether it is shown, and the arguments are led along their bindings, unless a whole number is too long
to be compared: that is a fault.  Whatever the values are, no two tasks have one name: each has its
own entry among the templates if none is missing, and among the resolved tasks if no resolution has an
error.  A path that passes its check leads to a place in a task. -/
theorem composable_of_check (h : p.check = .ok ()) (merged : Table Value) :
    (∀ a ∈ suppliedArguments p,
        (Relation.Legible a.relation merged → ∃ shown, a.visible merged = .ok shown) ∧
        (¬ Relation.Legible a.relation merged →
          a.visible merged = .error Failure.longNumber)) ∧
      (∀ t ∈ p.allTasks,
        (Relation.Legible t.relation merged → ∃ shown, t.visible merged = .ok shown) ∧
        (¬ Relation.Legible t.relation merged →
          t.visible merged = .error Failure.longNumber)) ∧
      ((∀ a ∈ suppliedArguments p, Relation.Legible a.relation merged) → ∃ bindings,
        Binding.resolve (suppliedArguments p) merged (p.allTasks.map Task.name) = .ok bindings) ∧
      ((¬ ∀ a ∈ suppliedArguments p, Relation.Legible a.relation merged) →
        Binding.resolve (suppliedArguments p) merged (p.allTasks.map Task.name) =
          .error Failure.longNumber) ∧
      (p.allTasks.map Task.name).Nodup ∧
      (∀ templates, missingTemplates templates p = [] →
        let attached := attachedTemplates templates p.allTasks
        (∀ t ∈ p.allTasks, ∃ template, templates.get? t.type = some template ∧
          attached.get? t.name = some template) ∧
        ∀ bindings,
          let rs := resolutions attached bindings p.taskConstants merged p.allTasks
          resolutionErrors rs = .ok [] → ∀ t ∈ p.allTasks, ∃ r,
            (resolvedTasks rs).get? t.name = some r ∧ r.task = t ∧
              templates.get? t.type = some r.template) ∧
      ∀ argument path, Argument.checkBinding argument path = .ok () →
        ∃ task place, Binding.target argument path = .ok (task, place) ∧ Leads path task place := by
  have hp := p.accepted_of_check h
  refine ⟨fun a ha => (hp.arguments a ha).settled.decides merged,
    fun t ht => (hp.settled t ht).decides merged, fun hlegible => ?_,
    fun hlong => resolve_eq_error hp.arguments hlong _, hp.names, fun templates hmissing => ?_,
    fun _ _ => Binding.leads_of_checkBinding⟩
  · obtain ⟨bindings, hbindings, -⟩ := resolve_spec hp.arguments hlegible (p.allTasks.map Task.name)
    exact ⟨bindings, hbindings⟩
  · exact ⟨exists_attached hp.names hmissing,
      fun bindings herrors => exists_resolved hp.names hmissing bindings herrors⟩

end Composable

/-- The pipeline with a token, which also asks for the source control context. -/
def sourcePipeline : PipelineTemplate := { tokenPipeline with withSource := true }

/-- Values for it. -/
def sourceValues : Table Value :=
  mergedValues sourcePipeline [("deploy", .bool true), ("token", .str "t0")]
    (some ⟨.git, "app.git", "", "main"⟩)

/-- A template with the source control context is composed with values that are short. -/
theorem composable_of_check_source :
    sourcePipeline.check = .ok () ∧ (sourcePipeline.allTasks.map Task.name).Nodup ∧
      (∃ bindings, Binding.resolve (suppliedArguments sourcePipeline) sourceValues
        (sourcePipeline.allTasks.map Task.name) = .ok bindings) ∧
      ∀ t ∈ sourcePipeline.allTasks, ∃ template,
        (attachedTemplates helloTemplates sourcePipeline.allTasks).get? t.name = some template := by
  have hcheck : sourcePipeline.check = .ok () := tokenPipeline_check
  obtain ⟨-, -, hresolve, -, hnames, htables, -⟩ := composable_of_check hcheck sourceValues
  refine ⟨hcheck, hnames, hresolve fun a ha => ?_, fun t ht => ?_⟩
  · obtain rfl | rfl := List.mem_pair.mp ha
    · refine (Relation.legible_iff rfl ⟨List.mem_singleton_self _, .inl rfl⟩).mpr ?_
      intro c hc t ht v hv
      obtain rfl := Option.some.inj hc
      obtain rfl := List.mem_singleton.mp (show t ∈ [ValueTest.mk "deploy" (.bool true)] from ht)
      obtain rfl : Value.bool true = v := Option.some.inj hv
      exact ⟨Value.IsPlain.short trivial, Value.IsPlain.short trivial⟩
    · simp [sourceDeclaration, Relation.Legible]
  · obtain ⟨template, -, hattached⟩ := (htables helloTemplates (by cbv)).1 t ht
    exact ⟨template, hattached⟩

/-- The pipeline with a token that is asked for if a number is one. -/
def countedPipeline : PipelineTemplate :=
  { helloPipeline with
    sections := [⟨⟨"部署", "deploy"⟩,
      [{ tokenArgument with relation := some Relation.countRelation }]⟩] }

theorem countedPipeline_check : countedPipeline.check = .ok () :=
  PipelineTemplate.check_of_argument rfl rfl (tokenArgument_check (r := Relation.countRelation) rfl)

/-- The check passes, and a number with more digits than a text may have ends both the test of the
relation and the work on the bindings. -/
theorem resolve_longCount :
    countedPipeline.check = .ok () ∧
      (∃ a ∈ suppliedArguments countedPipeline,
        a.visible [("count", .int leastLong)] = .error Failure.longNumber) ∧
      Binding.resolve (suppliedArguments countedPipeline) [("count", .int leastLong)]
        (countedPipeline.allTasks.map Task.name) = .error Failure.longNumber := by
  have hstop : Relation.visible? (some Relation.countRelation) [("count", .int leastLong)] =
      .error Failure.longNumber := Relation.countRelation_leastLong
  refine ⟨countedPipeline_check, ⟨_, List.mem_singleton_self _, hstop⟩, ?_⟩
  rw [Binding.resolve]
  show (Binding.bindAll _ _ [{ tokenArgument with relation := some Relation.countRelation }] >>= _) = _
  rw [Binding.bindAll, Argument.visible, hstop]
  rfl

end Supply

end Jenkinsfile
