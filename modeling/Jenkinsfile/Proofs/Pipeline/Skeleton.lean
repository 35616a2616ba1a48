import Jenkinsfile.Proofs.Pipeline.Outcome
import Mathlib

/-! The stages of a compiled pipeline.  `compile_skeleton` says which there are and in which order:
every task that is shown runs in a stage of its own, once, and nothing else does. -/

namespace Jenkinsfile.Supply

open Compile

open Pattern (CharacterNames)

/-! ### The values that decide -/

/-- The values that decide what is shown: those supplied, with the declared defaults of arguments
without a value, and the source control context in the place of its argument if the template asks for
it.  Of several values supplied under one name the last one counts. -/
structure Merges (p : PipelineTemplate) (values : Table Value) (source : Option SourceControl)
    (merged : Table Value) : Prop where
  source : p.withSource = true → merged.get? sourceArgument = some (sourceValue source)
  supplied : ∀ name v, (p.withSource = true → name ≠ sourceArgument) →
    (Table.ofEntries values).get? name = some v → merged.get? name = some v
  default : ∀ a ∈ p.arguments, (p.withSource = true → a.name ≠ sourceArgument) →
    (Table.ofEntries values).get? a.name = none → a.default.isNull = false →
    merged.get? a.name = some a.default
  absent : ∀ name, (p.withSource = true → name ≠ sourceArgument) →
    (Table.ofEntries values).get? name = none →
    (∀ a ∈ p.arguments, a.name = name → a.default.isNull = true) → merged.get? name = none

theorem get?_mergedValues (p : PipelineTemplate) (values : Table Value)
    (source : Option SourceControl) (key : String) :
    (mergedValues p values source).get? key =
      if p.withSource = true ∧ key = sourceArgument then some (sourceValue source)
      else ((Table.ofEntries values).get? key).or (p.defaults.get? key) := by
  rw [mergedValues]
  cases p.withSource with
  | false => simp [Table.get?_overlay]
  | true => simp [Table.get?_insert, Table.get?_overlay]

theorem get?_mergedValues_of_declared {p : PipelineTemplate} {name : String}
    (h : p.withSource = true → name ≠ sourceArgument) (values : Table Value)
    (source : Option SourceControl) :
    (mergedValues p values source).get? name =
      ((Table.ofEntries values).get? name).or (p.defaults.get? name) := by
  rw [get?_mergedValues, if_neg fun hsource => h hsource.1 hsource.2]

theorem get?_defaults {args : List Argument} (hn : (args.map Argument.name).Nodup) {a : Argument}
    (ha : a ∈ args) (hdefault : a.default.isNull = false) :
    (Argument.defaults args).get? a.name = some a.default := by
  refine Table.get?_ofEntries_of_mem ?_ ?_
  · rw [List.map_map]
    exact hn.sublist (List.filter_sublist.map _)
  · refine List.mem_map.mpr ⟨a, List.mem_filter.mpr ⟨ha, ?_⟩, rfl⟩
    rw [hdefault]
    rfl

theorem get?_defaults_eq_none {args : List Argument} {name : String}
    (h : ∀ a ∈ args, a.name = name → a.default.isNull = true) :
    (Argument.defaults args).get? name = none := by
  cases hget : (Argument.defaults args).get? name with
  | none => rfl
  | some v =>
    obtain ⟨a, ha, hpair⟩ := List.mem_map.mp (Table.mem_of_get?_ofEntries hget)
    obtain ⟨ha, hdefault⟩ := List.mem_filter.mp ha
    rw [h a ha (Prod.mk.inj hpair).1] at hdefault
    cases hdefault

theorem merges_mergedValues {p : PipelineTemplate} (h : p.check = .ok ()) (values : Table Value)
    (source : Option SourceControl) : Merges p values source (mergedValues p values source) where
  source hsource := by rw [get?_mergedValues, if_pos ⟨hsource, rfl⟩]
  supplied name v hname hv := by rw [get?_mergedValues_of_declared hname, hv, Option.some_or]
  default a ha hname hnone hdefault := by
    rw [get?_mergedValues_of_declared hname, hnone, Option.none_or, PipelineTemplate.defaults,
      get?_defaults (p.names_of_check h) ha hdefault]
  absent name hname hnone hdefault := by
    rw [get?_mergedValues_of_declared hname, hnone, Option.none_or, PipelineTemplate.defaults,
      get?_defaults_eq_none hdefault]

/-! ### Stages -/

/-- The stages that run steps of their own, in order: those of a parallel stage stand in its
place. -/
def leaves (stages : List Stage) : List Stage :=
  stages.flatMap fun s => if s.isParallel then s.stages else [s]

/-- A stage that runs either a script or other stages, each of which runs a script. -/
def WellFormed (s : Stage) : Prop :=
  s.steps.isSome = true ∧ s.stages = [] ∨
    s.steps = none ∧ s.stages ≠ [] ∧ ∀ c ∈ s.stages, c.steps.isSome = true ∧ c.stages = []

/-- The stages of a stage template: of its one task, that task's stage if it is shown, and of
several, a parallel stage of those that are shown, if there are any. -/
def stagesOf [CharacterNames] (p : PipelineTemplate) (templates : Table TaskTemplate)
    (merged : Table Value) (s : StageTemplate) : List Stage :=
  match s.tasks with
  | [t] => if isShown t.relation merged then [taskStage p templates merged t] else []
  | tasks =>
    let own := (shownTasks merged tasks).map (taskStage p templates merged)
    if own.isEmpty then [] else [.parallel s.name s.conditions own]

section Leaves

variable [CharacterNames] {p : PipelineTemplate} {templates : Table TaskTemplate}
  {merged : Table Value}
  {stages : List Stage}

omit [CharacterNames] in
theorem leaves_flatMap {α : Type} (l : List α) (f : α → List Stage) :
    leaves (l.flatMap f) = l.flatMap fun a => leaves (f a) := by
  rw [leaves, List.flatMap_assoc]
  rfl

theorem stageOf_eq (p : PipelineTemplate) (templates : Table TaskTemplate) (merged : Table Value)
    (s : StageTemplate) :
    stageOf s ((shownTasks merged s.tasks).map (taskStage p templates merged)) =
      stagesOf p templates merged s := by
  rw [stageOf, stagesOf]
  match s.tasks with
  | [] => rfl
  | [t] => cases ht : isShown t.relation merged <;> simp [shownTasks, ht]
  | t :: u :: tasks => simp

/-- The stage of a stage template loses none of its tasks that are shown. -/
theorem leaves_stagesOf (p : PipelineTemplate) (templates : Table TaskTemplate)
    (merged : Table Value) (s : StageTemplate) :
    leaves (stagesOf p templates merged s) =
      (shownTasks merged s.tasks).map (taskStage p templates merged) := by
  have hparallel (tasks : List Task) :
      leaves (if ((shownTasks merged tasks).map (taskStage p templates merged)).isEmpty then []
        else [.parallel s.name s.conditions ((shownTasks merged tasks).map
          (taskStage p templates merged))]) =
        (shownTasks merged tasks).map (taskStage p templates merged) := by
    cases (shownTasks merged tasks).map (taskStage p templates merged) with
    | nil => rfl
    | cons c own => simp [leaves, Stage.isParallel, Stage.parallel]
  rw [stagesOf]
  match s.tasks with
  | [] => rfl
  | [t] =>
    cases ht : isShown t.relation merged with
    | false => simp [leaves, shownTasks, ht]
    | true => simp [leaves, shownTasks, ht, Stage.isParallel, taskStage]
  | t :: u :: tasks => exact hparallel (t :: u :: tasks)

/-- The stages of all stage templates are named after the tasks that are shown, in order. -/
theorem names_leaves (p : PipelineTemplate) (templates : Table TaskTemplate)
    (merged : Table Value) :
    (leaves (p.stages.flatMap (stagesOf p templates merged))).map Stage.name =
      (shownTasks merged p.stageTasks).map Task.name := by
  have hleaves : leaves (p.stages.flatMap (stagesOf p templates merged)) =
      p.stages.flatMap fun s => (shownTasks merged s.tasks).map (taskStage p templates merged) := by
    rw [leaves_flatMap]
    exact List.flatMap_congr fun s _ => leaves_stagesOf p templates merged s
  rw [hleaves, shownTasks, PipelineTemplate.stageTasks, List.filter_flatMap, List.map_flatMap,
    List.map_flatMap]
  refine List.flatMap_congr fun s _ => ?_
  rw [List.map_map]
  rfl

omit [CharacterNames] in
theorem mem_shownTasks_stageTasks {s : StageTemplate} {t : Task} (hs : s ∈ p.stages)
    (ht : t ∈ shownTasks merged s.tasks) : t ∈ shownTasks merged p.stageTasks := by
  obtain ⟨ht, hrel⟩ := List.mem_filter.mp ht
  exact List.mem_filter.mpr ⟨List.mem_flatMap.mpr ⟨s, hs, ht⟩, hrel⟩

theorem wellFormed_stagesOf {s : StageTemplate}
    (h : ∀ t ∈ shownTasks merged s.tasks, (taskStage p templates merged t).steps.isSome = true) :
    ∀ c ∈ stagesOf p templates merged s, WellFormed c := by
  have hown : ∀ c ∈ (shownTasks merged s.tasks).map (taskStage p templates merged),
      c.steps.isSome = true ∧ c.stages = [] := by
    intro c hc
    obtain ⟨t, ht, rfl⟩ := List.mem_map.mp hc
    exact ⟨h t ht, rfl⟩
  intro c hc
  rw [← stageOf_eq, stageOf] at hc
  split at hc
  · exact .inl (hown c hc)
  · split at hc
    · cases hc
    · rename_i hne
      rw [List.mem_singleton.mp hc]
      exact .inr ⟨rfl, by simpa [Stage.parallel] using hne, hown⟩

end Leaves

section Compiled

variable [CharacterNames] {p : PipelineTemplate} {templates : Table TaskTemplate}
  {values : Table Value} {source : Option SourceControl} {pipeline : Pipeline}

theorem of_compile_eq_ok (h : p.compile templates values source = .ok pipeline) :
    p.check = .ok () ∧
      (∀ r ∈ phases p templates (mergedValues p values source), r = .ok []) ∧
      pipeline = pipelineOf p templates (mergedValues p values source) := by
  cases hc : p.check with
  | error f =>
    rw [PipelineTemplate.compile, hc] at h
    cases h
  | ok =>
    rw [compile_eq hc] at h
    rw [← runPhases_eq_ok_iff]
    cases hr : runPhases (phases p templates (mergedValues p values source)) with
    | error f =>
      rw [hr] at h
      cases h
    | ok =>
      rw [hr] at h
      exact ⟨rfl, rfl, (Except.ok.inj h).symm⟩

omit [CharacterNames] in
theorem taskCheck_eq_ok {merged : Table Value} {t : Task} (h : taskCheck p merged t = .ok ()) :
    fieldsFailure? t (taskBinding (suppliedArguments p) merged t.name).fields = none ∧
      t.visible merged = .ok (isShown t.relation merged) := by
  rw [taskCheck] at h
  split at h
  · cases h
  · rename_i hfields
    cases hs : t.visible merged with
    | error f =>
      rw [hs] at h
      cases h
    | ok shown => exact ⟨hfields, by rw [Relation.isShown_of_visible? hs]⟩

theorem taskCheck_of_phases {merged : Table Value}
    (h : ∀ r ∈ phases p templates merged, r = .ok []) :
    ∀ t ∈ p.allTasks, taskCheck p merged t = .ok () := by
  intro t ht
  have htasks := h (Failure.collect (p.allTasks.map (taskCheck p merged))) (by simp [phases])
  exact Failure.collect_eq_nil_iff.mp htasks _ (List.mem_map_of_mem ht)

theorem taskScript_of_phases {merged : Table Value}
    (h : ∀ r ∈ phases p templates merged, r = .ok []) :
    ∀ t ∈ shownTasks merged p.stageTasks ++ p.postTasks,
      taskScript p templates merged t = .ok (scriptText p templates merged t) := by
  intro t ht
  have hscripts := h (Failure.collect (scriptChecks p templates merged)) (by simp [phases])
  have hcheck := Failure.collect_eq_nil_iff.mp hscripts _ (List.mem_map_of_mem ht)
  rw [scriptCheck] at hcheck
  cases hs : taskScript p templates merged t with
  | error f =>
    rw [hs] at hcheck
    cases hcheck
  | ok script => simp [scriptText, hs, Except.toOption]

theorem taskStages_eq {merged : Table Value} {tasks : List Task}
    (h : ∀ t ∈ shownTasks merged tasks,
      taskScript p templates merged t = .ok (scriptText p templates merged t)) :
    taskStages p templates merged tasks =
      (shownTasks merged tasks).map (taskStage p templates merged) := by
  rw [taskStages, List.filter_eq_self.mpr]
  intro t ht
  rw [h t ht]
  rfl

theorem steps_taskStage {merged : Table Value} {t : Task} {script : String}
    (h : taskScript p templates merged t = .ok script) :
    (taskStage p templates merged t).steps = some script := by
  rw [taskStage, h]
  rfl

/-- If all scripts can be rendered, the stages are those of the stage templates. -/
theorem stages_pipelineOf {merged : Table Value}
    (h : ∀ t ∈ shownTasks merged p.stageTasks,
      taskScript p templates merged t = .ok (scriptText p templates merged t)) :
    (pipelineOf p templates merged).stages = p.stages.flatMap (stagesOf p templates merged) := by
  refine List.flatMap_congr fun s hs => ?_
  rw [taskStages_eq fun t ht => h t (mem_shownTasks_stageTasks hs ht), stageOf_eq]

end Compiled

/-- The stages of a compiled pipeline are those of its template, in order, so that every task of a
stage that is shown has a stage of its own, once, with its script.  What is done after it are the
scripts of all tasks there, or clearing the workspace.  Of every task it is decided whether it is
shown, by the values supplied over the declared defaults and the source control context. -/
theorem compile_skeleton [CharacterNames] {p : PipelineTemplate} {templates : Table TaskTemplate}
    {values : Table Value} {source : Option SourceControl} {pipeline : Pipeline}
    (h : p.compile templates values source = .ok pipeline) :
    let merged := mergedValues p values source
    Merges p values source merged ∧
      (∀ t ∈ p.allTasks, t.visible merged = .ok (isShown t.relation merged)) ∧
      pipeline.stages = p.stages.flatMap (stagesOf p templates merged) ∧
      (leaves pipeline.stages).map Stage.name = (shownTasks merged p.stageTasks).map Task.name ∧
      ((leaves pipeline.stages).map Stage.name).Nodup ∧
      (∀ s ∈ pipeline.stages, WellFormed s) ∧
      (∀ t ∈ shownTasks merged p.stageTasks, ∃ script,
        taskScript p templates merged t = .ok script ∧
          (taskStage p templates merged t).steps = some script) ∧
      pipeline.post = postActions p templates merged ∧
      ∀ t ∈ p.postTasks,
        taskScript p templates merged t = .ok (scriptText p templates merged t) := by
  intro merged
  obtain ⟨hcheck, hphases, rfl⟩ := of_compile_eq_ok h
  have hscripts := taskScript_of_phases hphases
  have hshown : ∀ t ∈ shownTasks merged p.stageTasks, taskScript p templates merged t =
      .ok (scriptText p templates merged t) := fun t ht => hscripts t (List.mem_append_left _ ht)
  have hsteps : ∀ t ∈ shownTasks merged p.stageTasks, (taskStage p templates merged t).steps =
      some (scriptText p templates merged t) := fun t ht => steps_taskStage (hshown t ht)
  have hstages := stages_pipelineOf hshown
  have hnames : (leaves (pipelineOf p templates merged).stages).map Stage.name =
      (shownTasks merged p.stageTasks).map Task.name := by
    rw [hstages]
    exact names_leaves p templates merged
  refine ⟨merges_mergedValues hcheck values source,
    fun t ht => (taskCheck_eq_ok (taskCheck_of_phases hphases t ht)).2, hstages, hnames, ?_, ?_,
    fun t ht => ⟨_, hshown t ht, hsteps t ht⟩, rfl,
    fun t ht => hscripts t (List.mem_append_right _ ht)⟩
  · rw [hnames]
    have hsub : (shownTasks merged p.stageTasks).Sublist p.allTasks :=
      List.filter_sublist.trans (List.sublist_append_left ..)
    exact (p.accepted_of_check hcheck).names.sublist (hsub.map Task.name)
  · intro c hc
    rw [hstages] at hc
    obtain ⟨s, hs, hc⟩ := List.mem_flatMap.mp hc
    refine wellFormed_stagesOf (fun t ht => ?_) c hc
    rw [hsteps t (mem_shownTasks_stageTasks hs ht)]
    rfl

/-- A task that says hello, with or without a relation that hides it where the value of `CI` is
empty. -/
def helloTask (name : String) (always : Bool) : Task :=
  ⟨name, "hello", .null, none, none, none, [],
    if always then none else some ⟨[⟨"hidden", some ⟨"CI", .str "", none, none⟩⟩]⟩⟩

/-- A stage of one such task, one of two, and one more after the pipeline. -/
def helloPipeline : PipelineTemplate :=
  ⟨"", false, .null,
    [⟨"build", none, [helloTask "build" true]⟩,
      ⟨"test", none, [helloTask "unit" true, helloTask "lint" false]⟩],
    some [("always", [helloTask "end" false])], none, none, [], []⟩

/-- The template of the tasks' script. -/
def helloTemplates : Table TaskTemplate := [("hello", ⟨"", .null, "echo hello", []⟩)]

/-- An argument that is empty if it has no value. -/
def ciArgument : Argument :=
  ⟨"CI", [], some ⟨"string", none⟩, false, .str "", none,
    some ⟨"string", ⟨"集成", "Integration"⟩, [], none⟩, none⟩

/-- The three tasks with that argument, and one more task that is hidden without a source control
context. -/
def scannedPipeline : PipelineTemplate :=
  { helloPipeline with
    withSource := true
    stages := [⟨"build", none, [helloTask "build" true]⟩,
      ⟨"test", none, [helloTask "unit" true, helloTask "lint" false,
        { helloTask "scan" true with
          relation := some ⟨[⟨"hidden", some ⟨"SCM", .null, none, none⟩⟩]⟩ }]⟩]
    sections := [⟨⟨"构建", "build"⟩, [ciArgument]⟩] }

/-- A source control context. -/
def appSource : SourceControl := ⟨.git, "app.git", "", "main"⟩

section Unnamed

attribute [local instance] CharacterNames.unnamed

/-- The default of an argument hides one of four tasks in stages, and the source control context shows
another one. -/
theorem compile_skeleton_scanned :
    ∃ pipeline, scannedPipeline.compile helloTemplates [] (some appSource) = .ok pipeline ∧
      (mergedValues scannedPipeline [] (some appSource)).get? "CI" = some (.str "") ∧
      (leaves pipeline.stages).map Stage.name = ["build", "unit", "scan"] ∧
      pipeline.post.map PostAction.script = ["echo hello"] := by
  have hok : (scannedPipeline.compile helloTemplates [] (some appSource)).isOk = true := by
    decide +kernel
  cases h : scannedPipeline.compile helloTemplates [] (some appSource) with
  | error f =>
    rw [h] at hok
    cases hok
  | ok pipeline =>
    obtain ⟨hmerges, -, -, hnames, -, -, -, hpost, -⟩ := compile_skeleton h
    refine ⟨pipeline, rfl, ?_, ?_, ?_⟩
    · exact hmerges.default ciArgument (List.mem_singleton_self _) (by decide) rfl rfl
    · rw [hnames]
      decide +kernel
    · rw [hpost]
      decide +kernel

end Unnamed

end Jenkinsfile.Supply
