import Jenkinsfile.Proofs.Pipeline.Resolved

/-! What is rendered of resolved tasks.  Each step renders the stages and scripts of the tasks given
to it, and its errors are those of the scripts that cannot be rendered, in order. -/

namespace Jenkinsfile.Supply

open Compile

open Pattern (CharacterNames)

/-- The tasks that are shown. -/
def shownTasks (merged : Table Value) (tasks : List Task) : List Task :=
  tasks.filter fun t => isShown t.relation merged

theorem shownTasks_append (merged : Table Value) (tasks more : List Task) :
    shownTasks merged (tasks ++ more) = shownTasks merged tasks ++ shownTasks merged more :=
  List.filter_append ..

/-! ### Checks and what is made beside them -/

/-- A script and a collection after it, with what is made of the script and beside the others. -/
theorem attempt_collect_map {α β γ : Type} (r : Except Failure α)
    (checks : List (Except Failure Unit)) (b : β) (f : Option α → β → γ) :
    (do
      let one ← attempt r
      let rest ← (Failure.collect checks).map fun errors => Outcome.mk b errors
      pure (Outcome.mk (f one.result rest.result) (one.errors ++ rest.errors))) =
      (Failure.collect (r.map (fun _ => ()) :: checks)).map fun errors =>
        Outcome.mk (f r.toOption b) errors := by
  match r with
  | .ok a =>
    simp only [attempt, Except.map, Failure.collect, bind, Except.bind]
    cases Failure.collect checks with
    | error f => rfl
    | ok errors => rfl
  | .error (.error e) =>
    simp only [attempt, Except.map, Failure.collect, bind, Except.bind]
    cases Failure.collect checks with
    | error f => rfl
    | ok errors => rfl
  | .error (.fault f) => rfl

/-- Two collections one after the other, each with what was made beside it. -/
theorem collect_append_map {α β γ : Type} (checks more : List (Except Failure Unit)) (a : α) (b : β)
    (f : α → β → γ) :
    (do
      let own ← (Failure.collect checks).map fun errors => Outcome.mk a errors
      let rest ← (Failure.collect more).map fun errors => Outcome.mk b errors
      pure (Outcome.mk (f own.result rest.result) (own.errors ++ rest.errors))) =
      (Failure.collect (checks ++ more)).map fun errors => Outcome.mk (f a b) errors := by
  rw [Failure.collect_append]
  cases Failure.collect checks with
  | error => rfl
  | ok errors => cases Failure.collect more <;> rfl

/-! ### Stages and scripts -/

section Rendered

variable [CharacterNames] (p : PipelineTemplate) (templates : Table TaskTemplate)
  (merged : Table Value)

/-- Whether a task's script can be rendered. -/
def scriptCheck (t : Task) : Except Failure Unit :=
  (taskScript p templates merged t).map fun _ => ()

/-- The text of a task's script, empty if it cannot be rendered. -/
def scriptText (t : Task) : String := (taskScript p templates merged t).toOption.getD ""

/-- The stages of those tasks that are shown and can be rendered. -/
def taskStages (tasks : List Task) : List Stage :=
  ((shownTasks merged tasks).filter fun t => (taskScript p templates merged t).isOk).map
    (taskStage p templates merged)

/-- All tasks of a table of resolved tasks are resolved so. -/
def AllResolved (resolved : Table ResolvedTask) (tasks : List Task) : Prop :=
  ∀ t ∈ tasks, ∃ r, resolved.get? t.name = some r ∧ ResolvedAs p templates merged t r

end Rendered

variable [CharacterNames] {p : PipelineTemplate} {templates : Table TaskTemplate}
  {merged : Table Value} {resolved : Table ResolvedTask}

theorem AllResolved.subset {tasks tasks' : List Task}
    (h : AllResolved p templates merged resolved tasks) (hsub : ∀ t ∈ tasks', t ∈ tasks) :
    AllResolved p templates merged resolved tasks' := fun t ht => h t (hsub t ht)

/-- The stages of tasks, and the errors of those that cannot be rendered. -/
theorem renderTasks_eq {tasks : List Task} (h : AllResolved p templates merged resolved tasks) :
    renderTasks resolved tasks =
      (Failure.collect ((shownTasks merged tasks).map (scriptCheck p templates merged))).map
        fun errors => ⟨taskStages p templates merged tasks, errors⟩ := by
  induction tasks with
  | nil => rfl
  | cons t tasks ih =>
    have ih := ih (h.subset fun u hu => List.mem_cons_of_mem _ hu)
    obtain ⟨r, hr, has⟩ := h t List.mem_cons_self
    simp only [renderTasks, hr, has.visible]
    cases hs : isShown t.relation merged with
    | false =>
      have hshown : shownTasks merged (t :: tasks) = shownTasks merged tasks := by
        simp [shownTasks, hs]
      rw [taskStages, hshown, if_neg (by simp)]
      exact ih
    | true =>
      have hshown : shownTasks merged (t :: tasks) = t :: shownTasks merged tasks := by
        simp [shownTasks, hs]
      have hstages : taskStages p templates merged (t :: tasks) =
          (renderTask r).toOption.toList ++ taskStages p templates merged tasks := by
        rw [taskStages, hshown, has.stage]
        cases hscript : taskScript p templates merged t with
        | error e =>
          rw [List.filter_cons_of_neg (by rw [hscript]; simp [Except.isOk, Except.toBool])]
          rfl
        | ok script =>
          rw [List.filter_cons_of_pos (by rw [hscript]; rfl)]
          rfl
      have hcheck : scriptCheck p templates merged t = (renderTask r).map fun _ => () := by
        rw [has.stage, scriptCheck]
        cases taskScript p templates merged t with
        | error e => rfl
        | ok script => rfl
      rw [if_pos rfl, ih, hshown, hstages, List.map_cons, hcheck]
      exact attempt_collect_map _ _ _ fun one rest => one.toList ++ rest

theorem renderStages_eq {stages : List StageTemplate}
    (h : AllResolved p templates merged resolved (stages.flatMap StageTemplate.tasks)) :
    renderStages resolved stages =
      (Failure.collect ((shownTasks merged (stages.flatMap StageTemplate.tasks)).map
        (scriptCheck p templates merged))).map fun errors =>
          ⟨stages.flatMap fun s => stageOf s (taskStages p templates merged s.tasks), errors⟩ := by
  induction stages with
  | nil => rfl
  | cons s stages ih =>
    rw [List.flatMap_cons] at h
    rw [renderStages, renderTasks_eq (h.subset fun t ht => List.mem_append_left _ ht),
      ih (h.subset fun t ht => List.mem_append_right _ ht), List.flatMap_cons, List.flatMap_cons,
      shownTasks_append, List.map_append]
    exact collect_append_map _ _ _ _ fun own rest => stageOf s own ++ rest

theorem renderScripts_eq {tasks : List Task} (h : AllResolved p templates merged resolved tasks) :
    renderScripts resolved tasks =
      (Failure.collect (tasks.map (scriptCheck p templates merged))).map fun errors =>
        ⟨String.join (tasks.map (scriptText p templates merged)), errors⟩ := by
  induction tasks with
  | nil => rfl
  | cons t tasks ih =>
    have ih := ih (h.subset fun u hu => List.mem_cons_of_mem _ hu)
    obtain ⟨r, hr, has⟩ := h t List.mem_cons_self
    simp only [renderScripts, hr, has.script, ih, List.map_cons, String.join_cons]
    exact attempt_collect_map _ _ _ fun one rest => one.getD "" ++ rest

theorem renderActions_eq {post : Table (List Task)}
    (h : AllResolved p templates merged resolved (post.flatMap Prod.snd)) :
    renderActions resolved post =
      (Failure.collect ((post.flatMap Prod.snd).map (scriptCheck p templates merged))).map
        fun errors =>
          ⟨post.map fun e => ⟨e.1, String.join (e.2.map (scriptText p templates merged))⟩,
            errors⟩ := by
  induction post with
  | nil => rfl
  | cons e post ih =>
    obtain ⟨condition, tasks⟩ := e
    rw [List.flatMap_cons] at h
    rw [renderActions, renderScripts_eq (h.subset fun t ht => List.mem_append_left _ ht),
      ih (h.subset fun t ht => List.mem_append_right _ ht), List.flatMap_cons, List.map_append]
    exact collect_append_map _ _ _ _ fun own rest => PostAction.mk condition own :: rest

/-- What is done after a pipeline. -/
def postActions (p : PipelineTemplate) (templates : Table TaskTemplate) (merged : Table Value) :
    List PostAction :=
  match p.post.getD [] with
  | [] => [⟨alwaysCondition, cleanUpScript⟩]
  | post => post.map fun e => ⟨e.1, String.join (e.2.map (scriptText p templates merged))⟩

theorem renderPost_eq (h : AllResolved p templates merged resolved p.postTasks) :
    renderPost resolved p =
      (Failure.collect (p.postTasks.map (scriptCheck p templates merged))).map fun errors =>
        ⟨postActions p templates merged, errors⟩ := by
  rw [PipelineTemplate.postTasks] at h ⊢
  rw [renderPost, postActions]
  cases hpost : p.post.getD [] with
  | nil => rfl
  | cons e post =>
    rw [hpost] at h
    exact renderActions_eq h

end Jenkinsfile.Supply
