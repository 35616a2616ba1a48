import Jenkinsfile.Pipeline.Render
import Jenkinsfile.Proofs.Failure

/-! Stages inside stages, and what a pipeline and a stage are rendered as when they are. -/

namespace Jenkinsfile

/-- `s` is one of `stages`, or stands inside one of them, within `depth` parallel stages. -/
inductive Nested : Nat → Stage → List Stage → Prop
  | here {s : Stage} {stages : List Stage} : s ∈ stages → Nested 0 s stages
  | inside {depth : Nat} {s container : Stage} {stages : List Stage} :
      container ∈ stages → Nested depth s container.stages → Nested (depth + 1) s stages

theorem not_nested_nil {depth : Nat} {s : Stage} : ¬ Nested depth s [] := by
  rintro (hs | ⟨hs, -⟩) <;> cases hs

theorem Nested.of_flatMap {α : Type} {f : α → List Stage} {l : List α} {depth : Nat} {s : Stage}
    (hn : Nested depth s (l.flatMap f)) : ∃ a ∈ l, Nested depth s (f a) := by
  cases hn with
  | here hs =>
    obtain ⟨a, ha, hs⟩ := List.mem_flatMap.mp hs
    exact ⟨a, ha, .here hs⟩
  | inside hc hn =>
    obtain ⟨a, ha, hc⟩ := List.mem_flatMap.mp hc
    exact ⟨a, ha, .inside hc hn⟩

/-- What stands inside a stage stands inside all that has it. -/
theorem Nested.inner {depth depth' : Nat} {s c : Stage} {stages : List Stage}
    (hn : Nested depth s stages) (hc : Nested depth' c s.stages) :
    ∃ total, Nested total c stages := by
  induction hn with
  | here hs => exact ⟨_, .inside hs hc⟩
  | inside hcontainer _ ih =>
    obtain ⟨total, hc⟩ := ih hc
    exact ⟨total + 1, .inside hcontainer hc⟩

namespace Render

variable {pipelineAgent : Value}

theorem environment_eq_ok {vs : List Variable} {text : String} (h : environment vs = .ok text) :
    ∃ lines, variableLines vs = .ok lines ∧
      text = braces (!vs.isEmpty) 4 "environment" (String.join lines) := by
  obtain ⟨lines, hlines, h⟩ := bind_eq_ok.mp h
  exact ⟨lines, hlines, (Except.ok.inj h).symm⟩

theorem stageOptions_eq_ok {options : Option Options} {text : String}
    (h : stageOptions options = .ok text) :
    ∃ timeout, timeoutLine options = .ok timeout ∧
      text = braces (!timeout.isEmpty) 4 "options" timeout := by
  obtain ⟨timeout, htimeout, h⟩ := bind_eq_ok.mp h
  exact ⟨timeout, htimeout, (Except.ok.inj h).symm⟩

theorem pipelineOptions_eq_ok {settings : Settings} {options : Option Options} {text : String}
    (h : pipelineOptions settings options = .ok text) :
    ∃ retention timeout, intText settings.buildRetention = .ok retention ∧
      timeoutLine options = .ok timeout ∧ text = braces true 4 "options"
        ((if settings.disableConcurrentBuilds then line 8 "disableConcurrentBuilds()" else "") ++
          line 8 ("buildDiscarder(logRotator(numToKeepStr: '" ++ retention ++ "'))") ++
            timeout) := by
  obtain ⟨retention, hretention, h⟩ := bind_eq_ok.mp h
  obtain ⟨timeout, htimeout, h⟩ := bind_eq_ok.mp h
  exact ⟨retention, timeout, hretention, htimeout, (Except.ok.inj h).symm⟩

theorem approvalLines_eq_ok {a : Approval} {text : String}
    (h : approvalLines (some a) = .ok text) :
    ∃ timeout, intText a.timeout = .ok timeout ∧
      text = braces true 8 ("timeout(time:" ++ timeout ++ ", unit:\"SECONDS\")")
        (braces true 12 "input "
          (line 16 ("message \"" ++ Script.escape a.message ++ "\""))) := by
  obtain ⟨timeout, htimeout, h⟩ := bind_eq_ok.mp h
  exact ⟨timeout, htimeout, (Except.ok.inj h).symm⟩

theorem steps_eq_ok {s : Stage} {body : String} (h : steps s = .ok body) :
    ∃ script approval, s.steps = some script ∧ approvalLines s.approval = .ok approval ∧
      body = braces true 4 "steps" (approval ++ blockLine 8 script) := by
  rw [steps] at h
  obtain ⟨approval, happroval, h⟩ := bind_eq_ok.mp h
  cases hs : s.steps with
  | none =>
    rw [hs] at h
    cases h
  | some script =>
    rw [hs] at h
    exact ⟨script, approval, rfl, Failure.ofText_eq_ok_iff.mp happroval, (Except.ok.inj h).symm⟩

/-- The parts that the script of a stage is put together from. -/
structure StageParts (pipelineAgent : Value) (s : Stage) (inner : List String)
    (clause environment options body : String) : Prop where
  stages : allStages pipelineAgent s.stages = .ok inner
  clause : Agent.stageClause s.agent pipelineAgent = .ok clause
  environment : Render.environment s.environments = .ok environment
  options : stageOptions s.options = .ok options
  steps : s.stages = [] → Render.steps s = .ok body
  parallel : s.stages ≠ [] → body = Render.parallel s.failFast inner

theorem stage_eq_ok {s : Stage} {text : String} (h : stage pipelineAgent s = .ok text) :
    ∃ inner clause environment options body,
      StageParts pipelineAgent s inner clause environment options body ∧
        text = stageText s clause environment options body := by
  obtain ⟨name, agent, options, cs, approval, environments, script, failFast, stages⟩ := s
  rw [stage] at h
  obtain ⟨inner, hinner, h⟩ := bind_eq_ok.mp h
  obtain ⟨clause, hclause, h⟩ := bind_eq_ok.mp h
  obtain ⟨environment, henvironment, h⟩ := bind_eq_ok.mp h
  obtain ⟨options, hoptions, h⟩ := bind_eq_ok.mp h
  rw [Failure.ofText_eq_ok_iff] at henvironment hoptions
  cases stages with
  | nil =>
    obtain ⟨body, hbody, h⟩ := bind_eq_ok.mp h
    exact ⟨inner, clause, environment, options, body,
      ⟨hinner, hclause, henvironment, hoptions, fun _ => hbody, absurd rfl⟩,
      (Except.ok.inj h).symm⟩
  | cons c stages =>
    exact ⟨inner, clause, environment, options, parallel failFast inner,
      ⟨hinner, hclause, henvironment, hoptions, (absurd · (List.cons_ne_nil c stages)),
        fun _ => rfl⟩, (Except.ok.inj h).symm⟩

theorem exists_text_of_mem {stages : List Stage} {texts : List String}
    (h : allStages pipelineAgent stages = .ok texts) {s : Stage} (hs : s ∈ stages) :
    ∃ text ∈ texts, stage pipelineAgent s = .ok text := by
  induction stages generalizing texts with
  | nil => cases hs
  | cons c stages ih =>
    rw [allStages] at h
    obtain ⟨first, hfirst, h⟩ := bind_eq_ok.mp h
    obtain ⟨rest, hrest, h⟩ := bind_eq_ok.mp h
    obtain rfl : first :: rest = texts := Except.ok.inj h
    rcases List.mem_cons.mp hs with rfl | hs
    · exact ⟨first, List.mem_cons_self, hfirst⟩
    · obtain ⟨text, htext, hs⟩ := ih hrest hs
      exact ⟨text, List.mem_cons_of_mem _ htext, hs⟩

theorem exists_text_of_nested {depth : Nat} {s : Stage} {stages : List Stage}
    (hn : Nested depth s stages) {texts : List String}
    (h : allStages pipelineAgent stages = .ok texts) :
    ∃ text, stage pipelineAgent s = .ok text := by
  induction hn generalizing texts with
  | here hs =>
    obtain ⟨text, -, hstage⟩ := exists_text_of_mem h hs
    exact ⟨text, hstage⟩
  | inside hcontainer _ ih =>
    obtain ⟨text, -, hstage⟩ := exists_text_of_mem h hcontainer
    obtain ⟨_, _, _, _, _, hparts, -⟩ := stage_eq_ok hstage
    exact ih hparts.stages

theorem exists_stage_of_mem {stages : List Stage} {texts : List String}
    (h : allStages pipelineAgent stages = .ok texts) {text : String} (ht : text ∈ texts) :
    ∃ s ∈ stages, stage pipelineAgent s = .ok text := by
  induction stages generalizing texts with
  | nil =>
    obtain rfl : [] = texts := Except.ok.inj h
    cases ht
  | cons c stages ih =>
    rw [allStages] at h
    obtain ⟨first, hfirst, h⟩ := bind_eq_ok.mp h
    obtain ⟨rest, hrest, h⟩ := bind_eq_ok.mp h
    obtain rfl : first :: rest = texts := Except.ok.inj h
    rcases List.mem_cons.mp ht with rfl | ht
    · exact ⟨c, List.mem_cons_self, hfirst⟩
    · obtain ⟨s, hs, htext⟩ := ih hrest ht
      exact ⟨s, List.mem_cons_of_mem _ hs, htext⟩

end Render

open Render in
theorem Pipeline.render_eq_ok {settings : Settings} {p : Pipeline} {text : String}
    (h : p.render settings = .ok text) :
    ∃ texts clause environment options, allStages p.agent p.stages = .ok texts ∧
      Agent.clause p.agent "agent any" = .ok clause ∧
      Render.environment p.environments = .ok environment ∧
      pipelineOptions settings p.options = .ok options ∧
      text = braces true 0 "pipeline"
        (line 4 clause ++ environment ++ options ++
          braces true 4 "stages" (String.join (texts.map (blockLine 8))) ++
          braces true 4 "post" (String.join (p.post.map fun a => blockLine 8 (postAction a)))) := by
  rw [render] at h
  obtain ⟨texts, htexts, h⟩ := bind_eq_ok.mp h
  obtain ⟨clause, hclause, h⟩ := bind_eq_ok.mp h
  obtain ⟨environment, henvironment, h⟩ := bind_eq_ok.mp h
  obtain ⟨options, hoptions, h⟩ := bind_eq_ok.mp h
  rw [Failure.ofText_eq_ok_iff] at henvironment hoptions
  exact ⟨texts, clause, environment, options, htexts, hclause, henvironment, hoptions,
    (Except.ok.inj h).symm⟩

end Jenkinsfile
