import Jenkinsfile.Proofs.Pipeline.Renderable

/-! The agents that stages run on.  A stage has no clause of its own if its agent has the clause of
the pipeline, as both are made where nothing is asked for.  `stageClause_inForce` says that the
clause in force is all the same that of the stage's agent, with that of the pipeline for one that
asks for nothing; `inForce_of_render` says so of every stage in the script of a pipeline. -/

namespace Jenkinsfile

open Failure (longNumber)

namespace Agent

variable {agent pipelineAgent : Value} {fallback own outer : String}

/-- The clause under which a stage runs: its own, or that of the pipeline if it has none. -/
def inForce (own outer : String) : String := if own = "" then outer else own

/-- An agent asks for nothing and has whatever clause it is given, or it has one clause, which is not
empty, whatever it is given, or its label has no text. -/
theorem clause_cases (h : checkAgent agent = .ok ()) :
    (∀ fallback, clause agent fallback = .ok fallback) ∨
      (∃ text, text ≠ "" ∧ ∀ fallback, clause agent fallback = .ok text) ∨
      ∀ fallback, clause agent fallback = .error longNumber := by
  cases agent with
  | null => exact .inl fun _ => rfl
  | str s =>
    by_cases hs : s.isEmpty
    · exact .inl fun _ => by rw [clause, if_pos hs]
    · exact .inr (.inl ⟨"agent " ++ s, by simp, fun _ => by rw [clause, if_neg hs]⟩)
  | map entries =>
    cases hlabel : label? entries with
    | none => exact .inl fun _ => by simp only [clause, hlabel]
    | some label =>
      by_cases ht : label.truthy = true
      · obtain ⟨⟨text, -, htext⟩, -⟩ | ⟨hlong, -⟩ := Failure.ofText_of_tells label.tells_text
        · exact .inr (.inl ⟨"agent \x7blabel \"" ++ text ++ "\"\x7d", by simp, fun _ => by
            simp only [clause, hlabel, if_pos ht, htext]
            rfl⟩)
        · exact .inr (.inr fun _ => by
            simp only [clause, hlabel, if_pos ht, hlong]
            rfl)
      · exact .inl fun _ => by simp only [clause, hlabel, if_neg ht]
  | bool | int | float | list | other => cases h

theorem clause_eq_error (h : checkAgent agent = .ok ()) {f : Failure}
    (hf : clause agent fallback = .error f) :
    f = longNumber ∧ ∀ fallback, clause agent fallback = .error longNumber := by
  rcases clause_cases h with hnothing | ⟨text, -, htext⟩ | hlong
  · cases hf.symm.trans (hnothing fallback)
  · cases hf.symm.trans (htext fallback)
  · exact ⟨Except.error.inj (hf.symm.trans (hlong fallback)), hlong⟩

/-- A clause that was left out is that of the pipeline: whichever clause the pipeline has where it
asks for nothing, the one in force is that of the stage's agent. -/
theorem clause_inForce (hown : stageClause agent pipelineAgent = .ok own)
    (houter : clause pipelineAgent fallback = .ok outer) :
    clause agent outer = .ok (inForce own outer) := by
  obtain ⟨mine, hmine, hown⟩ := bind_eq_ok.mp hown
  obtain ⟨theirs, htheirs, hown⟩ := bind_eq_ok.mp hown
  obtain rfl := Except.ok.inj hown
  rcases clause_cases (checkAgent_of_clause hmine) with hnothing | ⟨text, hne, htext⟩ | hlong
  · -- a stage that asks for nothing has no clause of its own
    obtain rfl : "" = mine := Except.ok.inj ((hnothing "").symm.trans hmine)
    simp [hnothing, inForce]
  · obtain rfl : text = mine := Except.ok.inj ((htext "").symm.trans hmine)
    rw [htext]
    by_cases heq : text = theirs
    · -- the pipeline's clause is not empty either, so it does not depend on the fallback
      subst heq
      rcases clause_cases (checkAgent_of_clause htheirs) with hnothing | ⟨again, -, hagain⟩ | hlong
      · exact absurd (Except.ok.inj (htheirs.symm.trans (hnothing ""))) hne
      · obtain rfl : again = text := Except.ok.inj ((hagain "").symm.trans htheirs)
        obtain rfl : again = outer := Except.ok.inj ((hagain fallback).symm.trans houter)
        simp [inForce]
      · cases htheirs.symm.trans (hlong "")
    · simp [inForce, heq, hne]
  · cases hmine.symm.trans (hlong "")

/-- Whatever the agents of a stage and of its pipeline are, the clause in force for the stage is that
of its agent with the pipeline's clause for an agent that asks for nothing.  Only a label that has no
text leaves the stage without either, and then both fail alike. -/
theorem stageClause_inForce (ha : checkAgent agent = .ok ())
    (hp : checkAgent pipelineAgent = .ok ()) :
    (do
      let own ← stageClause agent pipelineAgent
      pure (inForce own (← clause pipelineAgent "agent any"))) =
        (do clause agent (← clause pipelineAgent "agent any")) ∧
      (Writable agent ∧ Writable pipelineAgent ↔
        ∃ own outer, stageClause agent pipelineAgent = .ok own ∧
          clause pipelineAgent "agent any" = .ok outer ∧
          clause agent outer = .ok (inForce own outer)) := by
  have hwritable := (tells_stageClause ha hp).exists_iff
  have houter (hw : Writable pipelineAgent) := (tells_clause hp "agent any").exists_iff.mpr hw
  refine ⟨?_, ⟨fun hw => ?_, fun ⟨own, _, hown, _⟩ => hwritable.mp ⟨own, hown⟩⟩⟩
  · cases hown : stageClause agent pipelineAgent with
    | ok own =>
      obtain ⟨outer, houter⟩ := houter (hwritable.mp ⟨own, hown⟩).2
      rw [houter]
      exact (clause_inForce hown houter).symm
    | error f =>
      -- one of the labels has no text, so that the other side fails too, whichever it reads first
      obtain hmine | ⟨mine, -, hown⟩ := bind_eq_error.mp hown
      · obtain ⟨rfl, hlong⟩ := clause_eq_error ha hmine
        cases htheirs : clause pipelineAgent "agent any" with
        | ok outer => exact (hlong outer).symm
        | error g =>
          rw [(clause_eq_error hp htheirs).1]
          rfl
      · obtain htheirs | ⟨_, -, hown⟩ := bind_eq_error.mp hown
        · obtain ⟨rfl, hlong⟩ := clause_eq_error hp htheirs
          rw [hlong]
          rfl
        · cases hown
  · obtain ⟨own, hown⟩ := hwritable.mpr hw
    obtain ⟨outer, houter⟩ := houter hw.2
    exact ⟨own, outer, hown, houter, clause_inForce hown houter⟩

/-- A label in a map under a key in capitals, and the same clause as a text: the stage is left without
a clause, and what it asks for is in force. -/
theorem stageClause_inForce_label :
    checkAgent (.map [("LABEL", .str "linux")]) = .ok () ∧
      checkAgent (.str "\x7blabel \"linux\"\x7d") = .ok () ∧
      stageClause (.map [("LABEL", .str "linux")]) (.str "\x7blabel \"linux\"\x7d") = .ok "" ∧
      ∃ outer, clause (.str "\x7blabel \"linux\"\x7d") "agent any" = .ok outer ∧
        clause (.map [("LABEL", .str "linux")]) outer = .ok (inForce "" outer) := by
  have hlabel : checkAgent (.map [("LABEL", .str "linux")]) = .ok () := rfl
  have htext : checkAgent (.str "\x7blabel \"linux\"\x7d") = .ok () := rfl
  have hredundant :
      stageClause (.map [("LABEL", .str "linux")]) (.str "\x7blabel \"linux\"\x7d") = .ok "" := rfl
  have hwritable := (tells_stageClause hlabel htext).exists_iff.mp ⟨"", hredundant⟩
  obtain ⟨own, outer, hown, houter, hforce⟩ := (stageClause_inForce hlabel htext).2.mp hwritable
  obtain rfl : "" = own := Except.ok.inj (hredundant.symm.trans hown)
  exact ⟨hlabel, htext, hredundant, outer, houter, hforce⟩

end Agent

open Render in
/-- In the script of a pipeline, the clause in force for a stage, however deep it stands, is that of
its agent with the pipeline's clause for an agent that asks for nothing. -/
theorem Pipeline.inForce_of_render {settings : Settings} {p : Pipeline} {text : String}
    (h : p.render settings = .ok text) {depth : Nat} {s : Stage} (hn : Nested depth s p.stages) :
    ∃ inner own outer environment options body, Agent.clause p.agent "agent any" = .ok outer ∧
      StageParts p.agent s inner own environment options body ∧
      stage p.agent s = .ok (stageText s own environment options body) ∧
      Agent.clause s.agent outer = .ok (Agent.inForce own outer) := by
  obtain ⟨texts, outer, _, _, htexts, houter, -⟩ := render_eq_ok h
  obtain ⟨_, hstage⟩ := exists_text_of_nested hn htexts
  obtain ⟨inner, own, environment, options, body, hparts, rfl⟩ := stage_eq_ok hstage
  exact ⟨inner, own, outer, environment, options, body, houter, hparts, hstage,
    Agent.clause_inForce hparts.clause houter⟩

end Jenkinsfile
