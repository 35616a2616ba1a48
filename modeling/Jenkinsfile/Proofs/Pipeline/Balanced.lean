import Jenkinsfile.Proofs.Pipeline.ScriptLines
import Jenkinsfile.Proofs.Script.Weight
import Jenkinsfile.Proofs.Text.Digit

/-! The braces of a rendered pipeline.  Whatever its stages are called, its variables hold and its
questions say, `render_balanced` shows that a pipeline whose other parts are complete in themselves
is rendered with as many left as right braces. -/

namespace Jenkinsfile

open Script

namespace Render

/-! ### Lines -/

theorem weighs_replicate (w : Nat) : Weighs (List.replicate w ' ') 0 := by
  have hblank : Weighs [' '] 0 := weighs_of_after rfl
  induction w with
  | zero => exact weighs_of_after rfl
  | succ w ih => exact hblank.append ih

theorem weighs_lineFeed : Weighs ['\n'] 0 := weighs_of_after rfl

theorem weighs_append {s t : String} {m n : Int} (hs : Weighs s.toList m) (ht : Weighs t.toList n) :
    Weighs (s ++ t).toList (m + n) := by
  rw [String.toList_append]
  exact hs.append ht

/-- A line, of which the text is known to be read together with the line end. -/
theorem weighs_line {text : String} {n : Int} (h : Weighs (text.toList ++ ['\n']) n) (w : Nat) :
    Weighs (line w text).toList n := by
  rw [toList_line, List.append_assoc, ← Int.zero_add n]
  exact (weighs_replicate w).append h

theorem weighs_blockLine {w : Nat} (hw : 0 < w) {text : String}
    (h : Weighs (text.toList ++ ['\n']) 0) : Weighs (blockLine w text).toList 0 := by
  have hblank : Weighs [' '] 0 := weighs_of_after rfl
  rw [toList_blockLine]
  exact (hblank.append h).of_alike (alike_blockLines hw text.toList)

theorem weighs_braces {head body : String} (hhead : Weighs (head.toList ++ ['\x7b']) 1)
    (hbody : Weighs body.toList 0) (shown : Bool) (w : Nat) :
    Weighs (braces shown w head body).toList 0 := by
  cases shown with
  | false => exact weighs_of_after rfl
  | true =>
    have hopen : Weighs ((head ++ "\x7b").toList ++ ['\n']) 1 := by
      rw [String.toList_append]
      exact hhead.append weighs_lineFeed
    have hclose : Weighs ("\x7d".toList ++ ['\n']) (-1) := weighs_of_after rfl
    exact weighs_append (weighs_append (weighs_line hopen w) hbody) (weighs_line hclose w)

theorem weighs_join {texts : List String} (h : ∀ t ∈ texts, Weighs t.toList 0) :
    Weighs (String.join texts).toList 0 := by
  rw [String.toList_join]
  exact .flatMap h

theorem weighs_empty : Weighs "".toList 0 := weighs_of_after rfl

/-! ### Numbers -/

theorem mem_toString_int {n : Int} {c : Char} (h : c ∈ (toString n).toList) :
    isStop c = false ∧ c ≠ '\'' ∧ c ≠ '\\' := by
  have hdigit : c = '-' ∨ c.isDigit = true := by
    rw [Text.toList_toString_int] at h
    split at h
    · exact (List.mem_cons.mp h).imp_right (Nat.isDigit_of_mem_toDigits (by omega) (by omega))
    · exact .inr (Nat.isDigit_of_mem_toDigits (by omega) (by omega) h)
  rcases hdigit with rfl | hc
  · decide
  · have hne (d : Char) (hd : d.isDigit = false) : c ≠ d := by
      rintro rfl
      rw [hc] at hd
      cases hd
    simp [isStop, structural?, QuoteMark.ofChar?, hne '\x7b' rfl, hne '\x7d' rfl, hne '\n' rfl,
      hne '\'' rfl, hne '"' rfl, hne '\\' rfl]

theorem escapesAfter_of_forall {cs : List Char} (h : ∀ c ∈ cs, c ≠ '\\') :
    escapesAfter false cs = false := by
  induction cs with
  | nil => rfl
  | cons c cs ih =>
    rw [escapesAfter, List.foldl_cons, escapes_eq_false (h c List.mem_cons_self)]
    exact ih fun a ha => h a (List.mem_cons_of_mem _ ha)

theorem weighs_intText {n : Int} {text : String} (h : intText n = .ok text) :
    Weighs text.toList 0 := by
  obtain rfl := eq_of_intText h
  intro d
  rw [after_of_not_stop fun c hc => (mem_toString_int hc).1,
    escapesAfter_of_forall fun c hc => (mem_toString_int hc).2.2, Int.add_zero]

theorem enclosed_intText {n : Int} {text : String} (h : intText n = .ok text) :
    Enclosed .single text.toList := by
  obtain rfl := eq_of_intText h
  exact enclosed_of_forall fun _ hc => (mem_toString_int hc).2

/-! ### Parts of a stage -/

theorem weighs_clauseLine {clause : String} (h : SelfContained clause.toList) :
    Weighs (clauseLine clause).toList 0 := by
  rw [clauseLine]
  split
  · exact weighs_empty
  · exact weighs_line (h.weighs rfl (by decide)) 4

theorem weighs_variableLine {v : Variable} {text : String} (hname : SelfContained v.name.toList)
    (h : variableLine v = .ok text) : Weighs text.toList 0 := by
  obtain ⟨literal, hliteral, h⟩ := bind_eq_ok.mp h
  obtain rfl := Except.ok.inj h
  obtain ⟨value, -, rfl⟩ := literalText_eq_ok_iff.mp hliteral
  have hvalue : Weighs ('"' :: (escape value).toList ++ ['"', '\n']) 0 :=
    weighs_literal (enclosed_escape value) rfl (by decide)
  have hname : Weighs (v.name.toList ++ [' ']) 0 := hname.weighs rfl (by decide)
  have hequals : Weighs ['=', ' '] 0 := weighs_of_after rfl
  have hline := hname.append (hequals.append hvalue)
  refine weighs_line ?_ 8
  simpa using hline

theorem weighs_variableLines {vs : List Variable} {lines : List String}
    (hnames : ∀ v ∈ vs, SelfContained v.name.toList) (h : variableLines vs = .ok lines) :
    ∀ line ∈ lines, Weighs line.toList 0 := by
  induction vs generalizing lines with
  | nil =>
    obtain rfl := Except.ok.inj h
    simp
  | cons v vs ih =>
    obtain ⟨own, hown, h⟩ := bind_eq_ok.mp h
    obtain ⟨rest, hrest, h⟩ := bind_eq_ok.mp h
    obtain rfl := Except.ok.inj h
    obtain ⟨hname, hnames⟩ := List.forall_mem_cons.mp hnames
    exact List.forall_mem_cons.mpr ⟨weighs_variableLine hname hown, ih hnames hrest⟩

theorem weighs_environment {vs : List Variable} {text : String}
    (hnames : ∀ v ∈ vs, SelfContained v.name.toList) (h : environment vs = .ok text) :
    Weighs text.toList 0 := by
  obtain ⟨lines, hlines, rfl⟩ := environment_eq_ok h
  exact weighs_braces (weighs_of_after rfl) (weighs_join (weighs_variableLines hnames hlines)) _ 4

/-- Expressions with an operator between them, each before a blank. -/
theorem weighs_intercalate {operator : List Char} (ho : Weighs operator 0) {es : List (List Char)}
    (h : ∀ e ∈ es, SelfContained e) (hne : es ≠ []) :
    Weighs ((' ' :: operator).intercalate es ++ [' ']) 0 := by
  induction es with
  | nil => exact absurd rfl hne
  | cons e es ih =>
    have hfirst : Weighs (e ++ [' ']) 0 := (h e List.mem_cons_self).weighs rfl (by decide)
    cases es with
    | nil => simpa using hfirst
    | cons e' es =>
      have hrest := ih (fun a ha => h a (List.mem_cons_of_mem _ ha)) (by simp)
      rw [List.intercalate_cons_cons]
      simpa using hfirst.append (ho.append hrest)

theorem weighs_conditionLine (key : String) {expressions : List String}
    (h : ∀ e ∈ expressions, SelfContained e.toList) :
    Weighs (conditionLine key expressions).toList 0 := by
  have hjoined {operator : String} (cs : List Char) (ho : operator.toList = ' ' :: cs)
      (hcs : Weighs cs 0) (hne : expressions ≠ []) :
      Weighs (line 8
        ("expression \x7b " ++ operator.intercalate expressions ++ " \x7d")).toList 0 := by
    have hes : ∀ e ∈ expressions.map String.toList, SelfContained e := fun e he => by
      obtain ⟨a, ha, rfl⟩ := List.mem_map.mp he
      exact h a ha
    have hexpressions := weighs_intercalate hcs hes (by simpa using hne)
    have hopen : Weighs "expression \x7b ".toList 1 := weighs_of_after rfl
    have hclose : Weighs ['\x7d', '\n'] (-1) := weighs_of_after rfl
    refine weighs_line ?_ 8
    simpa [String.toList_intercalate, ho] using (hopen.append hexpressions).append hclose
  rw [conditionLine]
  split
  · exact weighs_empty
  · rename_i hne
    have hne : expressions ≠ [] := fun h => hne (List.isEmpty_iff.mpr h)
    split
    · exact hjoined ['&', '&', ' '] rfl (weighs_of_after rfl) hne
    · split
      · exact hjoined ['|', '|', ' '] rfl (weighs_of_after rfl) hne
      · exact weighs_empty

theorem weighs_conditions {cs : Conditions} (h : ∀ c ∈ cs, ∀ e ∈ c.2, SelfContained e.toList) :
    Weighs (conditions cs).toList 0 := by
  have hbefore : Weighs (line 8 "beforeAgent true").toList 0 :=
    weighs_line (weighs_of_after rfl) 8
  refine weighs_braces (weighs_of_after rfl)
    (weighs_append hbefore (weighs_join fun t ht => ?_)) _ 4
  obtain ⟨c, hc, rfl⟩ := List.mem_map.mp ht
  exact weighs_conditionLine c.1 (h c hc)

theorem weighs_timeout {n : Int} {timeout rest : String} (hn : intText n = .ok timeout)
    (h : Weighs rest.toList 0) : Weighs ("timeout(time:" ++ timeout ++ rest).toList 0 := by
  have hstart : Weighs "timeout(time:".toList 0 := weighs_of_after rfl
  exact weighs_append (weighs_append hstart (weighs_intText hn)) h

theorem weighs_timeoutLine {options : Option Options} {text : String}
    (h : timeoutLine options = .ok text) : Weighs text.toList 0 := by
  cases options with
  | none =>
    obtain rfl := Except.ok.inj h
    exact weighs_empty
  | some o =>
    rw [timeoutLine] at h
    split at h
    · obtain rfl := Except.ok.inj h
      exact weighs_empty
    · obtain ⟨timeout, htimeout, h⟩ := bind_eq_ok.mp h
      obtain rfl := Except.ok.inj h
      exact weighs_line ((weighs_timeout htimeout (weighs_of_after rfl)).append weighs_lineFeed) 8

theorem weighs_stageOptions {options : Option Options} {text : String}
    (h : stageOptions options = .ok text) : Weighs text.toList 0 := by
  obtain ⟨timeout, htimeout, rfl⟩ := stageOptions_eq_ok h
  exact weighs_braces (weighs_of_after rfl) (weighs_timeoutLine htimeout) _ 4

theorem weighs_approvalLines {approval : Option Approval} {text : String}
    (h : approvalLines approval = .ok text) : Weighs text.toList 0 := by
  cases approval with
  | none =>
    obtain rfl := Except.ok.inj h
    exact weighs_empty
  | some a =>
    obtain ⟨timeout, htimeout, rfl⟩ := approvalLines_eq_ok h
    have hmessage : Weighs ('"' :: (escape a.message).toList ++ ['"', '\n']) 0 :=
      weighs_literal (enclosed_escape _) rfl (by decide)
    have hstart : Weighs "message ".toList 0 := weighs_of_after rfl
    have hline : Weighs (("message \"" ++ escape a.message ++ "\"").toList ++ ['\n']) 0 := by
      simpa using hstart.append hmessage
    have hbrace : Weighs ['\x7b'] 1 := weighs_of_after rfl
    exact weighs_braces ((weighs_timeout htimeout (weighs_of_after rfl)).append hbrace)
      (weighs_braces (weighs_of_after rfl) (weighs_line hline 16) _ 12) _ 8

/-! ### Stages and pipelines -/

theorem weighs_stageText {s : Stage} {clause environment options body : String}
    (hclause : SelfContained clause.toList) (henvironment : Weighs environment.toList 0)
    (hcs : ∀ c ∈ s.conditions.getD [], ∀ e ∈ c.2, SelfContained e.toList)
    (hoptions : Weighs options.toList 0) (hbody : Weighs body.toList 0) :
    Weighs (stageText s clause environment options body).toList 0 := by
  have hname : Weighs ('"' :: (escape s.name).toList ++ ['"', ')']) 0 :=
    weighs_literal (enclosed_escape _) rfl (by decide)
  have hstart : Weighs "stage(".toList 0 := weighs_of_after rfl
  have hbrace : Weighs ['\x7b'] 1 := weighs_of_after rfl
  have hhead : Weighs (("stage(\"" ++ escape s.name ++ "\")").toList ++ ['\x7b']) 1 := by
    simpa using (hstart.append hname).append hbrace
  exact weighs_braces hhead (weighs_append (weighs_append (weighs_append (weighs_append
    (weighs_clauseLine hclause) henvironment) (weighs_conditions hcs)) hoptions) hbody) _ 0

theorem weighs_steps {script approval : String} (h : SelfContained script.toList)
    (happroval : Weighs approval.toList 0) :
    Weighs (braces true 4 "steps" (approval ++ blockLine 8 script)).toList 0 :=
  weighs_braces (weighs_of_after rfl) (weighs_append happroval
    (weighs_blockLine (by omega) (h.weighs rfl (by decide)))) _ 4

theorem weighs_blocks {texts : List String} (h : ∀ t ∈ texts, Weighs t.toList 0) :
    Weighs (String.join (texts.map (blockLine 8))).toList 0 := by
  refine weighs_join fun t ht => ?_
  obtain ⟨text, htext, rfl⟩ := List.mem_map.mp ht
  exact weighs_blockLine (by omega) ((h text htext).append weighs_lineFeed)

theorem weighs_parallel {texts : List String} (h : ∀ t ∈ texts, Weighs t.toList 0)
    (failFast : Bool) : Weighs (parallel failFast texts).toList 0 := by
  have hfail : Weighs (line 4 ("failFast " ++ if failFast then "true" else "false")).toList 0 := by
    cases failFast <;> exact weighs_line (weighs_of_after rfl) 4
  exact weighs_append hfail (weighs_braces (weighs_of_after rfl) (weighs_blocks h) _ 4)

theorem weighs_postAction {a : PostAction} (hcondition : SelfContained a.condition.toList)
    (hscript : SelfContained a.script.toList) : Weighs (postAction a).toList 0 :=
  weighs_braces (hcondition.weighs rfl (by decide))
    (weighs_blockLine (by omega) (hscript.weighs rfl (by decide))) _ 0

theorem weighs_pipelineOptions {settings : Settings} {options : Option Options} {text : String}
    (h : pipelineOptions settings options = .ok text) : Weighs text.toList 0 := by
  obtain ⟨retention, timeout, hretention, htimeout, rfl⟩ := pipelineOptions_eq_ok h
  have hconcurrent : Weighs (if settings.disableConcurrentBuilds then
      line 8 "disableConcurrentBuilds()" else "").toList 0 := by
    split
    · exact weighs_line (weighs_of_after rfl) 8
    · exact weighs_empty
  have hnumber : Weighs ('\'' :: retention.toList ++ ['\'', ')']) 0 :=
    weighs_literal (enclosed_intText hretention) rfl (by decide)
  have hstart : Weighs "buildDiscarder(logRotator(numToKeepStr: ".toList 0 := weighs_of_after rfl
  have hend : Weighs [')', '\n'] 0 := weighs_of_after rfl
  have hline : Weighs (("buildDiscarder(logRotator(numToKeepStr: '" ++ retention ++
      "'))").toList ++ ['\n']) 0 := by
    simpa using (hstart.append hnumber).append hend
  exact weighs_braces (weighs_of_after rfl) (weighs_append (weighs_append hconcurrent
    (weighs_line hline 8)) (weighs_timeoutLine htimeout)) _ 4

end Render

/-- The parts of a stage in a pipeline with this agent that are written as they are, each complete
in itself. -/
structure Stage.PartsSelfContained (pipelineAgent : Value) (s : Stage) : Prop where
  clause : ∀ clause, Agent.stageClause s.agent pipelineAgent = .ok clause →
    SelfContained clause.toList
  names : ∀ v ∈ s.environments, SelfContained v.name.toList
  conditions : ∀ c ∈ s.conditions.getD [], ∀ e ∈ c.2, SelfContained e.toList
  script : ∀ script ∈ s.steps, SelfContained script.toList

/-- Those of a pipeline, of all stages in it and of its post actions. -/
structure Pipeline.PartsSelfContained (p : Pipeline) : Prop where
  clause : ∀ clause, Agent.clause p.agent "agent any" = .ok clause → SelfContained clause.toList
  names : ∀ v ∈ p.environments, SelfContained v.name.toList
  stages : ∀ depth s, Nested depth s p.stages → s.PartsSelfContained p.agent
  post : ∀ a ∈ p.post, SelfContained a.condition.toList ∧ SelfContained a.script.toList

open Render

/-- A stage is balanced if what it runs is: its own script, or the stages in it. -/
theorem weighs_allStages {pipelineAgent : Value} (stages : List Stage) {texts : List String}
    (hparts : ∀ depth s, Nested depth s stages → s.PartsSelfContained pipelineAgent)
    (h : allStages pipelineAgent stages = .ok texts) : ∀ text ∈ texts, Weighs text.toList 0 := by
  intro text htext
  obtain ⟨s, hs, hstage⟩ := exists_stage_of_mem h htext
  obtain ⟨inner, clause, environment, options, body, hown, rfl⟩ := stage_eq_ok hstage
  have hself := hparts 0 s (.here hs)
  refine weighs_stageText (hself.clause clause hown.clause)
    (weighs_environment hself.names hown.environment) hself.conditions
    (weighs_stageOptions hown.options) ?_
  -- The one place where the rendering goes into the tree of stages.
  by_cases hleaf : s.stages = []
  · obtain ⟨approval, script, hscript, rfl⟩ := hown.leaf hleaf
    exact weighs_steps (hself.script script hscript.script)
      (weighs_approvalLines hscript.approval)
  · rw [hown.parallel hleaf]
    exact weighs_parallel (weighs_allStages s.stages
      (fun depth c hc => hparts (depth + 1) c (.inside hs hc)) hown.stages) s.failFast
termination_by sizeOf stages
decreasing_by
  have hlt := List.sizeOf_lt_of_mem hs
  cases s
  simp only [Stage.mk.sizeOf_spec] at hlt ⊢
  omega

/-- The layout of a rendered pipeline ends at depth zero. -/
theorem Pipeline.render_balanced {settings : Settings} {p : Pipeline} {text : String}
    (hp : p.PartsSelfContained) (h : p.render settings = .ok text) (w : Nat) :
    (lay w text.toList).2 = 0 := by
  obtain ⟨texts, clause, environment, options, htexts, hclause, henvironment, hoptions, rfl⟩ :=
    render_eq_ok h
  have hstages : Weighs (braces true 4 "stages" (String.join (texts.map (blockLine 8)))).toList 0 :=
    weighs_braces (weighs_of_after rfl)
      (weighs_blocks (weighs_allStages p.stages hp.stages htexts)) true 4
  have hpost : Weighs (braces true 4 "post"
      (String.join (p.post.map fun a => blockLine 8 (postAction a)))).toList 0 := by
    refine weighs_braces (weighs_of_after rfl) ?_ true 4
    rw [← Function.comp_def (blockLine 8) postAction, ← List.map_map]
    refine weighs_blocks fun t ht => ?_
    obtain ⟨a, ha, rfl⟩ := List.mem_map.mp ht
    exact weighs_postAction (hp.post a ha).1 (hp.post a ha).2
  have hclause : Weighs (line 4 clause).toList 0 :=
    weighs_line ((hp.clause clause hclause).weighs rfl (by decide)) 4
  have hbody := weighs_append (weighs_append (weighs_append (weighs_append hclause
    (weighs_environment hp.names henvironment)) (weighs_pipelineOptions hoptions)) hstages) hpost
  rw [lay_depth]
  exact (weighs_braces (weighs_of_after rfl) hbody true 0).selfContained.2

/-- Stages within a stage and a variable, whose names and values are full of braces and marks. -/
def bracedPipeline : Pipeline :=
  ⟨.str "any", [⟨"MARK", .str "\"\x7b"⟩], some ⟨60⟩,
    [.parallel "all\x7d" none [.leaf "say \"\x7b\"" "script\x7b\n  sh '''\n  \x7d\n'''\n\x7d"]],
    [⟨"always", cleanUpScript⟩]⟩

/-- Its script is balanced. -/
theorem render_balanced_bracedPipeline :
    ∃ text, bracedPipeline.render .standard = .ok text ∧ (lay 4 text.toList).2 = 0 := by
  have hparts : bracedPipeline.PartsSelfContained := by
    refine ⟨fun clause h => by cases h; decide, by simp [bracedPipeline]; decide, ?_,
      by simp [bracedPipeline]; decide⟩
    intro depth s hn
    cases hn with
    | here hs =>
      obtain rfl := List.mem_singleton.mp hs
      exact ⟨fun clause h => by cases h; decide, by simp [Stage.parallel],
        by simp [Stage.parallel], by simp [Stage.parallel]⟩
    | inside hs hn =>
      obtain rfl := List.mem_singleton.mp hs
      cases hn with
      | here hs =>
        obtain rfl := List.mem_singleton.mp hs
        exact ⟨fun clause h => by cases h; decide, by simp [Stage.leaf], by simp [Stage.leaf],
          by simp [Stage.leaf]; decide⟩
      | inside hs hn =>
        obtain rfl := List.mem_singleton.mp hs
        cases hn with
        | here hs | inside hs => cases hs
  have hok : (bracedPipeline.render .standard).isOk = true := rfl
  cases h : bracedPipeline.render .standard with
  | error e =>
    rw [h] at hok
    cases hok
  | ok text => exact ⟨text, rfl, Pipeline.render_balanced hparts h 4⟩

end Jenkinsfile
