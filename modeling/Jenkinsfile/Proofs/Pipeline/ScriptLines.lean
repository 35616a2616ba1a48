import Jenkinsfile.Proofs.Pipeline.Nesting
import Jenkinsfile.Proofs.Text.Lines

/-! The lines of scripts in a rendered pipeline.  A script that stands within some parallel stages
has been put on an indented line once for each of them; `render_lines` says that its lines are all
there, indented by as much as all blocks around it together. -/

namespace Jenkinsfile

namespace Render

open Text

/-! ### Layouts on characters -/

theorem toList_line (w : Nat) (text : String) :
    (line w text).toList = List.replicate w ' ' ++ text.toList ++ ['\n'] := by
  simp [line]

theorem toList_blockLine (w : Nat) (text : String) :
    (blockLine w text).toList = ofLines (blockLines w text.toList) := by
  rw [blockLine, toList_line, String.toList_ofList, ofLines_blockLines]

theorem toList_braces (w : Nat) (head body : String) :
    (braces true w head body).toList =
      List.replicate w ' ' ++ head.toList ++ ['\x7b', '\n'] ++ body.toList ++
        (List.replicate w ' ' ++ ['\x7d', '\n']) := by
  simp [braces, toList_line]

theorem endsLine_line (w : Nat) (text : String) : EndsLine (line w text).toList :=
  .inr ⟨_, toList_line w text⟩

theorem endsLine_blockLine (w : Nat) (text : String) : EndsLine (blockLine w text).toList :=
  endsLine_line ..

theorem endsLine_empty : EndsLine "".toList := .inl rfl

theorem endsLine_append {s t : String} (hs : EndsLine s.toList) (ht : EndsLine t.toList) :
    EndsLine (s ++ t).toList := by
  rw [String.toList_append]
  exact hs.append ht

theorem endsLine_braces (shown : Bool) (w : Nat) (head body : String) :
    EndsLine (braces shown w head body).toList := by
  cases shown with
  | false => exact endsLine_empty
  | true =>
    exact .inr ⟨List.replicate w ' ' ++ head.toList ++ ['\x7b', '\n'] ++ body.toList ++
      (List.replicate w ' ' ++ ['\x7d']), by simp [toList_braces]⟩

theorem endsLine_clauseLine (clause : String) : EndsLine (clauseLine clause).toList := by
  rw [clauseLine]
  split
  · exact endsLine_empty
  · exact endsLine_line ..

theorem endsLine_environment {vs : List Variable} {text : String}
    (h : environment vs = .ok text) : EndsLine text.toList := by
  obtain ⟨lines, -, rfl⟩ := environment_eq_ok h
  exact endsLine_braces ..

theorem endsLine_stageOptions {options : Option Options} {text : String}
    (h : stageOptions options = .ok text) : EndsLine text.toList := by
  obtain ⟨timeout, -, rfl⟩ := stageOptions_eq_ok h
  exact endsLine_braces ..

theorem endsLine_approvalLines {approval : Option Approval} {text : String}
    (h : approvalLines approval = .ok text) : EndsLine text.toList := by
  cases approval with
  | none =>
    obtain rfl := Except.ok.inj h
    exact endsLine_empty
  | some a =>
    obtain ⟨timeout, -, rfl⟩ := approvalLines_eq_ok h
    exact endsLine_braces ..

/-! ### Stages -/

/-- What a stage that runs a script is put together from. -/
structure LeafParts (pipelineAgent : Value) (s : Stage)
    (clause environment options approval script : String) : Prop where
  clause : Agent.stageClause s.agent pipelineAgent = .ok clause
  environment : Render.environment s.environments = .ok environment
  options : stageOptions s.options = .ok options
  approval : approvalLines s.approval = .ok approval
  script : s.steps = some script

variable {pipelineAgent : Value} {s : Stage} {inner : List String}
  {clause environment options approval script body : String}

theorem StageParts.leaf (h : StageParts pipelineAgent s inner clause environment options body)
    (hs : s.stages = []) : ∃ approval script,
      LeafParts pipelineAgent s clause environment options approval script ∧
        body = braces true 4 "steps" (approval ++ blockLine 8 script) := by
  obtain ⟨script, approval, hscript, happroval, hbody⟩ := steps_eq_ok (h.steps hs)
  exact ⟨approval, script, ⟨h.clause, h.environment, h.options, happroval, hscript⟩, hbody⟩

/-- The text of a stage that runs a script, up to this script. -/
def opening (s : Stage) (clause environment options approval : String) : String :=
  line 0 ("stage(\"" ++ Script.escape s.name ++ "\")\x7b") ++
    (clauseLine clause ++ environment ++ conditions (s.conditions.getD []) ++ options) ++
      line 4 "steps\x7b" ++ approval

theorem endsLine_head (he : Render.environment s.environments = .ok environment)
    (ho : stageOptions s.options = .ok options) (clause : String) :
    EndsLine (clauseLine clause ++ environment ++ conditions (s.conditions.getD []) ++
      options).toList :=
  endsLine_append (endsLine_append (endsLine_append (endsLine_clauseLine clause)
    (endsLine_environment he)) (endsLine_braces ..)) (endsLine_stageOptions ho)

theorem LeafParts.endsLine_opening
    (h : LeafParts pipelineAgent s clause environment options approval script) :
    EndsLine (opening s clause environment options approval).toList :=
  endsLine_append (endsLine_append (endsLine_append (endsLine_line ..)
    (endsLine_head h.environment h.options clause)) (endsLine_line ..))
    (endsLine_approvalLines h.approval)

/-- The lines of a stage that runs a script, each indented. -/
def leafLines (w : Nat) (s : Stage) (clause environment options approval script : String) :
    List (List Char) :=
  (lines (opening s clause environment options approval).toList).map (indentLine w) ++
    indentedLines (w + 8) script.toList ++
      [List.replicate (w + 4) ' ' ++ ['\x7d'], List.replicate w ' ' ++ ['\x7d']]

theorem toList_stageText (s : Stage) (clause environment options body : String) :
    ∃ cs, (stageText s clause environment options body).toList = 's' :: cs ++ ['\x7d', '\n'] := by
  refine ⟨"tage(\"".toList ++ (Script.escape s.name).toList ++ ['"', ')', '\x7b', '\n'] ++
    (clauseLine clause ++ environment ++ conditions (s.conditions.getD []) ++ options ++
      body).toList, ?_⟩
  rw [stageText, toList_braces]
  simp

theorem indentedLines_stageText (w : Nat) (s : Stage) (clause environment options body : String) :
    indentedLines w (stageText s clause environment options body).toList =
      (lines (stageText s clause environment options body).toList).map (indentLine w) := by
  obtain ⟨cs, hcs⟩ := toList_stageText s clause environment options body
  rw [hcs]
  exact indentedLines_eq_map_lines (by decide) rfl w cs

theorem blockLines_stageText (w : Nat) (s : Stage) (clause environment options body : String) :
    blockLines w (stageText s clause environment options body).toList =
      indentedLines w (stageText s clause environment options body).toList := by
  obtain ⟨cs, hcs⟩ := toList_stageText s clause environment options body
  rw [hcs]
  exact blockLines_eq_indentedLines rfl w _

theorem LeafParts.indentedLines
    (h : LeafParts pipelineAgent s clause environment options approval script) (w : Nat) :
    Text.indentedLines w (stageText s clause environment options
      (braces true 4 "steps" (approval ++ blockLine 8 script))).toList =
        leafLines w s clause environment options approval script := by
  have htext : (stageText s clause environment options
      (braces true 4 "steps" (approval ++ blockLine 8 script))).toList =
        (opening s clause environment options approval).toList ++
          (ofLines (blockLines 8 script.toList) ++
            ofLines [List.replicate 4 ' ' ++ ['\x7d'], ['\x7d']]) := by
    rw [← toList_blockLine]
    simp [stageText, opening, braces, toList_line, ofLines]
  have hclosing : (lines (ofLines [List.replicate 4 ' ' ++ ['\x7d'], ['\x7d']])).map
      (indentLine w) =
        [List.replicate (w + 4) ' ' ++ ['\x7d'], List.replicate w ' ' ++ ['\x7d']] := by
    rw [lines_ofLines (by simp [Unbroken, isLineBreak]), List.map_cons,
      indentLine_replicate_append]
    rfl
  rw [indentedLines_stageText, htext, lines_append h.endsLine_opening,
    lines_append (endsLine_ofLines _), lines_ofLines fun _ => unbroken_of_mem_blockLines,
    List.map_append, List.map_append, map_indentLine_blockLines, hclosing, leafLines,
    Nat.add_comm w 8, List.append_assoc]

theorem hasLines_blockLine (w : Nat) (text : String) :
    HasLines (blockLines w text.toList) (blockLine w text).toList := by
  rw [toList_blockLine]
  exact hasLines_ofLines _

theorem hasLines_append {ls : List (List Char)} {s t : String} (hs : EndsLine s.toList)
    (ht : HasLines ls t.toList) : HasLines ls (s ++ t).toList := by
  rw [String.toList_append]
  exact ht.append_left hs

theorem hasLines_append_right {ls : List (List Char)} {s : String} (hs : HasLines ls s.toList)
    (t : String) : HasLines ls (s ++ t).toList := by
  rw [String.toList_append]
  exact hs.append_right _

theorem hasLines_braces {ls : List (List Char)} {body : String} (h : HasLines ls body.toList)
    (w : Nat) (head : String) : HasLines ls (braces true w head body).toList := by
  rw [braces, if_pos rfl]
  exact hasLines_append_right (hasLines_append (endsLine_line ..) h) _

/-- The texts that are put together one after the other on indented lines. -/
theorem hasLines_blocks {α : Type} {l : List α} {a : α} (ha : a ∈ l) (f : α → String) (w : Nat) :
    HasLines (blockLines w (f a).toList)
      (String.join (l.map fun b => blockLine w (f b))).toList := by
  rw [String.toList_join, List.flatMap_map]
  exact .flatMap (fun _ _ => endsLine_blockLine ..) ha (hasLines_blockLine w (f a))

/-- The text of a stage inside is put on its line as a whole. -/
theorem StageParts.indentedLines_infix
    (h : StageParts pipelineAgent s inner clause environment options body) (hs : s.stages ≠ [])
    {text : String} (htext : text ∈ inner) (w : Nat) :
    Text.indentedLines (w + 8) text.toList <:+:
      Text.indentedLines w (stageText s clause environment options body).toList := by
  have hlines : HasLines (blockLines 8 text.toList)
      (stageText s clause environment options body).toList := by
    rw [h.parallel hs]
    exact hasLines_braces (hasLines_append (endsLine_head h.environment h.options clause)
      (hasLines_append (endsLine_line ..) (hasLines_braces (hasLines_blocks htext id 8) ..))) ..
  rw [indentedLines_stageText, ← map_indentLine_blockLines]
  exact (hlines.infix_lines fun _ => unbroken_of_mem_blockLines).map _

theorem leafLines_nested {depth : Nat} {s : Stage} {stages : List Stage}
    (hn : Nested depth s stages) (hs : s.stages = []) {texts : List String}
    (h : allStages pipelineAgent stages = .ok texts) :
    ∃ clause environment options approval script,
      LeafParts pipelineAgent s clause environment options approval script ∧
      ∃ text ∈ texts, ∀ w, leafLines (w + 8 * depth) s clause environment options approval script
        <:+: Text.indentedLines w text.toList := by
  -- A container is put on its line as a whole, which moves all that is in it by as much as itself:
  -- so the lines are stated for every `w`.
  induction hn generalizing texts with
  | here hmem =>
    obtain ⟨text, htext, hstage⟩ := exists_text_of_mem h hmem
    obtain ⟨inner, clause, environment, options, body, hparts, rfl⟩ := stage_eq_ok hstage
    obtain ⟨approval, script, hleaf, rfl⟩ := hparts.leaf hs
    refine ⟨clause, environment, options, approval, script, hleaf, _, htext, fun w => ?_⟩
    rw [hleaf.indentedLines]
    exact List.infix_rfl
  | @inside depth s container stages hmem hn ih =>
    have hcontainer : container.stages ≠ [] := by
      intro hnil
      rw [hnil] at hn
      cases hn with
      | here h | inside h => cases h
    obtain ⟨text, htext, hstage⟩ := exists_text_of_mem h hmem
    obtain ⟨inner, _, _, _, body, hparts, rfl⟩ := stage_eq_ok hstage
    obtain ⟨clause, environment, options, approval, script, hleaf, part, hpart, hlines⟩ :=
      ih hs hparts.stages
    refine ⟨clause, environment, options, approval, script, hleaf, _, htext, fun w => ?_⟩
    rw [show w + 8 * (depth + 1) = w + 8 + 8 * depth by omega]
    exact (hlines (w + 8)).trans (hparts.indentedLines_infix hcontainer hpart w)

/-! ### Post actions and pipelines -/

theorem blockLines_postAction (w : Nat) (a : PostAction) :
    blockLines w (postAction a).toList =
      blockLines w (a.condition ++ "\x7b").toList ++ indentedLines (w + 4) a.script.toList ++
        [List.replicate w ' ' ++ ['\x7d']] := by
  have htext : (postAction a).toList = a.condition.toList ++ ['\x7b', '\n'] ++
      ofLines (blockLines 4 a.script.toList) ++ ['\x7d', '\n'] := by
    rw [postAction, toList_braces, toList_blockLine]
    simp
  rw [htext, blockLines_braces _ _ (endsLine_ofLines _),
    lines_ofLines fun _ => unbroken_of_mem_blockLines, map_indentLine_blockLines,
    String.toList_append]
  rfl

end Render

open Render Text in
/-- A rendered pipeline has the lines of all its scripts.  Those of a stage within `depth` parallel
stages follow the opening of the stage and come before the ends of its steps and of itself; those of
a post action follow its condition. -/
theorem Pipeline.render_lines {settings : Settings} {p : Pipeline} {text : String}
    (h : p.render settings = .ok text) :
    (∀ depth s, Nested depth s p.stages → s.stages = [] →
      ∃ clause environment options approval script,
        LeafParts p.agent s clause environment options approval script ∧
        (lines (opening s clause environment options approval).toList).map
            (indentLine (8 + 8 * depth)) ++
          indentedLines (16 + 8 * depth) script.toList ++
          [List.replicate (12 + 8 * depth) ' ' ++ ['\x7d'],
            List.replicate (8 + 8 * depth) ' ' ++ ['\x7d']] <:+:
              List.splitOn '\n' text.toList) ∧
      ∀ a ∈ p.post,
        blockLines 8 (a.condition ++ "\x7b").toList ++ indentedLines 12 a.script.toList ++
          [List.replicate 8 ' ' ++ ['\x7d']] <:+: List.splitOn '\n' text.toList := by
  obtain ⟨texts, pipelineClause, environment, options, htexts, -, henvironment, hoptions, rfl⟩ :=
    render_eq_ok h
  have hall : EndsLine options.toList := by
    obtain ⟨_, _, -, -, rfl⟩ := pipelineOptions_eq_ok hoptions
    exact endsLine_braces ..
  have hhead : EndsLine (line 4 pipelineClause ++ environment ++ options).toList :=
    endsLine_append (endsLine_append (endsLine_line ..) (endsLine_environment henvironment)) hall
  refine ⟨fun depth s hn hs => ?_, fun a ha => ?_⟩
  · obtain ⟨clause, environment, options, approval, script, hleaf, part, hpart, hlines⟩ :=
      leafLines_nested hn hs htexts
    obtain ⟨c, -, hstage⟩ := exists_stage_of_mem htexts hpart
    obtain ⟨_, _, _, _, _, -, rfl⟩ := stage_eq_ok hstage
    refine ⟨clause, environment, options, approval, script, hleaf, ?_⟩
    have hstages := hlines 8
    rw [← blockLines_stageText, leafLines, show 8 + 8 * depth + 8 = 16 + 8 * depth by omega,
      show 8 + 8 * depth + 4 = 12 + 8 * depth by omega] at hstages
    refine hstages.trans (HasLines.infix_splitOn ?_ fun _ => unbroken_of_mem_blockLines)
    exact hasLines_braces (hasLines_append_right (hasLines_append hhead
      (hasLines_braces (hasLines_blocks hpart id 8) ..)) _) ..
  · rw [← blockLines_postAction]
    refine HasLines.infix_splitOn ?_ fun _ => unbroken_of_mem_blockLines
    exact hasLines_braces (hasLines_append (endsLine_append hhead (endsLine_braces ..))
      (hasLines_braces (hasLines_blocks ha postAction 8) ..)) ..

/-- Two stages at once, one of which shows an empty line, and a script without a line after them. -/
def parallelPipeline : Pipeline :=
  ⟨.null, [], none, [.parallel "test" none [.leaf "unit" "\nmake\n \n  check\n", .leaf "lint" ""]],
    [⟨"always", "\n"⟩]⟩

open Text in
/-- The script of the first of two stages at once, and the one after them. -/
theorem render_lines_parallelPipeline :
    ∃ text, parallelPipeline.render .standard = .ok text ∧
      [List.replicate 24 ' ' ++ "make".toList, [], List.replicate 26 ' ' ++ "check".toList] <:+:
        List.splitOn '\n' text.toList ∧
      [List.replicate 8 ' ' ++ "always\x7b".toList, [], List.replicate 8 ' ' ++ ['\x7d']] <:+:
        List.splitOn '\n' text.toList := by
  have hok : (parallelPipeline.render .standard).isOk = true := rfl
  cases h : parallelPipeline.render .standard with
  | error e =>
    rw [h] at hok
    cases hok
  | ok text =>
    obtain ⟨hstages, hpost⟩ := Pipeline.render_lines h
    refine ⟨text, rfl, ?_, hpost ⟨"always", "\n"⟩ (List.mem_singleton.mpr rfl)⟩
    obtain ⟨_, _, _, _, script, hleaf, hlines⟩ := hstages 1 (.leaf "unit" "\nmake\n \n  check\n")
      (.inside List.mem_cons_self (.here List.mem_cons_self)) rfl
    obtain rfl := Option.some.inj hleaf.script
    have hindented : indentedLines (16 + 8 * 1) "\nmake\n \n  check\n".toList =
        [List.replicate 24 ' ' ++ "make".toList, [], List.replicate 26 ' ' ++ "check".toList] := rfl
    rw [hindented] at hlines
    exact (List.infix_append ..).trans hlines

end Jenkinsfile
