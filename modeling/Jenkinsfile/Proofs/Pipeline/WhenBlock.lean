import Jenkinsfile.Proofs.Pipeline.Renderable

/-! The block of conditions of a stage.  It is opened for any conditions at all, but only lists that
are not empty, under `all` and `any`, give a clause in it: `stage_conditions_of_compile` says which
stages of a compiled pipeline are told by it what their conditions say. -/

namespace Jenkinsfile

/-- Whether conditions may stand under the key. -/
def IsConditionKey (key : String) : Prop := key = "all" ∨ key = "any"

/-- Conditions stand under `all` and `any` in a task that passes its check. -/
theorem Task.conditionKeys_of_check {t : Task} (h : t.check = .ok ()) :
    ∀ c ∈ t.conditions.getD [], IsConditionKey c.1 := by
  rw [check, Error.raise_collect_eq_ok_iff] at h
  intro c hc
  have hkey : t.checkCondition c.1 = .ok () :=
    h _ (List.mem_append_left _ (List.mem_append_right _ (List.mem_map.mpr ⟨c, hc, rfl⟩)))
  rw [checkCondition] at hkey
  split at hkey
  · rename_i hone
    simpa [IsConditionKey] using hone
  · cases hkey

namespace Render

/-- The clause that a list of expressions is to give: all of them, joined by the operator of the
list's key. -/
inductive Yields : String × List String → String → Prop
  | all {expressions : List String} : Yields ("all", expressions) (" && ".intercalate expressions)
  | any {expressions : List String} : Yields ("any", expressions) (" || ".intercalate expressions)

/-- The lists with expressions in them. -/
def filled (cs : Conditions) : Conditions := cs.filter fun c => !c.2.isEmpty

/-- The clause that is shown for a list, if one is. -/
def clause? (c : String × List String) : Option String :=
  if c.2.isEmpty then none
  else if c.1 = "all" then some (" && ".intercalate c.2)
  else if c.1 = "any" then some (" || ".intercalate c.2)
  else none

/-- The line of a clause. -/
def expressionLine (clause : String) : String := line 8 ("expression \x7b " ++ clause ++ " \x7d")

/-- The block of some clauses. -/
def whenBlock (clauses : List String) : String :=
  braces true 4 "when" (line 8 "beforeAgent true" ++ String.join (clauses.map expressionLine))

/-- The script of a stage with `block` in the place of its conditions. -/
def stageWith (s : Stage) (clause environment block options body : String) : String :=
  braces true 0 ("stage(\"" ++ Script.escape s.name ++ "\")")
    (clauseLine clause ++ environment ++ block ++ options ++ body)

/-- The block says what the conditions say: there is just one clause for each list with expressions,
in order, and no block without a clause. -/
def Says (cs : Conditions) (block : String) : Prop :=
  ∃ clauses, List.Forall₂ Yields (filled cs) clauses ∧
    block = if clauses = [] then "" else whenBlock clauses

section Conditions

variable {cs : Conditions}

theorem conditionLine_eq (c : String × List String) :
    conditionLine c.1 c.2 = ((clause? c).map expressionLine).getD "" := by
  rw [conditionLine, clause?]
  split
  · rfl
  · split
    · rfl
    · split <;> rfl

theorem join_conditionLine (cs : Conditions) :
    String.join (cs.map fun c => conditionLine c.1 c.2) =
      String.join ((cs.filterMap clause?).map expressionLine) := by
  induction cs with
  | nil => rfl
  | cons c cs ih =>
    rw [List.map_cons, String.join_cons, conditionLine_eq, ih]
    cases hc : clause? c with
    | none => simp [List.filterMap_cons_none hc]
    | some clause => simp [List.filterMap_cons_some hc]

/-- There is a block just if there are any conditions, with the clauses of those that show one. -/
theorem conditions_eq (cs : Conditions) :
    conditions cs = if cs = [] then "" else whenBlock (cs.filterMap clause?) := by
  cases cs with
  | nil => rfl
  | cons c cs =>
    rw [conditions, join_conditionLine, if_neg (List.cons_ne_nil c cs)]
    rfl

theorem whenBlock_ne_empty (clauses : List String) : whenBlock clauses ≠ "" := by
  intro h
  simpa [whenBlock, braces, line] using congrArg String.toList h

theorem Yields.isConditionKey {c : String × List String} {clause : String}
    (h : Yields c clause) : IsConditionKey c.1 := by
  cases h with
  | all => exact .inl rfl
  | any => exact .inr rfl

theorem forall_isConditionKey {clauses : List String} (h : List.Forall₂ Yields cs clauses) :
    ∀ c ∈ cs, IsConditionKey c.1 := by
  induction h with
  | nil => simp
  | cons hc _ ih => exact List.forall_mem_cons.mpr ⟨hc.isConditionKey, ih⟩

theorem exists_yields {c : String × List String} (hkey : IsConditionKey c.1)
    (hne : c.2.isEmpty = false) : ∃ clause, clause? c = some clause ∧ Yields c clause := by
  obtain ⟨key, expressions⟩ := c
  obtain rfl | rfl := hkey
  · exact ⟨_, by simp [clause?, hne], .all⟩
  · exact ⟨_, by simp [clause?, hne], .any⟩

theorem forall₂_yields (h : ∀ c ∈ filled cs, IsConditionKey c.1) :
    List.Forall₂ Yields (filled cs) (cs.filterMap clause?) := by
  induction cs with
  | nil => exact .nil
  | cons c cs ih =>
    cases he : c.2.isEmpty with
    | true =>
      have hnone : clause? c = none := by simp [clause?, he]
      rw [filled, List.filter_cons_of_neg (by simp [he]), ← filled] at h ⊢
      rw [List.filterMap_cons_none hnone]
      exact ih h
    | false =>
      rw [filled, List.filter_cons_of_pos (by simp [he]), ← filled] at h ⊢
      obtain ⟨hkey, h⟩ := List.forall_mem_cons.mp h
      obtain ⟨clause, hclause, hyields⟩ := exists_yields hkey he
      rw [List.filterMap_cons_some hclause]
      exact .cons hyields (ih h)

/-- A block tells all conditions unless it was opened for empty lists alone or leaves out a list under
another key. -/
theorem says_conditions_iff (cs : Conditions) :
    Says cs (conditions cs) ↔
      cs = [] ∨ filled cs ≠ [] ∧ ∀ c ∈ filled cs, IsConditionKey c.1 := by
  constructor
  · rintro ⟨clauses, hclauses, hblock⟩
    by_cases hcs : cs = []
    · exact .inl hcs
    · -- the block was opened, so there is a clause in it and a list that gives it
      refine .inr ⟨fun hempty => ?_, forall_isConditionKey hclauses⟩
      rw [hempty, List.forall₂_nil_left_iff] at hclauses
      rw [conditions_eq, if_neg hcs, if_pos hclauses] at hblock
      exact whenBlock_ne_empty _ hblock
  · rintro (rfl | ⟨hfilled, hkeys⟩)
    · exact ⟨[], .nil, rfl⟩
    · have hyields := forall₂_yields hkeys
      have hclauses : cs.filterMap clause? ≠ [] := by
        intro hempty
        rw [hempty, List.forall₂_nil_right_iff] at hyields
        exact hfilled hyields
      have hcs : cs ≠ [] := by
        rintro rfl
        exact hfilled rfl
      exact ⟨_, hyields, by rw [conditions_eq, if_neg hcs, if_neg hclauses]⟩

theorem silent_of_filterMap_eq_nil (hcs : cs ≠ []) (h : cs.filterMap clause? = []) :
    conditions cs = whenBlock [] ∧ ¬ Says cs (whenBlock []) := by
  have hblock : conditions cs = whenBlock [] := by rw [conditions_eq, if_neg hcs, h]
  refine ⟨hblock, fun hsays => ?_⟩
  rw [← hblock, says_conditions_iff] at hsays
  obtain ⟨hfilled, hkeys⟩ := hsays.resolve_left hcs
  have hyields := forall₂_yields hkeys
  rw [h, List.forall₂_nil_right_iff] at hyields
  exact hfilled hyields

end Conditions

end Render

namespace Supply

open Compile Render
open Pattern (CharacterNames)

/-- Every stage of a compiled pipeline, also one inside another, is rendered with a block just if its
map of conditions is not empty.  The block says what the conditions say unless all lists are empty or
one with expressions is left out for its key, and the latter happens to no stage that runs steps.
There is a script at all if everything that is put into it has a text. -/
theorem stage_conditions_of_compile [CharacterNames] {p : PipelineTemplate}
    {templates : Table TaskTemplate} {values : Table Value} {source : Option SourceControl}
    {pipeline : Pipeline} (h : p.compile templates values source = .ok pipeline) {depth : Nat}
    {s : Stage} (hn : Nested depth s pipeline.stages) :
    let cs := s.conditions.getD []
    ((∃ text, stage pipeline.agent s = .ok text) ↔
      ∀ depth c, Nested depth c [s] → c.Writable pipeline.agent) ∧
    (∀ text, stage pipeline.agent s = .ok text →
      ∃ inner clause environment block options body,
        StageParts pipeline.agent s inner clause environment options body ∧
        text = stageWith s clause environment block options body ∧
        block = (if cs = [] then "" else whenBlock (cs.filterMap clause?)) ∧
        (Says cs block ↔ cs = [] ∨ filled cs ≠ [] ∧ ∀ c ∈ filled cs, IsConditionKey c.1)) ∧
    (s.stages = [] → ∀ c ∈ cs, IsConditionKey c.1) := by
  intro cs
  obtain ⟨hcheck, hphases, rfl⟩ := of_compile_eq_ok h
  refine ⟨?_, fun text htext => ?_, fun hleaf => ?_⟩
  · refine (tells_stage (checkAgent_orElse_defaultAgent hcheck) fun _ c hc => ?_).exists_iff
    cases hc with
    | here hc => exact renderable_pipelineOf hcheck hphases (List.mem_singleton.mp hc ▸ hn)
    | inside hcontainer hc =>
      obtain ⟨_, hc⟩ := hn.inner (List.mem_singleton.mp hcontainer ▸ hc)
      exact renderable_pipelineOf hcheck hphases hc
  · obtain ⟨inner, clause, environment, options, body, hparts, rfl⟩ := stage_eq_ok htext
    exact ⟨inner, clause, environment, conditions cs, options, body, hparts, rfl,
      conditions_eq cs, says_conditions_iff cs⟩
  · obtain ⟨t, hshown, rfl⟩ | ⟨-, -, hne, -⟩ := of_nested_pipelineOf hphases hn
    · exact Task.conditionKeys_of_check (check_of_mem_shownTasks hcheck hshown)
    · exact absurd hleaf hne

/-- A task with conditions, beside one without in a stage with conditions. -/
def guardedPipeline : PipelineTemplate :=
  { helloPipeline with
    stages := [⟨"test", some [("any", ["params.CI", "params.FULL"]), ("all", [])],
      [{ helloTask "unit" true with conditions := some [("all", ["params.UNIT", "!params.DRY"])] },
        helloTask "lint" true]⟩] }

def guardedStages : List Stage :=
  [.parallel "test" (some [("any", ["params.CI", "params.FULL"]), ("all", [])])
    [{ Stage.leaf "unit" "echo hello" with
        conditions := some [("all", ["params.UNIT", "!params.DRY"])] },
      .leaf "lint" "echo hello"]]

section Unnamed

attribute [local instance] CharacterNames.unnamed

theorem compile_guardedPipeline :
    guardedPipeline.compile helloTemplates [] none =
      .ok ⟨defaultAgent, [], none, guardedStages, [⟨"always", "echo hello"⟩]⟩ := by cbv

/-- One clause is shown for the stage around the tasks, and one for that of the first task. -/
theorem stage_conditions_of_compile_guarded :
    ∃ pipeline, guardedPipeline.compile helloTemplates [] none = .ok pipeline ∧
      (∃ s clause environment options body, Nested 0 s pipeline.stages ∧ s.name = "test" ∧
        stage pipeline.agent s = .ok (stageWith s clause environment
          (whenBlock ["params.CI || params.FULL"]) options body)) ∧
      ∃ s clause environment options body, Nested 1 s pipeline.stages ∧ s.name = "unit" ∧
        stage pipeline.agent s = .ok (stageWith s clause environment
          (whenBlock ["params.UNIT && !params.DRY"]) options body) := by
  have htest : Nested 0 _ guardedStages := .here List.mem_cons_self
  have hunit : Nested 1 _ guardedStages :=
    .inside List.mem_cons_self (.here List.mem_cons_self)
  obtain ⟨texts, htexts⟩ : ∃ texts, allStages defaultAgent guardedStages = .ok texts := ⟨_, rfl⟩
  refine ⟨_, compile_guardedPipeline, ?_, ?_⟩
  · obtain ⟨text, htext⟩ := exists_text_of_nested htest htexts
    obtain ⟨_, clause, environment, _, options, body, -, rfl, rfl, -⟩ :=
      (stage_conditions_of_compile compile_guardedPipeline htest).2.1 text htext
    exact ⟨_, clause, environment, options, body, htest, rfl, htext⟩
  · obtain ⟨text, htext⟩ := exists_text_of_nested hunit htexts
    obtain ⟨_, clause, environment, _, options, body, -, rfl, rfl, -⟩ :=
      (stage_conditions_of_compile compile_guardedPipeline hunit).2.1 text htext
    exact ⟨_, clause, environment, options, body, hunit, rfl, htext⟩

end Unnamed

/-- A task with an empty list of conditions, and a stage with a list under a key that is none. -/
def silentPipeline : PipelineTemplate :=
  { helloPipeline with
    stages := [⟨"build", none, [{ helloTask "build" true with conditions := some [("all", [])] }]⟩,
      ⟨"test", some [("not", ["params.DRY"])], [helloTask "unit" true, helloTask "lint" true]⟩] }

def silentStages : List Stage :=
  [{ Stage.leaf "build" "echo hello" with conditions := some [("all", [])] },
    .parallel "test" (some [("not", ["params.DRY"])])
      [.leaf "unit" "echo hello", .leaf "lint" "echo hello"]]

section Unnamed

attribute [local instance] CharacterNames.unnamed

/-- Both stages are rendered with a block that has no clause in it. -/
theorem compile_silentPipeline :
    ∃ pipeline, silentPipeline.compile helloTemplates [] none = .ok pipeline ∧
      pipeline.stages = silentStages ∧
      whenBlock [] = "    when{
        beforeAgent true
    }
" ∧
      ∀ s ∈ silentStages,
        (∃ clause environment options body, stage pipeline.agent s =
          .ok (stageWith s clause environment (whenBlock []) options body)) ∧
        ¬ Says (s.conditions.getD []) (whenBlock []) := by
  refine ⟨⟨defaultAgent, [], none, silentStages, [⟨"always", "echo hello"⟩]⟩, by cbv, rfl,
    by decide, ?_⟩
  obtain ⟨texts, htexts⟩ : ∃ texts, allStages defaultAgent silentStages = .ok texts := ⟨_, rfl⟩
  intro s hs
  have hsilent : s.conditions.getD [] ≠ [] ∧ (s.conditions.getD []).filterMap clause? = [] := by
    obtain rfl | hs := List.mem_cons.mp hs
    · exact ⟨List.cons_ne_nil _ _, rfl⟩
    · rw [List.mem_singleton.mp hs]
      exact ⟨List.cons_ne_nil _ _, rfl⟩
  obtain ⟨hblock, hnot⟩ := silent_of_filterMap_eq_nil hsilent.1 hsilent.2
  obtain ⟨text, -, hstage⟩ := exists_text_of_mem htexts hs
  obtain ⟨-, clause, environment, options, body, -, rfl⟩ := stage_eq_ok hstage
  rw [stageText, hblock] at hstage
  exact ⟨⟨clause, environment, options, body, hstage⟩, hnot⟩

end Unnamed

end Supply

end Jenkinsfile
