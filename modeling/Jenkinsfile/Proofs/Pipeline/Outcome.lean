import Jenkinsfile.Proofs.Pipeline.Rendered

/-! The outcome of compiling a pipeline, phase by phase.  `phases` tells the errors of every phase
after the check of the template, and `compile_outcome` that the first phase with errors ends the
work with all of its errors and nothing else. -/

namespace Jenkinsfile

open Pattern (CharacterNames)

/-! ### Values of arguments -/

namespace Argument

/-- The check of an argument's value, if the argument is shown. -/
def shownCheck [CharacterNames] (reg : Registry) (values : Table Value) (a : Argument) :
    Except Failure Unit := do
  if ← a.visible values then a.checkValue reg ((values.get? a.name).getD .null)

/-- The checks of the values of the arguments that are shown, in order. -/
def shownChecks [CharacterNames] (args : List Argument) (values : Table Value) :
    List (Except Failure Unit) := args.map (shownCheck Registry.standard values)

variable [CharacterNames] {a : Argument} {args : List Argument} {values : Table Value}

/-- A hidden argument passes, whatever its value is. -/
theorem Sound.shownCheck_cases (h : a.Sound) (reg : Registry) (values : Table Value) :
    (a.shownCheck reg values = (if isShown a.relation values then
        a.checkValue reg ((values.get? a.name).getD .null) else .ok ()) ∧
      Relation.Legible a.relation values) ∨
    (isShown a.relation values = false ∧ a.shownCheck reg values = .error Failure.longNumber) := by
  obtain ⟨hshown, hlegible⟩ | ⟨hstop, -⟩ := h.settled values
  · refine .inl ⟨?_, hlegible⟩
    rw [shownCheck, visible, hshown]
    cases isShown a.relation values <;> rfl
  · refine .inr ⟨by rw [isShown, hstop]; rfl, ?_⟩
    rw [shownCheck, visible, hstop]
    rfl

theorem Sound.legible (h : a.Sound) {reg : Registry} (hc : a.shownCheck reg values = .ok ()) :
    Relation.Legible a.relation values := by
  obtain ⟨-, hlegible⟩ | ⟨-, hstop⟩ := h.shownCheck_cases reg values
  · exact hlegible
  · rw [hstop] at hc
    cases hc

theorem valueErrors_eq (h : ∀ a ∈ args, a.Sound) (values : Table Value) :
    valueErrors Registry.standard values args =
      Failure.ofFault (Failure.collect (shownChecks args values)) := by
  induction args with
  | nil => rfl
  | cons a args ih =>
    have ih := ih fun b hb => h b (List.mem_cons_of_mem _ hb)
    rw [shownChecks, List.map_cons, shownCheck, valueErrors, ih, visible]
    obtain ⟨hshown, -⟩ | ⟨hstop, -⟩ := (h a List.mem_cons_self).settled values
    · rw [hshown]
      cases isShown a.relation values with
      | false => rfl
      | true =>
        simp only [bind, Except.bind, if_true]
        obtain (e | f) | _ := a.checkValue Registry.standard ((values.get? a.name).getD .null)
        · simp only [Failure.collect, shownChecks]
          cases Failure.collect _ <;> rfl
        · rfl
        · rfl
    · rw [hstop]
      rfl

end Argument

namespace Supply

open Compile

section Phases

variable [CharacterNames] (p : PipelineTemplate) (templates : Table TaskTemplate)
  (merged : Table Value)

/-- The task types without a template, each once, in order of first use. -/
def missingTypes : List String :=
  (p.allTasks.map Task.type).eraseDups.filter fun type => !templates.has type

/-- The checks of the scripts of the tasks that are rendered: those of stages that are shown, and
all that come after the pipeline. -/
def scriptChecks : List (Except Failure Unit) :=
  (shownTasks merged p.stageTasks ++ p.postTasks).map (scriptCheck p templates merged)

/-- The errors of the phases after the check of the template.  A phase that ends in a fault has
none. -/
def phases : List (Except Fault (List Error)) :=
  [Failure.collect (Argument.shownChecks (suppliedArguments p) merged),
    .ok ((missingTypes p templates).map fun type =>
      .value ("require definition of task template named:" ++ type)),
    Failure.collect (p.allTasks.map (taskCheck p merged)),
    Failure.collect (scriptChecks p templates merged)]

/-- The first of the phases that has a fault or errors ends the work, with all of its errors. -/
def runPhases : List (Except Fault (List Error)) → Except Failure Unit
  | [] => .ok ()
  | .error f :: _ => .error (.fault f)
  | .ok [] :: phases => runPhases phases
  | .ok (e :: errors) :: _ => .error (.error (.group (e :: errors) []))

/-- The pipeline of a template if no phase has errors. -/
def pipelineOf : Pipeline :=
  ⟨p.agent.orElse defaultAgent, p.environments, p.options,
    p.stages.flatMap fun s => stageOf s (taskStages p templates merged s.tasks),
    postActions p templates merged⟩

end Phases

theorem runPhases_eq_ok_iff {phases : List (Except Fault (List Error))} :
    runPhases phases = .ok () ↔ ∀ r ∈ phases, r = .ok [] := by
  induction phases with
  | nil => simp [runPhases]
  | cons r phases ih =>
    match r with
    | .error f => simp [runPhases]
    | .ok [] => simp [runPhases, ih]
    | .ok (e :: errors) => simp [runPhases]

/-! ### The single phases -/

section Single

variable {p : PipelineTemplate} {templates : Table TaskTemplate} {merged : Table Value}

theorem distinctFrom_eq (seen types : List String) :
    PipelineTemplate.distinctFrom seen types =
      (types.filter fun type => !seen.contains type).eraseDups := by
  induction types generalizing seen with
  | nil => rfl
  | cons type types ih =>
    rw [PipelineTemplate.distinctFrom]
    cases hs : seen.contains type with
    | true => rw [if_pos rfl, ih, List.filter_cons_of_neg (by rw [hs]; simp)]
    | false =>
      rw [if_neg (by simp), ih, List.filter_cons_of_pos (by rw [hs]; rfl), List.eraseDups_cons,
        List.filter_filter]
      congr 2
      refine List.filter_congr fun other _ => ?_
      rw [List.contains_cons, Bool.not_or]

theorem missingTemplates_eq (p : PipelineTemplate) (templates : Table TaskTemplate) :
    missingTemplates templates p = (missingTypes p templates).map fun type =>
      .value ("require definition of task template named:" ++ type) := by
  have h : p.taskTypes = (p.allTasks.map Task.type).eraseDups := by
    rw [PipelineTemplate.taskTypes, distinctFrom_eq, List.filter_eq_self.mpr (by simp)]
  rw [missingTemplates, missingTypes, h]

theorem exists_template (h : missingTypes p templates = []) :
    ∀ t ∈ p.allTasks, ∃ template, templates.get? t.type = some template := by
  intro t ht
  rw [missingTypes, List.filter_eq_nil_iff] at h
  have hmem : t.type ∈ (p.allTasks.map Task.type).eraseDups :=
    List.mem_eraseDups.mpr (List.mem_map_of_mem ht)
  have := h t.type hmem
  rw [Bool.not_eq_true', Bool.not_eq_false, Table.has] at this
  exact Option.isSome_iff_exists.mp this

end Single

/-! ### All phases -/

theorem compile_eq_error [CharacterNames] {p : PipelineTemplate} {f : Failure}
    (h : p.check = .error f)
    (templates : Table TaskTemplate) (values : Table Value) (source : Option SourceControl) :
    p.compile templates values source = .error f := by
  rw [PipelineTemplate.compile, h]
  rfl

section Compiled

variable [CharacterNames] {p : PipelineTemplate} {templates : Table TaskTemplate}
  {merged : Table Value}

/-- Once the values have passed and no template is missing, every task is given its values. -/
theorem exists_ready (hp : p.Accepted)
    (hv : Failure.collect (Argument.shownChecks (suppliedArguments p) merged) = .ok [])
    (hm : missingTypes p templates = []) :
    ∃ bindings,
      Binding.resolve (suppliedArguments p) merged (p.allTasks.map Task.name) = .ok bindings ∧
      ∀ t ∈ p.allTasks,
        Ready p templates (attachedTemplates templates p.allTasks) bindings merged t := by
  have hlegible : ∀ a ∈ suppliedArguments p, Relation.Legible a.relation merged := fun a ha =>
    (hp.arguments a ha).legible (Failure.collect_eq_nil_iff.mp hv _ (List.mem_map_of_mem ha))
  obtain ⟨bindings, hbindings, hbound⟩ :=
    resolve_spec hp.arguments hlegible (p.allTasks.map Task.name)
  refine ⟨bindings, hbindings, fun t ht => ?_⟩
  obtain ⟨template, htemplate⟩ := exists_template hm t ht
  refine ⟨⟨template, ?_, htemplate⟩, hbound t.name (List.mem_map_of_mem ht)⟩
  rw [get?_attachedTemplates hp.names t ht, htemplate]

/-- The scripts of stages and those that come after the pipeline are one phase. -/
theorem renderAll_eq {resolved : Table ResolvedTask}
    (h : AllResolved p templates merged resolved p.allTasks) :
    (do
      let stages ← Failure.ofFault (renderStages resolved p.stages)
      let post ← Failure.ofFault (renderPost resolved p)
      Failure.ofError (Error.raise (stages.errors ++ post.errors))
      pure (Pipeline.mk (p.agent.orElse defaultAgent) p.environments p.options stages.result
        post.result)) =
      (runPhases [Failure.collect (scriptChecks p templates merged)]).map fun _ =>
        pipelineOf p templates merged := by
  rw [renderStages_eq (h.subset fun t ht => List.mem_append_left _ ht),
    renderPost_eq (h.subset fun t ht => List.mem_append_right _ ht), scriptChecks, List.map_append,
    Failure.collect_append, PipelineTemplate.stageTasks]
  cases Failure.collect ((shownTasks merged (p.stages.flatMap StageTemplate.tasks)).map
      (scriptCheck p templates merged)) with
  | error f => rfl
  | ok errors =>
    cases Failure.collect (p.postTasks.map (scriptCheck p templates merged)) with
    | error f => rfl
    | ok others =>
      simp only [Except.map, Failure.ofFault, Failure.ofError, Error.raise, bind, Except.bind]
      cases errors ++ others <;> rfl

end Compiled

/-- A template that passes its check compiles to its pipeline if no phase has errors. -/
theorem compile_eq [CharacterNames] {p : PipelineTemplate} (h : p.check = .ok ())
    (templates : Table TaskTemplate) (values : Table Value) (source : Option SourceControl) :
    p.compile templates values source =
      (runPhases (phases p templates (mergedValues p values source))).map fun _ =>
        pipelineOf p templates (mergedValues p values source) := by
  have hp := p.accepted_of_check h
  rw [PipelineTemplate.compile, h]
  generalize mergedValues p values source = merged
  simp only [Argument.valueErrors_eq hp.arguments, missingTemplates_eq, phases]
  -- phase by phase: the later ones count only if this one has no errors
  cases hv : Failure.collect (Argument.shownChecks (suppliedArguments p) merged) with
  | error f => rfl
  | ok errors =>
    cases errors with
    | cons e errors => rfl
    | nil =>
      cases hm : missingTypes p templates with
      | cons type types => rfl
      | nil =>
        obtain ⟨bindings, hbindings, hready⟩ := exists_ready hp hv hm
        simp only [hbindings, Failure.ofError, Failure.ofFault, Error.raise, bind, Except.bind,
          List.map_nil, List.isEmpty_nil, if_true, resolutionErrors_eq hready]
        cases ht : Failure.collect (p.allTasks.map (taskCheck p merged)) with
        | error f => rfl
        | ok errors =>
          cases errors with
          | cons e errors => rfl
          | nil =>
            exact renderAll_eq (get?_resolvedTasks hp.names hready fun t hmem =>
              Failure.collect_eq_nil_iff.mp ht _ (List.mem_map_of_mem hmem))

/-- Compiling a pipeline checks the template and then goes through the phases; it gives a pipeline
just if the template passes its check and no phase has errors. -/
theorem compile_outcome [CharacterNames] (p : PipelineTemplate) (templates : Table TaskTemplate)
    (values : Table Value) (source : Option SourceControl) :
    (∀ f, p.check = .error f → ∃ e errors, f = .error (.group (e :: errors) [])) ∧
      (p.compile templates values source).map (fun _ => ()) =
        p.check.bind (fun _ => runPhases (phases p templates (mergedValues p values source))) ∧
      ((∃ pipeline, p.compile templates values source = .ok pipeline) ↔
        p.check = .ok () ∧ ∀ r ∈ phases p templates (mergedValues p values source), r = .ok []) := by
  refine ⟨fun f => p.check_eq_error, ?_, ?_⟩
  · cases h : p.check with
    | error f =>
      rw [PipelineTemplate.compile, h]
      rfl
    | ok =>
      rw [compile_eq h]
      cases runPhases _ <;> rfl
  · cases h : p.check with
    | error f =>
      rw [PipelineTemplate.compile, h]
      simp [bind, Except.bind]
    | ok =>
      rw [compile_eq h, ← runPhases_eq_ok_iff]
      cases runPhases (phases p templates (mergedValues p values source)) <;> simp [Except.map]

/-- A command under a pattern with a repetition that is too large. -/
def patternArgument : Argument :=
  ⟨"cmd", ["build.args.cmd"], some ⟨"string", none⟩, false, .null, some ⟨"a{99999999999}", 0⟩,
    some ⟨"string", ⟨"命令", "Command"⟩, [], none⟩, none⟩

/-- A pipeline of one task with that command. -/
def patternPipeline : PipelineTemplate :=
  ⟨"", false, .null, [⟨"build", none, [⟨"build", "shell", .null, none, none, none, [], none⟩]⟩],
    none, none, none, [⟨⟨"基本", "Basic"⟩, [patternArgument]⟩], []⟩

theorem patternPipeline_check : patternPipeline.check = .ok () := by
  have hpath : Argument.checkBinding "cmd" "build.args.cmd" = .ok () := by cbv
  have hargument : patternArgument.check Registry.standard = .ok () := by
    refine Argument.check_of_parts (k := .string) rfl ?_ (by simp [patternArgument]) rfl
    simpa [patternArgument] using hpath
  exact PipelineTemplate.check_of_argument rfl rfl hargument

section Unnamed

attribute [local instance] CharacterNames.unnamed

/-- The pattern is a fault once a text is held against it: compiling gives neither a pipeline nor
errors. -/
theorem compile_patternPipeline :
    patternPipeline.check = .ok () ∧
      patternPipeline.compile [("shell", ⟨"", .null, "echo hi", []⟩)] [("cmd", .str "a")] none =
        .error (.fault .tooManyRepeats) := by
  refine ⟨patternPipeline_check, ?_⟩
  have hvalue : patternArgument.checkValue Registry.standard (.str "a") =
      .error (.fault .tooManyRepeats) := by with_unfolding_all rfl
  have hchecks : Argument.shownChecks (suppliedArguments patternPipeline)
      (mergedValues patternPipeline [("cmd", .str "a")] none) =
        [patternArgument.checkValue Registry.standard (.str "a")] := rfl
  rw [compile_eq patternPipeline_check, phases, hchecks, hvalue]
  rfl

end Unnamed

end Supply

end Jenkinsfile
