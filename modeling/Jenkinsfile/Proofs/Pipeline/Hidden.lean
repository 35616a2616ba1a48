import Jenkinsfile.Proofs.Pipeline.Skeleton
import Jenkinsfile.Proofs.Relation.Tested
import Mathlib.Data.List.Basic
import Mathlib.Data.List.Nodup

/-! Arguments that are hidden.  What is compiled depends on the values of shown arguments, on the
values that relations test and on the context of the run; `compile_eq_of_hidden` says that the value
of a hidden argument changes neither the pipeline nor the errors. -/

namespace Jenkinsfile

/-- The names of the values that relations of the template test. -/
def PipelineTemplate.testedNames (p : PipelineTemplate) : List String :=
  p.arguments.flatMap (fun a => Relation.testedNames a.relation) ++
    p.allTasks.flatMap fun t => Relation.testedNames t.relation

namespace Supply

open Compile

open Pattern (CharacterNames)

/-! ### What a compiled pipeline depends on -/

/-- What compiling a template reads of the values is the same. -/
structure SameReading (p : PipelineTemplate) (merged merged' : Table Value) : Prop where
  arguments : ∀ a ∈ suppliedArguments p, a.visible merged = a.visible merged'
  tasks : ∀ t ∈ p.allTasks, t.visible merged = t.visible merged'
  values : ∀ a ∈ suppliedArguments p, isShown a.relation merged = true →
    merged.get? a.name = merged'.get? a.name
  context : merged.get? systemKey = merged'.get? systemKey

namespace SameReading

variable {p : PipelineTemplate} {merged merged' : Table Value}

theorem shownArguments (h : SameReading p merged merged') :
    (suppliedArguments p).filter (fun a => isShown a.relation merged) =
      (suppliedArguments p).filter (fun a => isShown a.relation merged') :=
  List.filter_congr fun a ha => by
    rw [isShown, isShown, ← Argument.visible, ← Argument.visible, h.arguments a ha]

theorem get?_of_shown (h : SameReading p merged merged') {a : Argument}
    (ha : a ∈ (suppliedArguments p).filter fun a => isShown a.relation merged) :
    merged.get? a.name = merged'.get? a.name := by
  obtain ⟨hmem, hs⟩ := List.mem_filter.mp ha
  exact h.values a hmem hs

theorem shownChecks_eq [CharacterNames] (h : SameReading p merged merged') :
    Argument.shownChecks (suppliedArguments p) merged =
      Argument.shownChecks (suppliedArguments p) merged' := by
  refine List.map_congr_left fun a ha => ?_
  rw [Argument.shownCheck, Argument.shownCheck, ← h.arguments a ha]
  cases hs : a.visible merged with
  | error f => rfl
  | ok shown =>
    cases shown with
    | false => rfl
    | true => rw [h.values a ha (Relation.isShown_of_visible? hs)]

theorem leads_eq (h : SameReading p merged merged') :
    leads (suppliedArguments p) merged = leads (suppliedArguments p) merged' := by
  rw [leads, leads, ← h.shownArguments]
  exact List.flatMap_congr fun a ha => by rw [Argument.leads, Argument.leads, h.get?_of_shown ha]

theorem taskBinding_eq (h : SameReading p merged merged') (task : String) :
    taskBinding (suppliedArguments p) merged task =
      taskBinding (suppliedArguments p) merged' task := by
  rw [taskBinding, taskBinding, withContext, withContext, h.leads_eq, h.context]

theorem taskScript_eq [CharacterNames] (h : SameReading p merged merged')
    (templates : Table TaskTemplate)
    (t : Task) : taskScript p templates merged t = taskScript p templates merged' t := by
  rw [taskScript, taskScript, taskArguments, taskArguments, h.taskBinding_eq]

theorem taskCheck_eq (h : SameReading p merged merged') :
    p.allTasks.map (taskCheck p merged) = p.allTasks.map (taskCheck p merged') :=
  List.map_congr_left fun t ht => by
    rw [taskCheck, taskCheck, h.taskBinding_eq, h.tasks t ht]

theorem shownTasks_eq (h : SameReading p merged merged') {tasks : List Task}
    (hsub : ∀ t ∈ tasks, t ∈ p.allTasks) : shownTasks merged tasks = shownTasks merged' tasks :=
  List.filter_congr fun t ht => by
    rw [isShown, isShown, ← Task.visible, ← Task.visible, h.tasks t (hsub t ht)]

theorem phases_eq [CharacterNames] (h : SameReading p merged merged')
    (templates : Table TaskTemplate) :
    phases p templates merged = phases p templates merged' := by
  have hscripts : scriptChecks p templates merged = scriptChecks p templates merged' := by
    rw [scriptChecks, scriptChecks,
      h.shownTasks_eq fun t ht => List.mem_append_left _ ht]
    exact List.map_congr_left fun t _ => by rw [scriptCheck, scriptCheck, h.taskScript_eq]
  rw [phases, phases, h.shownChecks_eq, hscripts, h.taskCheck_eq]

theorem pipelineOf_eq [CharacterNames] (h : SameReading p merged merged')
    (templates : Table TaskTemplate) :
    pipelineOf p templates merged = pipelineOf p templates merged' := by
  have hstages : ∀ s ∈ p.stages, taskStages p templates merged s.tasks =
      taskStages p templates merged' s.tasks := by
    intro s hs
    have hsub : ∀ t ∈ s.tasks, t ∈ p.allTasks := fun t ht =>
      List.mem_append_left _ (List.mem_flatMap.mpr ⟨s, hs, ht⟩)
    have hstage (t : Task) : taskStage p templates merged t = taskStage p templates merged' t := by
      rw [taskStage, taskStage, taskFields, taskFields, h.taskBinding_eq, h.taskScript_eq]
    rw [taskStages, taskStages, h.shownTasks_eq hsub, funext hstage]
    simp only [h.taskScript_eq templates]
  have hpost : postActions p templates merged = postActions p templates merged' := by
    have htext (t : Task) : scriptText p templates merged t = scriptText p templates merged' t := by
      rw [scriptText, scriptText, h.taskScript_eq]
    rw [postActions, postActions, funext htext]
  rw [pipelineOf, pipelineOf, hpost]
  congr 1
  exact List.flatMap_congr fun s hs => by rw [hstages s hs]

end SameReading

/-! ### Hidden arguments -/

section Hidden

variable {p : PipelineTemplate} {a : Argument} {values values' : Table Value}
  {source : Option SourceControl}

/-- Only the one key can be told apart in the merged values, and not even that if it is replaced by
the source control context. -/
theorem get?_mergedValues_congr {name key : String} (h : values.SameBut name values')
    (hkey : key = name → p.withSource = true ∧ key = sourceArgument) :
    (mergedValues p values source).get? key = (mergedValues p values' source).get? key := by
  rw [get?_mergedValues, get?_mergedValues]
  split
  · rfl
  · rename_i hsource
    rw [h key fun hname => hsource (hkey hname)]

/-- An argument that is shown is not the hidden one; it has that one's name only if it carries the
source control context. -/
theorem source_of_name_eq (hcheck : p.check = .ok ()) (ha : a ∈ p.arguments)
    (hhidden : isShown a.relation (mergedValues p values source) = false) {b : Argument}
    (hb : b ∈ suppliedArguments p)
    (hshown : isShown b.relation (mergedValues p values source) = true)
    (hname : b.name = a.name) : p.withSource = true ∧ b.name = sourceArgument := by
  -- Declared names are distinct, so a declared argument of this name is the hidden one.
  have hdeclared : b ∉ p.arguments := by
    intro hb
    rw [List.inj_on_of_nodup_map (p.names_of_check hcheck) hb ha hname, hhidden] at hshown
    cases hshown
  obtain ⟨hsource, rfl⟩ := (mem_suppliedArguments hb).resolve_left hdeclared
  exact ⟨hsource, rfl⟩

theorem sameReading_of_hidden (hcheck : p.check = .ok ()) (ha : a ∈ p.arguments)
    (hcontext : a.name ≠ systemKey) (htested : a.name ∉ p.testedNames)
    (hhidden : isShown a.relation (mergedValues p values source) = false)
    (hsame : values.SameBut a.name values') :
    SameReading p (mergedValues p values source) (mergedValues p values' source) := by
  have hother {key : String} (hkey : key ≠ a.name) :
      (mergedValues p values source).get? key = (mergedValues p values' source).get? key :=
    get?_mergedValues_congr hsame fun h => absurd h hkey
  simp only [PipelineTemplate.testedNames, List.mem_append, List.mem_flatMap, not_or, not_exists,
    not_and] at htested
  have hargument : ∀ b ∈ suppliedArguments p, a.name ∉ Relation.testedNames b.relation := by
    intro b hb
    rcases mem_suppliedArguments hb with hb | ⟨-, rfl⟩
    · exact htested.1 b hb
    · simp [sourceDeclaration, Relation.testedNames]
  refine ⟨fun b hb => ?_, fun t ht => ?_, fun b hb hshown => ?_, hother hcontext.symm⟩
  · exact Relation.visible?_congr fun name hn => hother fun h => hargument b hb (h ▸ hn)
  · exact Relation.visible?_congr fun name hn => hother fun h => htested.2 t ht (h ▸ hn)
  · exact get?_mergedValues_congr hsame (source_of_name_eq hcheck ha hhidden hb hshown)

/-- The value of an argument that is hidden, and that no relation tests, decides nothing: compiling
gives the same with any other value of it, or with none. -/
theorem compile_eq_of_hidden [CharacterNames] (ha : a ∈ p.arguments) (hcontext : a.name ≠ systemKey)
    (htested : a.name ∉ p.testedNames) (hsame : values.SameBut a.name values')
    (hhidden : a.visible (mergedValues p values source) = .ok false)
    (templates : Table TaskTemplate) :
    p.compile templates values source = p.compile templates values' source := by
  cases hcheck : p.check with
  | error f =>
    rw [compile_eq_error hcheck, compile_eq_error hcheck]
  | ok =>
    have hshown : isShown a.relation (mergedValues p values source) = false := by
      rw [isShown, ← Argument.visible, hhidden]
      rfl
    have hreading := sameReading_of_hidden hcheck ha hcontext htested hshown hsame
    rw [compile_eq hcheck, compile_eq hcheck, hreading.phases_eq, hreading.pipelineOf_eq]

end Hidden

/-- An argument that is asked for if the pipeline deploys, and led to its first task. -/
def tokenArgument : Argument :=
  ⟨"token", ["build.args.token"], some ⟨"string", none⟩, true, .null, none,
    some ⟨"string", ⟨"令牌", "token"⟩, [], none⟩,
    some ⟨[⟨"show", some ⟨"deploy", .bool true, none, none⟩⟩]⟩⟩

/-- A pipeline with that argument. -/
def tokenPipeline : PipelineTemplate :=
  { helloPipeline with sections := [⟨⟨"部署", "deploy"⟩, [tokenArgument]⟩] }

/-- The token passes its check under any relation that does. -/
theorem tokenArgument_check {r : Relation} (h : r.check = .ok ()) :
    ({ tokenArgument with relation := some r }).check Registry.standard = .ok () := by
  have hpath : Argument.checkBinding "token" "build.args.token" = .ok () := by cbv
  have hparts : ({ tokenArgument with relation := some r }).checkParts Registry.standard =
      .ok .string := by cbv
  refine Argument.check_of_parts hparts ?_ ?_ rfl
  · simpa [tokenArgument] using hpath
  · simpa using h

theorem tokenPipeline_check : tokenPipeline.check = .ok () :=
  PipelineTemplate.check_of_argument rfl rfl (tokenArgument_check rfl)

section Unnamed

attribute [local instance] CharacterNames.unnamed

/-- A token that is no text does no harm where nothing is deployed. -/
theorem compile_eq_of_hidden_token :
    tokenPipeline.check = .ok () ∧
      tokenArgument.visible
        (mergedValues tokenPipeline [("deploy", .bool false), ("token", .int 3)] none) = .ok false ∧
      tokenPipeline.compile helloTemplates [("deploy", .bool false), ("token", .int 3)] none =
        tokenPipeline.compile helloTemplates [("deploy", .bool false)] none := by
  refine ⟨tokenPipeline_check, rfl, ?_⟩
  refine compile_eq_of_hidden (a := tokenArgument) ?_ (by decide) (by decide) ?_ rfl helloTemplates
  · exact List.mem_singleton_self _
  · intro other hother
    have hname : "token" ≠ other := Ne.symm hother
    simp [Table.ofEntries, Table.overlay, Table.insert, Table.get?, hname]

end Unnamed

end Supply

end Jenkinsfile
