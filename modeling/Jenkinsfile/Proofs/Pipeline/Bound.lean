import Jenkinsfile.Proofs.Pipeline.Composable

/-! What the bindings of a pipeline hold, place by place.  `resolve_exact` says that a place holds the
value of the last visible argument with a path to it, that there is nothing anywhere else, and that
the context of the run goes before all of them. -/

namespace Jenkinsfile

/-- The value at a place. -/
def TaskBinding.get? (b : TaskBinding) : Target → Option Value
  | .argument name => b.arguments.get? name
  | .field path => b.fields.get? path

namespace Argument

/-- The paths of an argument are well formed, and its relation decides on the values. -/
structure Resolvable (a : Argument) (values : Table Value) : Prop where
  paths : ∀ path ∈ a.bindings, checkBinding a.name path = .ok ()
  decides : ∃ shown, a.visible values = .ok shown

/-- A visible argument with a path to the place. -/
def Reaches (a : Argument) (values : Table Value) (task : String) (place : Target) : Prop :=
  a.visible values = .ok true ∧ ∃ path ∈ a.bindings, Leads path task place

/-- The last argument, in order of declaration, that reaches the place. -/
def LastToReach (a : Argument) (args : List Argument) (values : Table Value) (task : String)
    (place : Target) : Prop :=
  ∃ before after, args = before ++ a :: after ∧ a.Reaches values task place ∧
    ∀ b ∈ after, ¬ b.Reaches values task place

end Argument

namespace Binding

/-! ### The one place that a path leads to -/

section Path

variable {path task : String} {place : Target} {segment : List Char}

/-- What comes after the first segment and its dot. -/
def afterSegment (cs : List Char) : List Char := (cs.dropWhile (· != '.')).drop 1

theorem afterSegment_segment (h : '.' ∉ segment) (rest : List Char) :
    afterSegment (segment ++ '.' :: rest) = rest := by
  rw [afterSegment, List.dropWhile_append_of_pos (ne_dot_of_mem h)]
  simp

theorem task_of_leads (h : Leads path task place) :
    path.toList.takeWhile (· != '.') = task.toList := by
  obtain ⟨-, hdot, hplace⟩ := h
  cases place with
  | argument name =>
    obtain ⟨-, -, rfl | ⟨rest, rfl⟩⟩ := hplace
    · simpa [List.append_assoc] using takeWhile_segment hdot _
    · simpa [List.append_assoc] using takeWhile_segment hdot _
  | field field =>
    obtain ⟨-, rfl, -, -⟩ := hplace
    simpa [List.append_assoc] using takeWhile_segment hdot _

theorem takeWhile_ne_args {field : String} (hne : field ≠ "args")
    (hmore : ∀ rest, field ≠ "args." ++ rest) :
    field.toList.takeWhile (· != '.') ≠ "args".toList := by
  intro htake
  have hsplit := List.takeWhile_append_dropWhile (p := (· != '.')) (l := field.toList)
  rw [htake] at hsplit
  -- Such a field is the scope of arguments alone, or goes on with a dot after it.
  cases hdrop : field.toList.dropWhile (· != '.') with
  | nil =>
    rw [hdrop, List.append_nil, String.toList_inj] at hsplit
    exact hne hsplit.symm
  | cons c rest =>
    have hc := List.head?_dropWhile_not (· != '.') field.toList
    rw [hdrop] at hc
    obtain rfl : c = '.' := by simpa using hc
    apply hmore (.ofList rest)
    rw [← String.toList_inj, ← hsplit, hdrop]
    simp

/-- The place is read off what comes after the task. -/
theorem place_of_leads (h : Leads path task place) :
    place =
      let inner := afterSegment path.toList
      if inner.takeWhile (· != '.') = "args".toList then
        .argument (.ofList ((afterSegment inner).takeWhile (· != '.')))
      else .field (.ofList inner) := by
  obtain ⟨-, hdot, hplace⟩ := h
  have hargs : '.' ∉ "args".toList := by decide
  cases place with
  | argument name =>
    obtain ⟨-, hname, hpath⟩ := hplace
    obtain ⟨more, hmore, hpath⟩ : ∃ more : List Char, (name.toList ++ more).takeWhile (· != '.') =
        name.toList ∧ path.toList = task.toList ++ '.' :: ("args".toList ++ '.' ::
          (name.toList ++ more)) := by
      rcases hpath with rfl | ⟨rest, rfl⟩
      · refine ⟨[], ?_, by simp⟩
        rw [List.append_nil]
        exact List.takeWhile_eq_self_iff.mpr (ne_dot_of_mem hname)
      · exact ⟨'.' :: rest.toList, takeWhile_segment hname _, by simp⟩
    simp only [hpath, afterSegment_segment hdot, takeWhile_segment hargs, if_true,
      afterSegment_segment hargs, hmore, String.ofList_toList]
  | field field =>
    obtain ⟨-, rfl, hne, hmore⟩ := hplace
    have hinner : afterSegment (task ++ "." ++ field).toList = field.toList := by
      simpa [List.append_assoc] using afterSegment_segment hdot field.toList
    simp only [hinner, String.ofList_toList]
    rw [if_neg (takeWhile_ne_args hne hmore)]

theorem eq_of_leads {task' : String} {place' : Target} (h : Leads path task place)
    (h' : Leads path task' place') : task = task' ∧ place = place' := by
  constructor
  · rw [← String.toList_inj, ← task_of_leads h, task_of_leads h']
  · rw [place_of_leads h, ← place_of_leads h']

theorem target_eq_ok_iff {argument : String} (h : Argument.checkBinding argument path = .ok ()) :
    target argument path = .ok (task, place) ↔ Leads path task place := by
  obtain ⟨task', place', htarget, hleads⟩ := leads_of_checkBinding h
  rw [htarget, Except.ok.injEq, Prod.mk.injEq]
  constructor
  · rintro ⟨rfl, rfl⟩
    exact hleads
  · exact fun h => eq_of_leads hleads h

end Path

/-! ### Values put one over another -/

theorem get?_put (b : TaskBinding) (v : Value) (place other : Target) :
    (put b v place).get? other = if other = place then some v else b.get? other := by
  cases place with
  | argument name =>
    cases other with
    | argument name' => simp [put, TaskBinding.get?, Table.get?_insert]
    | field field' => simp [put, TaskBinding.get?]
  | field field =>
    cases other with
    | argument name' => simp [put, TaskBinding.get?]
    | field field' => simp [put, TaskBinding.get?, Table.get?_insert]

end Binding

namespace Supply

section Last

variable {args : List Argument} {values : Table Value} {ls before after : List Lead}
  {task : String} {place : Target} {v : Value}

theorem putAll_append (b : TaskBinding) (ls more : List Lead) :
    putAll b (ls ++ more) = putAll (putAll b ls) more := List.foldl_append ..

theorem get?_putAll_of_miss (h : ∀ l ∈ ls, l.place ≠ place) (b : TaskBinding) :
    (putAll b ls).get? place = b.get? place := by
  induction ls generalizing b with
  | nil => rfl
  | cons l ls ih =>
    rw [putAll, List.foldl_cons, ← putAll, ih fun k hk => h k (List.mem_cons_of_mem _ hk),
      Binding.get?_put, if_neg (Ne.symm (h l List.mem_cons_self))]

/-- Of leads that all bring one value it does not matter which one is the last to hit a place. -/
theorem get?_putAll_of_hit (hv : ∀ l ∈ ls, l.value = v) (hit : ∃ l ∈ ls, l.place = place)
    (b : TaskBinding) : (putAll b ls).get? place = some v := by
  induction ls generalizing b with
  | nil => simp at hit
  | cons l ls ih =>
    rw [putAll, List.foldl_cons, ← putAll]
    by_cases hlater : ∃ k ∈ ls, k.place = place
    · exact ih (fun k hk => hv k (List.mem_cons_of_mem _ hk)) hlater _
    · obtain ⟨k, hk, hplace⟩ := hit
      rcases List.mem_cons.mp hk with rfl | hk
      · rw [get?_putAll_of_miss fun j hj hplace => hlater ⟨j, hj, hplace⟩, Binding.get?_put,
          if_pos hplace.symm, hv k List.mem_cons_self]
      · exact absurd ⟨k, hk, hplace⟩ hlater

theorem boundTo_of_miss (h : ¬ ∃ l ∈ ls, l.task = task ∧ l.place = place) :
    (boundTo ls task).get? place = none := by
  rw [boundTo, get?_putAll_of_miss fun l hl hplace => ?_]
  · cases place <;> rfl
  · obtain ⟨hl, htask⟩ := List.mem_filter.mp hl
    exact h ⟨l, hl, by simpa using htask, hplace⟩

theorem boundTo_of_hit (hv : ∀ l ∈ ls, l.value = v)
    (hit : ∃ l ∈ ls, l.task = task ∧ l.place = place)
    (hafter : ¬ ∃ l ∈ after, l.task = task ∧ l.place = place) :
    (boundTo (before ++ ls ++ after) task).get? place = some v := by
  rw [boundTo, List.filter_append, List.filter_append, putAll_append, putAll_append,
    get?_putAll_of_miss fun l hl hplace => ?_]
  · refine get?_putAll_of_hit (fun l hl => hv l (List.mem_filter.mp hl).1) ?_ _
    obtain ⟨l, hl, htask, hplace⟩ := hit
    exact ⟨l, List.mem_filter.mpr ⟨hl, by simpa using htask⟩, hplace⟩
  · obtain ⟨hl, htask⟩ := List.mem_filter.mp hl
    exact hafter ⟨l, hl, by simpa using htask, hplace⟩

theorem get?_withContext (values : Table Value) (b : TaskBinding) (place : Target) :
    (withContext values b).get? place =
      if ((values.get? systemKey).getD .null).isNull = false ∧ place = .argument systemKey then
        some ((values.get? systemKey).getD .null)
      else b.get? place := by
  rw [withContext]
  generalize (values.get? systemKey).getD .null = context
  cases hnull : context.isNull with
  | true => simp
  | false =>
    simp only [true_and]
    exact Binding.get?_put b context (.argument systemKey) place

/-! ### The arguments that reach a place -/

theorem mem_leads {a : Argument} {l : Lead} {paths : List String} :
    l ∈ a.leads values paths ↔
      (∃ path ∈ paths, Binding.target a.name path = .ok (l.task, l.place)) ∧
        l.value = (values.get? a.name).getD .null := by
  rw [Argument.leads, List.mem_filterMap]
  constructor
  · rintro ⟨path, hpath, hl⟩
    cases htarget : Binding.target a.name path with
    | error e => simp [htarget, Except.toOption] at hl
    | ok r =>
      rw [htarget] at hl
      obtain rfl := Option.some.inj hl
      exact ⟨⟨path, hpath, htarget⟩, rfl⟩
  · rintro ⟨⟨path, hpath, htarget⟩, hvalue⟩
    refine ⟨path, hpath, ?_⟩
    rw [htarget, ← hvalue]
    rfl

theorem visible_eq {a : Argument} (h : a.Resolvable values) :
    a.visible values = .ok (isShown a.relation values) := by
  obtain ⟨shown, hshown⟩ := h.decides
  rw [isShown, ← Argument.visible, hshown]
  rfl

theorem reaches_iff {a : Argument} (h : a.Resolvable values) :
    a.Reaches values task place ↔ isShown a.relation values = true ∧
      ∃ l ∈ a.leads values a.bindings, l.task = task ∧ l.place = place := by
  rw [Argument.Reaches, visible_eq h, Except.ok.injEq]
  refine and_congr_right fun _ => ?_
  constructor
  · rintro ⟨path, hpath, hleads⟩
    refine ⟨⟨task, place, _⟩, mem_leads.mpr ⟨⟨path, hpath, ?_⟩, rfl⟩, rfl, rfl⟩
    exact (Binding.target_eq_ok_iff (h.paths path hpath)).mpr hleads
  · rintro ⟨l, hl, rfl, rfl⟩
    obtain ⟨⟨path, hpath, htarget⟩, -⟩ := mem_leads.mp hl
    exact ⟨path, hpath, (Binding.target_eq_ok_iff (h.paths path hpath)).mp htarget⟩

theorem exists_lead_iff (h : ∀ a ∈ args, a.Resolvable values) :
    (∃ l ∈ leads args values, l.task = task ∧ l.place = place) ↔
      ∃ a ∈ args, a.Reaches values task place := by
  constructor
  · rintro ⟨l, hl, hto⟩
    obtain ⟨a, ha, hl⟩ := List.mem_flatMap.mp hl
    obtain ⟨ha, hshown⟩ := List.mem_filter.mp ha
    exact ⟨a, ha, (reaches_iff (h a ha)).mpr ⟨hshown, l, hl, hto⟩⟩
  · rintro ⟨a, ha, hreach⟩
    obtain ⟨hshown, l, hl, hto⟩ := (reaches_iff (h a ha)).mp hreach
    exact ⟨l, List.mem_flatMap.mpr ⟨a, List.mem_filter.mpr ⟨ha, hshown⟩, hl⟩, hto⟩

theorem leads_append_cons {before after : List Argument} {a : Argument}
    (hshown : isShown a.relation values = true) :
    leads (before ++ a :: after) values =
      leads before values ++ a.leads values a.bindings ++ leads after values := by
  simp [leads, hshown]

theorem exists_lastToReach (h : ∃ a ∈ args, a.Reaches values task place) :
    ∃ a : Argument, a.LastToReach args values task place := by
  induction args with
  | nil => simp at h
  | cons a args ih =>
    by_cases hlater : ∃ b ∈ args, b.Reaches values task place
    · obtain ⟨b, before, after, rfl, hb, hafter⟩ := ih hlater
      exact ⟨b, a :: before, after, rfl, hb, hafter⟩
    · obtain ⟨b, hb, hreach⟩ := h
      rcases List.mem_cons.mp hb with rfl | hb
      · exact ⟨b, [], args, rfl, hreach, fun c hc hreach => hlater ⟨c, hc, hreach⟩⟩
      · exact absurd ⟨b, hb, hreach⟩ hlater

theorem boundTo_of_lastToReach (h : ∀ a ∈ args, a.Resolvable values) {a : Argument}
    (ha : a.LastToReach args values task place) :
    (boundTo (leads args values) task).get? place = some ((values.get? a.name).getD .null) := by
  obtain ⟨before, after, rfl, hreach, hafter⟩ := ha
  obtain ⟨hshown, hit⟩ := (reaches_iff (h a (by simp))).mp hreach
  rw [leads_append_cons hshown]
  -- All leads of `a` bring its value, and those of the arguments after it go elsewhere.
  refine boundTo_of_hit (fun l hl => (mem_leads.mp hl).2) hit ?_
  rw [exists_lead_iff fun b hb => h b (by simp [hb])]
  rintro ⟨b, hb, hreach⟩
  exact hafter b hb hreach

/-- Something is led to the first segments of the paths of visible arguments and nowhere else. -/
theorem exists_lead_to_iff (h : ∀ a ∈ args, a.Resolvable values) :
    (∃ l ∈ leads args values, l.task = task) ↔
      ∃ a ∈ args, a.visible values = .ok true ∧
        ∃ path ∈ a.bindings, path.toList.takeWhile (· != '.') = task.toList := by
  constructor
  · rintro ⟨l, hl, htask⟩
    obtain ⟨a, ha, hvisible, path, hpath, hleads⟩ := (exists_lead_iff h).mp ⟨l, hl, htask, rfl⟩
    exact ⟨a, ha, hvisible, path, hpath, Binding.task_of_leads hleads⟩
  · rintro ⟨a, ha, hvisible, path, hpath, hfirst⟩
    obtain ⟨task', place, -, hleads⟩ := Binding.leads_of_checkBinding ((h a ha).paths path hpath)
    obtain rfl : task' = task := by
      rw [← String.toList_inj, ← Binding.task_of_leads hleads, hfirst]
    obtain ⟨l, hl, htask, -⟩ := (exists_lead_iff h).mpr ⟨a, ha, hvisible, path, hpath, hleads⟩
    exact ⟨l, hl, htask⟩

end Last

/-! ### The bindings of a pipeline -/

/-- The context of the run does not stand at the place. -/
def Unclaimed (values : Table Value) (place : Target) : Prop :=
  place = .argument systemKey → ((values.get? systemKey).getD .null).isNull = true

/-- What a task is given, place by place: the context of the run, and anywhere else the value of the
last argument to reach the place. -/
structure ExactlyBound (args : List Argument) (values : Table Value) (task : String)
    (b : TaskBinding) : Prop where
  context : ∀ v, values.get? systemKey = some v → v.isNull = false →
    b.get? (.argument systemKey) = some v
  isSome_iff : ∀ place, Unclaimed values place →
    ((b.get? place).isSome = true ↔ ∃ a ∈ args, a.Reaches values task place)
  last : ∀ place, Unclaimed values place → ∀ a : Argument, a.LastToReach args values task place →
    b.get? place = some ((values.get? a.name).getD .null)

theorem exactlyBound_taskBinding {args : List Argument} {values : Table Value}
    (h : ∀ a ∈ args, a.Resolvable values) (task : String) :
    ExactlyBound args values task (taskBinding args values task) := by
  have hget {place : Target} (hfree : Unclaimed values place) :
      (taskBinding args values task).get? place = (boundTo (leads args values) task).get? place := by
    rw [taskBinding, get?_withContext, if_neg]
    rintro ⟨hnull, rfl⟩
    rw [hfree rfl] at hnull
    cases hnull
  refine ⟨fun v hv hnull => ?_, fun place hfree => ?_, fun place hfree a ha => ?_⟩
  · rw [taskBinding, get?_withContext, hv, Option.getD_some, if_pos ⟨hnull, rfl⟩]
  · rw [hget hfree]
    constructor
    · intro hsome
      by_cases hreach : ∃ a ∈ args, a.Reaches values task place
      · exact hreach
      · rw [boundTo_of_miss (mt (exists_lead_iff h).mp hreach)] at hsome
        cases hsome
    · intro hreach
      obtain ⟨a, ha⟩ := exists_lastToReach hreach
      rw [boundTo_of_lastToReach h ha]
      rfl
  · rw [hget hfree, boundTo_of_lastToReach h ha]

/-- The bindings of well formed arguments are those of the named tasks and of the first segments of
visible arguments' paths, and each binding holds what its task is given and nothing else. -/
theorem resolve_exact {args : List Argument} {values : Table Value}
    (h : ∀ a ∈ args, a.Resolvable values) (tasks : List String) :
    ∃ bindings, Binding.resolve args values tasks = .ok bindings ∧
      (∀ task, bindings.has task = true ↔ task ∈ tasks ∨
        ∃ a ∈ args, a.visible values = .ok true ∧
          ∃ path ∈ a.bindings, path.toList.takeWhile (· != '.') = task.toList) ∧
      ∀ task b, bindings.get? task = some b → ExactlyBound args values task b := by
  have htargets : ∀ a ∈ args, ∀ path ∈ a.bindings, ∃ target,
      Binding.target a.name path = .ok target :=
    fun a ha path hpath => Argument.target_of_checkBinding ((h a ha).paths path hpath)
  obtain ⟨bindings, hbindings, hhas, hget⟩ :=
    resolve_eq (fun a ha => visible_eq (h a ha)) htargets tasks
  refine ⟨bindings, hbindings, fun task => ?_, fun task b hb => ?_⟩
  · rw [hhas, exists_lead_to_iff h]
  · rw [hget task b hb]
    exact exactlyBound_taskBinding h task

/-- A token that is known beforehand, for where no other one is given. -/
def knownToken : Argument :=
  { tokenArgument with
    name := "known"
    bindings := ["build.args.token", "test.args.token.text"]
    relation := none }

/-- A hidden token leaves the known one in its place. -/
theorem resolve_exact_knownToken :
    (∀ a ∈ [knownToken, tokenArgument],
        a.Resolvable [("token", .str "t1"), ("known", .str "t0")]) ∧
      ∃ bindings, Binding.resolve [knownToken, tokenArgument]
          [("token", .str "t1"), ("known", .str "t0")] ["build"] = .ok bindings ∧
        bindings.has "test" = true ∧
        ∃ b, bindings.get? "build" = some b ∧ b.get? (.argument "token") = some (.str "t0") := by
  have hhidden :
      tokenArgument.visible [("token", .str "t1"), ("known", .str "t0")] = .ok false := rfl
  have hbuild : Argument.checkBinding "known" "build.args.token" = .ok () := by cbv
  have htest : Argument.checkBinding "known" "test.args.token.text" = .ok () := by cbv
  have htoken : Argument.checkBinding "token" "build.args.token" = .ok () := by cbv
  have hargs : ∀ a ∈ [knownToken, tokenArgument],
      a.Resolvable [("token", .str "t1"), ("known", .str "t0")] := by
    intro a ha
    rcases List.mem_pair.mp ha with rfl | rfl
    · refine ⟨fun path hpath => ?_, true, rfl⟩
      rcases List.mem_pair.mp hpath with rfl | rfl
      · exact hbuild
      · exact htest
    · refine ⟨fun path hpath => ?_, false, hhidden⟩
      obtain rfl := List.mem_singleton.mp hpath
      exact htoken
  obtain ⟨bindings, hbindings, hhas, hexact⟩ := resolve_exact hargs ["build"]
  refine ⟨hargs, bindings, hbindings, ?_, ?_⟩
  · rw [hhas]
    refine .inr ⟨knownToken, List.mem_cons_self, rfl, "test.args.token.text", ?_, ?_⟩
    · exact List.mem_cons_of_mem _ List.mem_cons_self
    · decide +kernel
  · obtain ⟨b, hb⟩ := Option.isSome_iff_exists.mp ((hhas "build").mpr (.inl List.mem_cons_self))
    refine ⟨b, hb, (hexact "build" b hb).last _ (by simp [Unclaimed, systemKey]) knownToken ?_⟩
    refine ⟨[], [tokenArgument], rfl, ⟨rfl, "build.args.token", List.mem_cons_self, ?_⟩, ?_⟩
    · exact ⟨by decide, by decide, by decide, by decide, .inl rfl⟩
    · rintro a ha ⟨hvisible, -⟩
      obtain rfl := List.mem_singleton.mp ha
      rw [hhidden] at hvisible
      cases hvisible

end Supply

end Jenkinsfile
