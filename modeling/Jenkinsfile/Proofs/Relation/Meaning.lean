import Jenkinsfile.Proofs.Relation.Visible
import Mathlib.Data.List.Nodup
import Mathlib.Data.List.Perm.Basic

/-! What relations that pass their check mean.  `Met` says when a condition holds, `Decides` which
entry of a relation counts and `Shows` what that entry says; `visible_decided` says that reading the
relation comes to this on all values with texts, whatever the order of its entries. -/

namespace Jenkinsfile

variable {values : Table Value}

/-! ### Tests and conditions -/

/-- There is a value of the name of the test, and it has the text of the test's value. -/
def ValueTest.Met (t : ValueTest) (values : Table Value) : Prop :=
  ∃ v text, values.get? t.name = some v ∧ v.comparisonText = .ok text ∧
    t.value.comparisonText = .ok text

theorem ValueTest.holds_iff {t : ValueTest} {b : Bool} (h : t.holds values = .ok b) :
    b = true ↔ t.Met values := by
  rw [holds] at h
  rw [Met]
  cases hv : values.get? t.name with
  | none =>
    rw [hv] at h
    simp [← Except.ok.inj h]
  | some v =>
    rw [hv] at h
    obtain ⟨text, htext, h⟩ := bind_eq_ok.mp h
    obtain ⟨text', htext', h⟩ := bind_eq_ok.mp h
    rw [← Except.ok.inj h, beq_iff_eq]
    constructor
    · rintro rfl
      exact ⟨v, text, rfl, htext, htext'⟩
    · rintro ⟨w, other, hw, hother, hother'⟩
      rw [← Option.some.inj hw, htext] at hother
      exact (Except.ok.inj hother).trans (Except.ok.inj (hother'.symm.trans htext'))

theorem ValueTest.outcomes_iff {tests : List ValueTest} {bs : List Bool}
    (h : outcomes values tests = .ok bs) :
    (bs.all id = true ↔ ∀ t ∈ tests, t.Met values) ∧
      (bs.any id = true ↔ ∃ t ∈ tests, t.Met values) := by
  induction tests generalizing bs with
  | nil =>
    cases h
    simp
  | cons t tests ih =>
    obtain ⟨b, hb, h⟩ := bind_eq_ok.mp h
    obtain ⟨rest, hrest, h⟩ := bind_eq_ok.mp h
    cases h
    obtain ⟨hall, hany⟩ := ih hrest
    have ht := ValueTest.holds_iff hb
    simp only [List.all_cons, List.any_cons, Bool.and_eq_true, Bool.or_eq_true, id_eq, ht, hall,
      hany, List.forall_mem_cons, List.exists_mem_cons_iff, and_self]

namespace Condition

/-- The condition has a test in one of its three forms. -/
def HasTest (c : Condition) : Prop := c.allTests ≠ [] ∨ c.anyTests ≠ [] ∨ c.name ≠ ""

/-- All tests of a list that is not empty, some test of the other list, or the one named test is
met. -/
def Met (c : Condition) (values : Table Value) : Prop :=
  (c.allTests ≠ [] ∧ ∀ t ∈ c.allTests, t.Met values) ∨ (∃ t ∈ c.anyTests, t.Met values) ∨
    (c.name ≠ "" ∧ ValueTest.Met ⟨c.name, c.value⟩ values)

theorem isEmpty_iff {c : Condition} : c.isEmpty = true ↔ ¬ c.HasTest := by
  simp only [isEmpty, HasTest, Bool.and_eq_true, String.isEmpty_iff, List.isEmpty_iff, not_or,
    not_not]
  tauto

/-- A condition that passes its check has tests in one form at most. -/
theorem form_of_check {c : Condition} (h : c.check = .ok ()) :
    (c.allTests ≠ [] → c.anyTests = [] ∧ c.name = "") ∧ (c.anyTests ≠ [] → c.name = "") := by
  have hforms : c.all.isSome.toNat + c.any.isSome.toNat + (!c.name.isEmpty).toNat ≤ 1 := by
    rw [check] at h
    split at h
    · cases h
    · rw [← forms]
      omega
  have hall : c.allTests ≠ [] → c.all.isSome = true := by
    cases hc : c.all <;> simp [allTests, hc]
  have hany : c.anyTests ≠ [] → c.any.isSome = true := by
    cases hc : c.any <;> simp [anyTests, hc]
  have hname : c.name ≠ "" → (!c.name.isEmpty) = true := by
    simp
  refine ⟨fun h => ⟨?_, ?_⟩, fun h => ?_⟩ <;> by_contra hne
  · rw [hall h, hany hne, Bool.toNat_true] at hforms
    omega
  · rw [hall h, hname hne, Bool.toNat_true] at hforms
    omega
  · rw [hany h, hname hne, Bool.toNat_true] at hforms
    omega

/-- A condition with a test holds exactly if it is met, once it has passed its check. -/
theorem holds_iff {c : Condition} (h : c.check = .ok ()) (ht : c.HasTest) {b : Bool}
    (hb : c.holds values = .ok b) : b = true ↔ c.Met values := by
  obtain ⟨hall, hany⟩ := form_of_check h
  rw [holds] at hb
  rw [Met]
  by_cases ha : c.allTests = []
  · by_cases ho : c.anyTests = []
    · have hn : c.name ≠ "" := by
        simpa [HasTest, ha, ho] using ht
      simp only [ha, ho, List.isEmpty_nil, Bool.not_true, Bool.false_eq_true, if_false,
        Bool.not_eq_true', String.isEmpty_eq_false_iff, if_pos hn] at hb
      simp [ha, ho, hn, ValueTest.holds_iff hb]
    · simp only [ha, List.isEmpty_nil, Bool.not_true, Bool.false_eq_true, if_false,
        Bool.not_eq_true', List.isEmpty_eq_false_iff, if_pos ho] at hb
      obtain ⟨bs, hbs, hb⟩ := bind_eq_ok.mp hb
      rw [← Except.ok.inj hb, (ValueTest.outcomes_iff hbs).2]
      simp [ha, hany ho]
  · obtain ⟨ho, hn⟩ := hall ha
    simp only [Bool.not_eq_true', List.isEmpty_eq_false_iff, if_pos ha] at hb
    obtain ⟨bs, hbs, hb⟩ := bind_eq_ok.mp hb
    rw [← Except.ok.inj hb, (ValueTest.outcomes_iff hbs).1]
    simp [ha, ho, hn]

end Condition

/-! ### Entries -/

namespace RelationEntry

/-- What an entry says where its condition has a test: its owner is shown exactly if the condition
is met, or exactly if it is not, depending on the action. -/
def Shows (e : RelationEntry) (values : Table Value) : Prop :=
  ∀ c ∈ e.condition, c.HasTest → (c.Met values ↔ e.action = Action.shown.label)

theorem ofLabel?_eq_some {s : String} {a : Action} : Action.ofLabel? s = some a ↔ s = a.label := by
  constructor
  · intro h
    rw [Action.ofLabel?] at h
    split at h
    · obtain rfl := Option.some.inj h
      assumption
    · split at h
      · obtain rfl := Option.some.inj h
        assumption
      · cases h
  · rintro rfl
    cases a <;> rfl

theorem check_eq_ok_iff {e : RelationEntry} :
    e.check = .ok () ↔ ∃ a c, e = ⟨Action.label a, some c⟩ ∧ c.check = .ok () := by
  obtain ⟨action, condition⟩ := e
  rw [check, Error.raise_collect_eq_ok_iff]
  simp only [List.forall_mem_cons, List.not_mem_nil, false_imp_iff, implies_true, and_true, action?,
    RelationEntry.mk.injEq]
  constructor
  · rintro ⟨haction, hcondition⟩
    cases ha : Action.ofLabel? action with
    | none =>
      rw [ha] at haction
      cases haction
    | some a =>
      cases condition with
      | none => cases hcondition
      | some c => exact ⟨a, c, ⟨ofLabel?_eq_some.mp ha, rfl⟩, hcondition⟩
  · rintro ⟨a, c, ⟨rfl, rfl⟩, hc⟩
    rw [ofLabel?_eq_some.mpr rfl]
    exact ⟨rfl, hc⟩

theorem visible_labelled (a : Action) {c : Condition} (ht : c.HasTest) :
    (⟨a.label, some c⟩ : RelationEntry).visible values = (Failure.ofText (c.holds values)).map
      fun holds => (if holds then a else a.negate) == .shown := by
  have haction : (⟨a.label, some c⟩ : RelationEntry).action? = .ok a := by
    rw [action?, ofLabel?_eq_some.mpr rfl]
  have hc : ¬ c.isEmpty = true := fun hc => Condition.isEmpty_iff.mp hc ht
  rw [visible, haction]
  show (if c.isEmpty = true then _ else _) = _
  rw [if_neg hc]
  cases c.holds values <;> rfl

/-- An entry that passes its check shows its owner exactly if it says so. -/
theorem shows_of_visible {e : RelationEntry} (h : e.check = .ok ()) {shown : Bool}
    (hshown : e.visible values = .ok shown) : shown = true ↔ e.Shows values := by
  obtain ⟨a, c, rfl, hc⟩ := check_eq_ok_iff.mp h
  simp only [Shows, Option.mem_def, Option.some.injEq, forall_eq']
  by_cases ht : c.HasTest
  · rw [visible_labelled a ht] at hshown
    cases hholds : c.holds values with
    | error f =>
      rw [hholds] at hshown
      cases hshown
    | ok b =>
      rw [hholds] at hshown
      rw [← Condition.holds_iff hc ht hholds, ← Except.ok.inj hshown]
      cases a <;> cases b <;> simp [ht, Action.label, Action.negate]
  · have hempty : c.isEmpty = true := Condition.isEmpty_iff.mpr ht
    have hvisible : (⟨a.label, some c⟩ : RelationEntry).visible values = .ok true := by
      rw [visible, action?, ofLabel?_eq_some.mpr rfl]
      exact if_pos hempty
    rw [hvisible] at hshown
    simp [← Except.ok.inj hshown, ht]

end RelationEntry

/-! ### Relations -/

namespace Relation

/-- The entry that counts: one that shows, and one that hides where none shows. -/
def Decides (r : Relation) (e : RelationEntry) : Prop :=
  e ∈ r.entries ∧ (e.action = Action.shown.label ∨
    e.action = Action.hidden.label ∧ ∀ d ∈ r.entries, d.action ≠ Action.shown.label)

theorem entryErrors_eq_nil_iff {i : Nat} {seen : List String} {entries : List RelationEntry} :
    entryErrors i seen entries = [] ↔ (∀ e ∈ entries, e.check = .ok ()) ∧
      (∀ e ∈ entries, e.action ∉ seen) ∧ (entries.map RelationEntry.action).Nodup := by
  induction entries generalizing i seen with
  | nil => simp [entryErrors]
  | cons e entries ih =>
    rw [entryErrors, List.append_eq_nil_iff, List.append_eq_nil_iff, ih, Error.collect_eq_nil_iff,
      List.forall_mem_singleton, List.forall_mem_cons, List.forall_mem_cons, List.map_cons,
      List.nodup_cons]
    by_cases hs : e.action ∈ seen
    · simp [hs]
    · simp only [List.contains_iff_mem, hs, if_false, List.mem_map, List.mem_cons, not_or,
        not_exists, not_and]
      grind

theorem check_eq_ok_iff {r : Relation} :
    r.check = .ok () ↔
      (∀ e ∈ r.entries, e.check = .ok ()) ∧ (r.entries.map RelationEntry.action).Nodup := by
  rw [check, Error.raise_eq_ok_iff, entryErrors_eq_nil_iff]
  simp

theorem check_of_perm {r s : Relation} (h : r.check = .ok ()) (hp : s.entries.Perm r.entries) :
    s.check = .ok () := by
  rw [check_eq_ok_iff] at h ⊢
  exact ⟨fun e he => h.1 e (hp.mem_iff.mp he), (hp.map _).nodup_iff.mpr h.2⟩

theorem Decides.of_perm {r s : Relation} {e : RelationEntry} (h : r.Decides e)
    (hp : s.entries.Perm r.entries) : s.Decides e :=
  ⟨hp.mem_iff.mpr h.1, h.2.imp_right fun hh => ⟨hh.1, fun d hd => hh.2 d (hp.mem_iff.mp hd)⟩⟩

section Checked

variable {r : Relation} {e : RelationEntry}

theorem action_of_check (h : r.check = .ok ()) (he : e ∈ r.entries) :
    e.action = Action.shown.label ∨ e.action = Action.hidden.label := by
  obtain ⟨a, c, rfl, -⟩ := RelationEntry.check_eq_ok_iff.mp ((check_eq_ok_iff.mp h).1 e he)
  cases a <;> simp

/-- Of the entries that pass their check, the first that shows counts, or else any. -/
theorem exists_decides (h : r.check = .ok ()) (hne : r.entries ≠ []) : ∃ e, r.Decides e := by
  by_cases hs : ∃ e ∈ r.entries, e.action = Action.shown.label
  · obtain ⟨e, he, hshown⟩ := hs
    exact ⟨e, he, .inl hshown⟩
  · push Not at hs
    obtain ⟨e, he⟩ := List.exists_mem_of_ne_nil _ hne
    exact ⟨e, he, .inr ⟨(action_of_check h he).resolve_left (hs e he), hs⟩⟩

theorem Decides.unique (h : r.check = .ok ()) {d : RelationEntry} (he : r.Decides e)
    (hd : r.Decides d) : d = e := by
  refine List.inj_on_of_nodup_map (check_eq_ok_iff.mp h).2 hd.1 he.1 ?_
  obtain ⟨he, hshown | ⟨hhidden, hnone⟩⟩ := he
  · obtain ⟨-, hd | ⟨-, hnone⟩⟩ := hd
    · rw [hd, hshown]
    · exact absurd hshown (hnone e he)
  · obtain ⟨hd, hshown | ⟨hhidden', -⟩⟩ := hd
    · exact absurd hshown (hnone _ hd)
    · rw [hhidden, hhidden']

theorem deciding?_eq (h : r.check = .ok ()) (he : r.Decides e) : r.deciding? = some e := by
  have hactions := (check_eq_ok_iff.mp h).2
  have hmem := he.1
  rw [deciding?]
  cases hr : r.entries with
  | nil =>
    rw [hr] at hmem
    cases hmem
  | cons first rest =>
    rw [hr, List.map_cons, List.nodup_cons, List.mem_map] at hactions
    simp only
    split
    · -- entries of one action are one entry
      rename_i hall
      have hnil : rest = [] := by
        refine List.eq_nil_iff_forall_not_mem.mpr fun d hd => hactions.1 ⟨d, hd, ?_⟩
        simpa using List.all_eq_true.mp hall d hd
      rw [hr, hnil, List.mem_singleton] at hmem
      rw [hmem]
    · -- of entries of two actions one shows
      rename_i hall
      cases hf : (first :: rest).reverse.find? (·.action == Action.shown.label) with
      | some d =>
        have hd : d ∈ r.entries := by
          rw [hr]
          exact List.mem_reverse.mp (List.mem_of_find?_eq_some hf)
        have hshown : d.action = Action.shown.label := by
          simpa using List.find?_some hf
        rw [he.unique h ⟨hd, .inl hshown⟩]
      | none =>
        rw [List.find?_eq_none] at hf
        have hhidden : ∀ d ∈ first :: rest, d.action = Action.hidden.label := fun d hd =>
          (action_of_check h (hr ▸ hd)).resolve_left
            (by simpa using hf d (List.mem_reverse.mpr hd))
        refine absurd (List.all_eq_true.mpr fun d hd => ?_) hall
        rw [hhidden d (List.mem_cons_of_mem _ hd), hhidden first List.mem_cons_self, beq_self_eq_true]

theorem visible_eq (h : r.check = .ok ()) (he : r.Decides e) (values : Table Value) :
    r.visible values = e.visible values := by
  rw [visible, deciding?_eq h he]

/-- The other action in the one entry of a relation decides the other way, if the entry has a
test. -/
theorem visible_swapped {c : Condition} (hr : r.entries = [⟨Action.shown.label, some c⟩])
    (ht : c.HasTest) (values : Table Value) :
    (Relation.mk [⟨Action.hidden.label, some c⟩]).visible values =
      (r.visible values).map (!·) := by
  have hone : r.deciding? = some ⟨Action.shown.label, some c⟩ := by
    simp [deciding?, hr]
  rw [visible, visible, hone]
  show RelationEntry.visible ⟨Action.hidden.label, some c⟩ values =
    (RelationEntry.visible ⟨Action.shown.label, some c⟩ values).map _
  rw [RelationEntry.visible_labelled .hidden ht, RelationEntry.visible_labelled .shown ht]
  cases c.holds values with
  | error f => rfl
  | ok b => cases b <;> rfl

/-- Whether all that is tested by the entry that counts has a text. -/
def Legible (r : Option Relation) (values : Table Value) : Prop :=
  ∀ s ∈ r, ∀ e, s.Decides e → e.Writable values

theorem legible_iff (h : r.check = .ok ()) (he : r.Decides e) :
    Legible (some r) values ↔ e.Writable values := by
  simp only [Legible, Option.mem_def, Option.some.injEq, forall_eq']
  exact ⟨fun hw => hw e he, fun hw d hd => hd.unique h he ▸ hw⟩

/-- Whatever the values are, it is decided whether something is shown, unless a number is too long for
a test that counts. -/
def Settled (r : Option Relation) : Prop :=
  ∀ values, visible? r values = .ok (isShown r values) ∧ Legible r values ∨
    visible? r values = .error Failure.longNumber ∧ ¬ Legible r values

theorem settled_of_check {r : Option Relation} (h : ∀ s ∈ r, s.check = .ok ()) : Settled r := by
  intro values
  cases r with
  | none => exact .inl ⟨rfl, by simp [Legible]⟩
  | some r =>
    have hcheck := h r rfl
    by_cases hnil : r.entries = []
    · have hvisible : r.visible values = .ok true := by rw [visible, deciding?, hnil]
      refine .inl ⟨?_, by simp [Legible, Decides, hnil]⟩
      rw [visible?, isShown_of_visible? (r := some r) hvisible, hvisible]
    · obtain ⟨e, he⟩ := exists_decides hcheck hnil
      rw [legible_iff hcheck he]
      obtain ⟨⟨b, hb⟩, hw⟩ | ⟨hf, hw⟩ :=
        e.visible_of_check ((check_eq_ok_iff.mp hcheck).1 e he.1) values
      · rw [← visible_eq hcheck he] at hb
        refine .inl ⟨?_, hw⟩
        rw [visible?, isShown_of_visible? (r := some r) hb, hb]
      · exact .inr ⟨(visible_eq hcheck he values).trans hf, hw⟩

theorem Settled.decides {r : Option Relation} (h : Settled r) (values : Table Value) :
    (Legible r values → ∃ shown, visible? r values = .ok shown) ∧
      (¬ Legible r values → visible? r values = .error Failure.longNumber) := by
  obtain ⟨hshown, hlegible⟩ | ⟨hstop, hlong⟩ := h values
  · exact ⟨fun _ => ⟨_, hshown⟩, fun hlong => absurd hlegible hlong⟩
  · exact ⟨fun hlegible => absurd hlegible hlong, fun _ => hstop⟩

end Checked

/-- A relation that passes its check either shows its owner or does not, whatever the order of its
entries, on all values with which every test that counts has texts to compare; a number too long to
be written ends in a fault.  Without an entry it shows its owner; else one entry counts, and it does
exactly if this entry says so.  A single entry with a test says the opposite if its action is changed. -/
theorem visible_decided {r : Relation} (h : r.check = .ok ()) (values : Table Value) :
    ∃ result : Except Failure Bool,
      (∀ s : Relation, s.entries.Perm r.entries → s.visible values = result) ∧
      (r.entries = [] → result = .ok true) ∧
      (r.entries ≠ [] → ∃! e, r.Decides e) ∧
      (∀ e, r.Decides e →
        (e.Writable values → ∃ shown, result = .ok shown ∧ (shown = true ↔ e.Shows values)) ∧
          (¬ e.Writable values → result = .error Failure.longNumber)) ∧
      ∀ c, r.entries = [⟨Action.shown.label, some c⟩] → c.HasTest →
        (Relation.mk [⟨Action.hidden.label, some c⟩]).visible values = result.map (!·) := by
  refine ⟨r.visible values, fun s hp => ?_, fun hnil => ?_, fun hne => ?_, fun e he => ?_,
    fun c hr ht => visible_swapped hr ht values⟩
  · by_cases hnil : r.entries = []
    · rw [hnil, List.perm_nil] at hp
      rw [visible, visible, deciding?, deciding?, hp, hnil]
    · obtain ⟨e, he⟩ := exists_decides h hnil
      rw [visible_eq (check_of_perm h hp) (he.of_perm hp), visible_eq h he]
  · rw [visible, deciding?, hnil]
  · obtain ⟨e, he⟩ := exists_decides h hne
    exact ⟨e, he, fun d hd => he.unique h hd⟩
  · have hcheck := (check_eq_ok_iff.mp h).1 e he.1
    rw [visible_eq h he]
    obtain ⟨⟨shown, hshown⟩, hw⟩ | ⟨hf, hw⟩ := e.visible_of_check hcheck values
    · exact ⟨fun _ => ⟨shown, hshown, RelationEntry.shows_of_visible hcheck hshown⟩,
        fun hn => absurd hw hn⟩
    · exact ⟨fun hw' => absurd hw' hw, fun _ => hf⟩

/-- Hidden in a build without a value of `CI`, but shown for production. -/
def deployRelation : Relation :=
  ⟨[⟨"hidden", some ⟨"CI", .str "", none, none⟩⟩,
    ⟨"show", some ⟨"", .null, some [⟨"deploy", .str "true"⟩, ⟨"stage", .int 3⟩], none⟩⟩]⟩

/-- The entries the other way round, where both conditions are met. -/
theorem visible_decided_deployRelation :
    deployRelation.check = .ok () ∧
      (Relation.mk deployRelation.entries.reverse).visible
        [("CI", .str ""), ("deploy", .bool true), ("stage", .str "3")] = .ok true := by
  have hcheck : deployRelation.check = .ok () := rfl
  obtain ⟨result, hperm, -, -, hiff, -⟩ := visible_decided hcheck
    [("CI", .str ""), ("deploy", .bool true), ("stage", .str "3")]
  obtain ⟨hdecided, -⟩ := hiff _ ⟨List.mem_cons_of_mem _ List.mem_cons_self, .inl rfl⟩
  obtain ⟨shown, hresult, hshown⟩ := hdecided (by
    intro c hc t ht v hv
    obtain rfl := Option.some.inj hc
    have htests : t ∈ [ValueTest.mk "deploy" (.str "true"), ⟨"stage", .int 3⟩] := ht
    simp only [List.mem_cons, List.not_mem_nil, or_false] at htests
    obtain rfl | rfl := htests
    · obtain rfl : Value.bool true = v := Option.some.inj hv
      exact ⟨Value.IsPlain.short trivial, Value.IsPlain.short trivial⟩
    · obtain rfl : Value.str "3" = v := Option.some.inj hv
      exact ⟨Value.IsPlain.short trivial, Value.short_int_iff.mpr rfl⟩)
  have htrue : shown = true := by
    refine hshown.mpr fun c hc _ => ?_
    obtain rfl := Option.some.inj hc
    refine iff_of_true (.inl ⟨by simp [Condition.allTests], ?_⟩) rfl
    simp only [Condition.allTests, Option.getD_some, List.forall_mem_cons]
    exact ⟨⟨_, "true", rfl, rfl, rfl⟩, ⟨_, "3", rfl, rfl, by cbv⟩, by simp⟩
  exact ⟨hcheck, by rw [hperm _ (by exact List.reverse_perm _), hresult, htrue]⟩

/-- Shown where a number is one. -/
def countRelation : Relation := ⟨[⟨"show", some ⟨"count", .int 1, none, none⟩⟩]⟩

theorem countRelation_leastLong :
    countRelation.visible [("count", .int leastLong)] = .error Failure.longNumber := by
  have hone : countRelation.visible [("count", .int leastLong)] =
      RelationEntry.visible ⟨Action.shown.label, some ⟨"count", .int 1, none, none⟩⟩
        [("count", .int leastLong)] := rfl
  have htest : Condition.holds ⟨"count", .int 1, none, none⟩ [("count", .int leastLong)] =
      (intText leastLong >>= fun text => (intText 1).map (text == ·)) := rfl
  rw [hone, RelationEntry.visible_labelled .shown (.inr (.inr (by decide))), htest, intText,
    isShort_leastLong]
  rfl

/-- A number with more digits than a text may have cannot be tested. -/
theorem visible_longCount :
    countRelation.check = .ok () ∧
      countRelation.visible [("count", .int leastLong)] = .error Failure.longNumber :=
  ⟨rfl, countRelation_leastLong⟩

end Relation

end Jenkinsfile
