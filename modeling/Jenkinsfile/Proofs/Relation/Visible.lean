import Jenkinsfile.Proofs.Value.Text
import Jenkinsfile.Relation.Basic

/-! Relations that pass their check decide whether their owner is shown, on all values with texts: a
test of a whole number that is too long to be written ends in a fault. -/

namespace Jenkinsfile

/-- Whether an optional relation shows its owner; one that does not decide does not. -/
def isShown (r : Option Relation) (values : Table Value) : Bool :=
  (Relation.visible? r values).toOption.getD false

/-! ### Tests and conditions -/

/-- Whether the value tested, if there is one, and that of the test have texts. -/
def ValueTest.Writable (t : ValueTest) (values : Table Value) : Prop :=
  ∀ v, values.get? t.name = some v → v.Short ∧ t.value.Short

variable {values : Table Value}

theorem ValueTest.tells_holds (t : ValueTest) :
    Tells (t.holds values) (t.Writable values) TextFault.IsLong := by
  rw [holds, Writable]
  cases values.get? t.name with
  | none => exact .ok (by simp)
  | some v =>
    exact (v.tells_comparisonText.bind fun _ _ => t.value.tells_comparisonText.map _).of_iff
      (by simp)

theorem ValueTest.tells_outcomes (tests : List ValueTest) :
    Tells (outcomes values tests) (∀ t ∈ tests, t.Writable values) TextFault.IsLong := by
  induction tests with
  | nil => exact .ok (by simp)
  | cons t tests ih =>
    exact (t.tells_holds.bind fun _ _ => ih.map _).of_iff
      (by simp only [List.forall_mem_cons])

/-- The tests on which a condition rests. -/
def Condition.tests (c : Condition) : List ValueTest :=
  if !c.allTests.isEmpty then c.allTests
  else if !c.anyTests.isEmpty then c.anyTests
  else if !c.name.isEmpty then [⟨c.name, c.value⟩]
  else []

theorem Condition.tests_of_isEmpty {c : Condition} (h : c.isEmpty = true) : c.tests = [] := by
  simp only [isEmpty, Bool.and_eq_true] at h
  simp [tests, h]

theorem Condition.tells_holds (c : Condition) (values : Table Value) :
    Tells (c.holds values) (∀ t ∈ c.tests, t.Writable values) TextFault.IsLong := by
  rw [holds, tests]
  split
  · exact (ValueTest.tells_outcomes _).map _
  · split
    · exact (ValueTest.tells_outcomes _).map _
    · split
      · exact (ValueTest.tells_holds _).of_iff (by simp only [List.forall_mem_singleton])
      · exact .ok (by simp)

/-! ### Entries -/

namespace RelationEntry

/-- Whether all that the condition of an entry tests has a text. -/
def Writable (e : RelationEntry) (values : Table Value) : Prop :=
  ∀ c ∈ e.condition, ∀ t ∈ c.tests, t.Writable values

/-- An entry that passes its check decides on values with texts, and else ends in a fault. -/
theorem visible_of_check {e : RelationEntry} (h : e.check = .ok ()) (values : Table Value) :
    (∃ b, e.visible values = .ok b) ∧ e.Writable values ∨
      e.visible values = .error Failure.longNumber ∧ ¬ e.Writable values := by
  rw [check, Error.raise_collect_eq_ok_iff] at h
  have haction := h (e.action?.map fun _ => ()) List.mem_cons_self
  cases ha : e.action? with
  | error => rw [ha] at haction; cases haction
  | ok a =>
    rw [visible, Writable, ha]
    cases e.condition with
    | none => exact .inl ⟨⟨true, rfl⟩, by simp⟩
    | some c =>
      simp only [Option.mem_def, Option.some.injEq, forall_eq']
      cases hc : c.isEmpty with
      | true => exact .inl ⟨⟨true, by simp [Failure.ofError, bind, Except.bind]; rfl⟩, by
          simp [Condition.tests_of_isEmpty hc]⟩
      | false =>
        obtain ⟨⟨b, -, hb⟩, hw⟩ | ⟨hf, hw⟩ := Failure.ofText_of_tells (c.tells_holds values)
        · exact .inl ⟨⟨_, by simp [Failure.ofError, bind, Except.bind, hb]; rfl⟩, hw⟩
        · exact .inr ⟨by simp [Failure.ofError, bind, Except.bind, hf], hw⟩

end RelationEntry

/-! ### Relations -/

namespace Relation

theorem mem_of_deciding? {r : Relation} {e : RelationEntry} (h : r.deciding? = some e) :
    e ∈ r.entries := by
  rw [deciding?] at h
  split at h
  · cases h
  · rename_i first rest hentries
    split at h
    · obtain rfl := Option.some.inj h
      rw [hentries]
      exact List.mem_cons_self
    · exact List.mem_reverse.mp (List.mem_of_find?_eq_some h)

theorem isShown_of_visible? {r : Option Relation} {values : Table Value} {b : Bool}
    (h : visible? r values = .ok b) : isShown r values = b := by
  simp [isShown, h, Except.toOption]

end Relation

end Jenkinsfile
