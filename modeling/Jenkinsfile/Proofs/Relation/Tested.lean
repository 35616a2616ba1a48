import Jenkinsfile.Proofs.Relation.Visible

/-! The names that a relation tests.  Values that agree on these names are shown the same. -/

namespace Jenkinsfile

variable {values values' : Table Value}

theorem ValueTest.holds_congr {t : ValueTest} (h : values.get? t.name = values'.get? t.name) :
    t.holds values = t.holds values' := by
  rw [holds, holds, h]

theorem ValueTest.outcomes_congr {tests : List ValueTest}
    (h : ∀ t ∈ tests, values.get? t.name = values'.get? t.name) :
    outcomes values tests = outcomes values' tests := by
  induction tests with
  | nil => rfl
  | cons t tests ih =>
    obtain ⟨ht, htests⟩ := List.forall_mem_cons.mp h
    rw [outcomes, outcomes, holds_congr ht, ih htests]

namespace Condition

/-- The names of the values that a condition tests. -/
def testedNames (c : Condition) : List String :=
  (if c.name.isEmpty then [] else [c.name]) ++ (c.allTests ++ c.anyTests).map ValueTest.name

theorem holds_congr {c : Condition}
    (h : ∀ name ∈ c.testedNames, values.get? name = values'.get? name) :
    c.holds values = c.holds values' := by
  simp only [testedNames, List.map_append, List.mem_append, List.mem_map] at h
  have hall : ValueTest.outcomes values c.allTests = ValueTest.outcomes values' c.allTests :=
    ValueTest.outcomes_congr fun t ht => h _ (.inr (.inl ⟨t, ht, rfl⟩))
  have hany : ValueTest.outcomes values c.anyTests = ValueTest.outcomes values' c.anyTests :=
    ValueTest.outcomes_congr fun t ht => h _ (.inr (.inr ⟨t, ht, rfl⟩))
  rw [holds, holds, hall, hany]
  cases hname : c.name.isEmpty with
  | true => rfl
  | false =>
    have hnamed : ValueTest.holds ⟨c.name, c.value⟩ values =
        ValueTest.holds ⟨c.name, c.value⟩ values' :=
      ValueTest.holds_congr (h _ (.inl (by simp [hname])))
    rw [hnamed]

end Condition

namespace Relation

/-- The names of the values that an optional relation tests. -/
def testedNames (r : Option Relation) : List String :=
  (r.toList.flatMap entries).flatMap fun e => e.condition.toList.flatMap Condition.testedNames

/-- Whether something is shown depends on the values under the tested names only. -/
theorem visible?_congr {r : Option Relation}
    (h : ∀ name ∈ testedNames r, values.get? name = values'.get? name) :
    visible? r values = visible? r values' := by
  cases r with
  | none => rfl
  | some r =>
    rw [visible?, visible?, visible, visible]
    cases hd : r.deciding? with
    | none => rfl
    | some e =>
      have hentry : e.visible values = e.visible values' := by
        rw [RelationEntry.visible, RelationEntry.visible]
        cases hc : e.condition with
        | none => rfl
        | some c =>
          have hholds : c.holds values = c.holds values' := by
            refine Condition.holds_congr fun name hname => h name ?_
            refine List.mem_flatMap.mpr ⟨e, by simpa using mem_of_deciding? hd, ?_⟩
            simpa [hc] using hname
          simp only [hholds]
      exact hentry

end Relation

end Jenkinsfile
