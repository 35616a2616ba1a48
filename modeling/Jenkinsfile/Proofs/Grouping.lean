import Jenkinsfile.Error

/-! Errors in groups.  How reports are put in groups does not show in the reports of an error nor in
the kinds that it has in it: a further group around some members of a group, at whatever depth,
changes neither.  The reports are told from the first to the last place, none of them left out and
none told twice. -/

namespace Jenkinsfile

theorem ErrorKind.covers_iff {kind other : ErrorKind} :
    kind.covers other = true ↔ kind = .general ∨ kind = other := by
  simp [covers]

namespace Error

/-! ### Further groups -/

/-- The second error is the first with members of one of its groups, next to each other, in a
further group. -/
inductive Regroups : Error → Error → Prop
  | members (before run after : List Error) (data inner : Table Detail) :
      Regroups (.group (before ++ run ++ after) data)
        (.group (before ++ .group run inner :: after) data)
  | inside (before after : List Error) (data : Table Detail) {e e' : Error} :
      Regroups e e' → Regroups (.group (before ++ e :: after) data)
        (.group (before ++ e' :: after) data)

theorem leavesOf_append (errors more : List Error) :
    leavesOf (errors ++ more) = leavesOf errors ++ leavesOf more := by
  induction errors with
  | nil => rfl
  | cons e errors ih => rw [List.cons_append, leavesOf, leavesOf, ih, List.append_assoc]

theorem Regroups.leaves_eq {e e' : Error} (h : e.Regroups e') : e'.leaves = e.leaves := by
  induction h with
  | members before run after data inner =>
    simp only [leaves, leavesOf, leavesOf_append, List.append_assoc]
  | inside before after data _ ih => simp only [leaves, leavesOf, leavesOf_append, ih]

theorem contains_eq_of_leaves_eq {e e' : Error} (h : e'.leaves = e.leaves) (kind : ErrorKind) :
    e'.contains kind = e.contains kind := by
  rw [contains, contains, h]

/-! ### Places -/

/-- The report at a place of an error.  A place tells, from the outermost group inwards, which
member to go on to. -/
inductive HoldsAt : Error → List Nat → Report → Prop
  | report (r : Report) : HoldsAt (.report r) [] r
  | member {errors : List Error} {data : Table Detail} {i : Nat} {e : Error} {place : List Nat}
      {r : Report} : errors[i]? = some e → HoldsAt e place r →
      HoldsAt (.group errors data) (i :: place) r

/-- These are the reports of an error with their places, all of them, in depth-first order.  The
order is strict: no place comes twice. -/
structure Lists (e : Error) (placed : List (List Nat × Report)) : Prop where
  complete : ∀ place r, (place, r) ∈ placed ↔ e.HoldsAt place r
  ordered : placed.Pairwise fun p q => List.Lex (· < ·) p.1 q.1

mutual

/-- The reports in an error, each with its place. -/
def placed : Error → List (List Nat × Report)
  | .report r => [([], r)]
  | .group errors _ => placedFrom 0 errors

/-- The reports in members of a group, the first of which has the number `i` in it. -/
def placedFrom (i : Nat) : List Error → List (List Nat × Report)
  | [] => []
  | e :: errors => e.placed.map (Prod.map (i :: ·) id) ++ placedFrom (i + 1) errors

end

mutual

theorem map_snd_placed : (e : Error) → e.placed.map Prod.snd = e.leaves
  | .report _ => rfl
  | .group errors _ => map_snd_placedFrom 0 errors

theorem map_snd_placedFrom (i : Nat) :
    (errors : List Error) → (placedFrom i errors).map Prod.snd = leavesOf errors
  | [] => rfl
  | e :: errors => by
    rw [placedFrom, leavesOf, List.map_append, List.map_map, ← map_snd_placed e,
      ← map_snd_placedFrom (i + 1) errors]
    rfl

end

theorem mem_placedFrom_iff {i : Nat} {errors : List Error} {place : List Nat} {r : Report} :
    (place, r) ∈ placedFrom i errors ↔ ∃ j e rest, errors[j]? = some e ∧
      place = (i + j) :: rest ∧ (rest, r) ∈ e.placed := by
  induction errors generalizing i with
  | nil => simp [placedFrom]
  | cons e errors ih =>
    rw [placedFrom, List.mem_append, ih, List.mem_map]
    constructor
    · rintro (⟨⟨rest, r'⟩, hmem, heq⟩ | ⟨j, e', rest, he', rfl, hmem⟩)
      · cases heq
        exact ⟨0, e, rest, rfl, rfl, hmem⟩
      · exact ⟨j + 1, e', rest, he', by rw [Nat.add_right_comm, Nat.add_assoc], hmem⟩
    · rintro ⟨j, e', rest, he', rfl, hmem⟩
      cases j with
      | zero =>
        cases he'
        exact .inl ⟨(rest, r), hmem, rfl⟩
      | succ j => exact .inr ⟨j, e', rest, he', by rw [Nat.add_right_comm, Nat.add_assoc], hmem⟩

theorem mem_placed_iff {e : Error} {place : List Nat} {r : Report} :
    (place, r) ∈ e.placed ↔ e.HoldsAt place r := by
  constructor
  · -- The place, not the error, gets shorter by one at each group.
    intro h
    induction place generalizing e with
    | nil =>
      cases e with
      | report r' =>
        cases List.mem_singleton.mp h
        exact .report r
      | group errors data =>
        obtain ⟨j, e, rest, -, hplace, -⟩ := mem_placedFrom_iff.mp h
        cases hplace
    | cons i place ih =>
      cases e with
      | report r' => cases List.mem_singleton.mp h
      | group errors data =>
        obtain ⟨j, e, rest, he, hplace, hmem⟩ := mem_placedFrom_iff.mp h
        rw [Nat.zero_add] at hplace
        cases hplace
        exact .member he (ih hmem)
  · intro h
    induction h with
    | report r => exact List.mem_singleton.mpr rfl
    | member he _ ih => exact mem_placedFrom_iff.mpr ⟨_, _, _, he, by rw [Nat.zero_add], ih⟩

mutual

theorem ordered_placed :
    (e : Error) → e.placed.Pairwise fun p q => List.Lex (· < ·) p.1 q.1
  | .report _ => List.pairwise_singleton _ _
  | .group errors _ => ordered_placedFrom 0 errors

theorem ordered_placedFrom (i : Nat) :
    (errors : List Error) → (placedFrom i errors).Pairwise fun p q => List.Lex (· < ·) p.1 q.1
  | [] => List.Pairwise.nil
  | e :: errors => by
    rw [placedFrom, List.pairwise_append]
    refine ⟨?_, ordered_placedFrom (i + 1) errors, ?_⟩
    · rw [List.pairwise_map]
      exact (ordered_placed e).imp List.Lex.cons
    · -- The members after this one have greater numbers.
      rintro p hp ⟨place, r⟩ hq
      obtain ⟨q, -, rfl⟩ := List.mem_map.mp hp
      obtain ⟨j, e', rest, -, rfl, -⟩ := mem_placedFrom_iff.mp hq
      exact .rel (by omega)

end

theorem lists_placed (e : Error) : e.Lists e.placed where
  complete _ _ := mem_placed_iff
  ordered := ordered_placed e

theorem mem_leaves_iff {e : Error} {r : Report} :
    r ∈ e.leaves ↔ ∃ place, e.HoldsAt place r := by
  rw [← map_snd_placed, List.mem_map]
  constructor
  · rintro ⟨⟨place, r'⟩, hmem, rfl⟩
    exact ⟨place, mem_placed_iff.mp hmem⟩
  · rintro ⟨place, h⟩
    exact ⟨(place, r), mem_placed_iff.mpr h, rfl⟩

theorem contains_iff {e : Error} {kind : ErrorKind} :
    e.contains kind = true ↔
      ∃ place r, e.HoldsAt place r ∧ (kind = .general ∨ kind = r.kind) := by
  simp only [contains, List.any_eq_true, mem_leaves_iff, ErrorKind.covers_iff]
  constructor
  · rintro ⟨r, ⟨place, h⟩, hk⟩
    exact ⟨place, r, h, hk⟩
  · rintro ⟨place, r, h, hk⟩
    exact ⟨r, ⟨place, h⟩, hk⟩

/-- A further group changes neither the reports of an error nor the kinds it has in it; the reports
are those at its places, in order and each once; and it has a kind in it if one of them is of that
kind. -/
theorem grouping_insensitive (e : Error) :
    (∀ e', e.Regroups e' → e'.leaves = e.leaves ∧
      (∀ kind, e'.contains kind = e.contains kind) ∧ e'.isDefinition = e.isDefinition ∧
      e'.isValue = e.isValue ∧ e'.isRender = e.isRender) ∧
    (∃ placed, e.Lists placed ∧ e.leaves = placed.map Prod.snd) ∧
    ∀ kind, e.contains kind = true ↔
      ∃ place r, e.HoldsAt place r ∧ (kind = .general ∨ kind = r.kind) := by
  refine ⟨fun e' h => ?_, ⟨e.placed, lists_placed e, (map_snd_placed e).symm⟩,
    fun _ => contains_iff⟩
  have hcontains := contains_eq_of_leaves_eq h.leaves_eq
  exact ⟨h.leaves_eq, hcontains, hcontains .definition, hcontains .value, hcontains .render⟩

def threeReports : Error := .group [definition "a", .group [value "b", render "c"] []] []

def threeRegrouped : Error :=
  .group [definition "a", .group [.group [value "b"] [], render "c"] []] []

/-- The first member of the inner group gets a group of its own. -/
theorem grouping_insensitive_threeReports :
    threeReports.Regroups threeRegrouped ∧
      threeRegrouped.leaves = [⟨.definition, "a", []⟩, ⟨.value, "b", []⟩, ⟨.render, "c", []⟩] ∧
      threeRegrouped.isValue = true := by
  have h : threeReports.Regroups threeRegrouped :=
    .inside [definition "a"] [] [] (.members [] [value "b"] [render "c"] [] [])
  obtain ⟨hleaves, -, -, hvalue, -⟩ := (grouping_insensitive threeReports).1 threeRegrouped h
  exact ⟨h, hleaves, hvalue⟩

end Error

end Jenkinsfile
