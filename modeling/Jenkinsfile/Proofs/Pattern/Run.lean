import Jenkinsfile.Pattern.Search

/-! What patterns match, apart from the order in which the matches are tried.  A loop over single
characters takes any run of them (`run_loop_atom_iff`), an optional part is there or not
(`run_optional_iff`), and a pattern that starts at the start of the text is found there or nowhere
(`search_anchored`). -/

namespace Jenkinsfile.Pattern

variable {flags : Flags} {s : Cursor} {rest : Cursor → Option Cursor}

namespace Cursor

/-- The place after the characters `taken`, with `left` after it. -/
def pass (s : Cursor) (taken left : List Char) : Cursor :=
  { s with before := taken.reverse ++ s.before, after := left }

@[simp] theorem after_pass (s : Cursor) (taken left : List Char) : (s.pass taken left).after = left :=
  rfl

@[simp] theorem after_capture (s : Cursor) (number : Nat) (opening : Cursor) :
    (s.capture number opening).after = s.after := rfl

end Cursor

/-! ### Single parts -/

theorem run_atom_iff {a : Atom} :
    ((Node.atom a).run flags s rest).isSome = true ↔
      ∃ c left, s.after = c :: left ∧ a.holds flags c = true ∧
        (rest (s.pass [c] left)).isSome = true := by
  rw [Node.run]
  cases hs : s.after with
  | nil => simp
  | cons c left =>
    have hpass : s.pass [c] left = s.advance c left := rfl
    simp only [List.cons.injEq]
    constructor
    · intro h
      split at h
      · exact ⟨c, left, ⟨rfl, rfl⟩, ‹_›, h⟩
      · cases h
    · rintro ⟨_, _, ⟨rfl, rfl⟩, hc, hrest⟩
      rwa [if_pos hc]

theorem run_lineFinish_iff (hline : flags.multiline = false) :
    ((Node.anchor .lineFinish).run flags s rest).isSome = true ↔
      (s.after = [] ∨ s.after = ['\n']) ∧ (rest s).isSome = true := by
  rw [Node.run]
  by_cases h : s.after = [] ∨ s.after = ['\n'] <;> simp [Cursor.isAt, hline, h]

theorem run_group_sequence (number : Nat) (items : List Node) :
    (Node.group number (.sequence items)).run flags s rest =
      runAll flags items s fun s' => rest (s'.capture number s) := by
  rw [Node.run, Node.run]

/-! ### Loops -/

/-- Rounds over single characters, with fuel for all that are left: by induction on the fuel, since
each round takes one character and none of them stalls. -/
theorem rounds_atom_iff {a : Atom} {fuel count : Nat} (h : s.after.length < fuel) :
    (rounds ((Node.atom a).run flags) 0 none true rest fuel count false s).isSome = true ↔
      ∃ taken left, s.after = taken ++ left ∧ (∀ c ∈ taken, a.holds flags c = true) ∧
        (rest (s.pass taken left)).isSome = true := by
  induction fuel generalizing s count with
  | zero => omega
  | succ fuel ih =>
    rw [rounds, if_neg (Nat.not_lt_zero count)]
    simp only [Option.all_none, Bool.not_true, Bool.or_false, Bool.false_eq_true, if_false, if_true,
      Option.isSome_or, Bool.or_eq_true, run_atom_iff]
    constructor
    · rintro (⟨c, left, hs, hc, hround⟩ | hrest)
      · have hstalled : ((s.pass [c] left).after.length == s.after.length) = false := by
          simp [hs]
        rw [hstalled, Bool.and_false, ih (by simp [hs] at h ⊢; omega)] at hround
        obtain ⟨taken, left', hleft, htaken, hrest⟩ := hround
        refine ⟨c :: taken, left', ?_, List.forall_mem_cons.mpr ⟨hc, htaken⟩, ?_⟩
        · rw [hs, List.cons_append]
          exact congrArg (c :: ·) hleft
        · simpa [Cursor.pass] using hrest
      · exact ⟨[], s.after, rfl, by simp, hrest⟩
    · rintro ⟨taken, left, hs, htaken, hrest⟩
      cases taken with
      | nil =>
        obtain rfl : s.after = left := hs
        exact .inr hrest
      | cons c taken =>
        obtain ⟨hc, htaken⟩ := List.forall_mem_cons.mp htaken
        refine .inl ⟨c, taken ++ left, hs, hc, ?_⟩
        have hstalled : ((s.pass [c] (taken ++ left)).after.length == s.after.length) = false := by
          simp [hs]
        rw [hstalled, Bool.and_false, ih (by simp [hs] at h ⊢; omega)]
        exact ⟨taken, left, rfl, htaken, by simpa [Cursor.pass] using hrest⟩

/-- A loop over a character takes any number of such characters. -/
theorem run_loop_atom_iff {a : Atom} :
    ((Node.loop 0 none .greedy (.atom a)).run flags s rest).isSome = true ↔
      ∃ taken left, s.after = taken ++ left ∧ (∀ c ∈ taken, a.holds flags c = true) ∧
        (rest (s.pass taken left)).isSome = true := by
  rw [Node.run, loopOf, allRounds, rounds_atom_iff (by omega)]

/-- An optional part is there, or the rest follows at once. -/
theorem run_optional_iff {body : Node} :
    ((Node.loop 0 (some 1) .greedy body).run flags s rest).isSome = true ↔
      (body.run flags s rest).isSome = true ∨ (rest s).isSome = true := by
  have hlast (fuel : Nat) (stalled : Bool) (s' : Cursor) :
      rounds (body.run flags) 0 (some 1) true rest (fuel + 1) 1 stalled s' = rest s' := by
    simp [rounds]
  rw [Node.run, loopOf, allRounds, Nat.zero_add, rounds]
  simp [hlast]

/-! ### Patterns for a whole text -/

theorem run_anchored (hline : flags.multiline = false) (items : List Node) :
    (Node.sequence (.anchor .lineStart :: items)).run flags s rest =
      if s.before.isEmpty then runAll flags items s rest else none := by
  simp [Node.run, runAll, Cursor.isAt, hline]

theorem searchFrom_anchored (hline : flags.multiline = false) (items : List Node)
    {before : List Char} (hb : before ≠ []) (cs : List Char) :
    searchFrom ⟨flags, .sequence (.anchor .lineStart :: items)⟩ before cs = false := by
  have hempty : ¬ before.isEmpty = true := by simpa using hb
  induction cs generalizing before with
  | nil => rw [searchFrom, run_anchored hline, if_neg hempty, Option.isSome_none]
  | cons c cs ih =>
    rw [searchFrom, run_anchored hline, if_neg hempty, Option.isSome_none, Bool.false_or]
    exact ih (List.cons_ne_nil c before) (by simp)

/-- A pattern that starts at the start of a text is found there or nowhere. -/
theorem search_anchored (hline : flags.multiline = false) (items : List Node) (text : String) :
    Expr.search ⟨flags, .sequence (.anchor .lineStart :: items)⟩ text =
      Expr.startsText ⟨flags, .sequence (.anchor .lineStart :: items)⟩ text := by
  rw [Expr.search, Expr.startsText]
  cases text.toList with
  | nil => rfl
  | cons c cs =>
    rw [searchFrom, searchFrom_anchored hline items (List.cons_ne_nil c []), Bool.or_false]

end Jenkinsfile.Pattern
