import Jenkinsfile.Proofs.Script.Literal
import Jenkinsfile.Script.Layout

/-! Stretches of script text without a line end or a brace of their own.  `Inline` reads such a
stretch; every text is one, or one up to its first line end or brace.  What surrounds a stretch
whose literals are all closed does not change how it is read, and blanks at its ends can be taken
away or put there without touching its literals. -/

namespace Jenkinsfile.Script

/-- A character that stands for itself: neither a brace nor a line end, and no mark unless it is
escaped. -/
def Plain (e : Bool) (c : Char) : Prop :=
  structural? c = none ∧ (QuoteMark.ofChar? c = none ∨ e = true)

/-- `Inline e cs literals closed`: the text `cs`, whose first character is escaped if `e` holds, has
no line end or brace outside of its literals.  `literals` are those that are closed in it, and
`closed` tells whether all are; one that is not runs to the end of `cs`. -/
inductive Inline : Bool → List Char → List Token → Bool → Prop
  | nil {e : Bool} : Inline e [] [] true
  | plain {e : Bool} {c : Char} {cs : List Char} {literals : List Token} {closed : Bool} :
      Plain e c → Inline (escapes e c) cs literals closed → Inline e (c :: cs) literals closed
  | literal {q : QuoteMark} {c : Char} {cs text rest : List Char} {triple : Bool}
      {literals : List Token} {closed : Bool} :
      QuoteMark.ofChar? c = some q → literalToken q c cs = (⟨.literal q triple, text⟩, rest) →
      Inline false rest literals closed →
      Inline false (c :: cs) (⟨.literal q triple, text⟩ :: literals) closed
  | cut {q : QuoteMark} {c : Char} {cs : List Char} :
      QuoteMark.ofChar? c = some q → literalToken q c cs = (⟨.other, c :: cs⟩, []) →
      Inline false (c :: cs) [] false

theorem Plain.of_not_mark {e : Bool} {c : Char} (h : structural? c = none)
    (hq : QuoteMark.ofChar? c = none) : Plain e c := ⟨h, .inl hq⟩

theorem Plain.not_mark {c : Char} (h : Plain false c) : QuoteMark.ofChar? c = none :=
  h.2.resolve_right (by simp)

theorem Plain.of_not_stop {e : Bool} {c : Char} (h : isStop c = false) : Plain e c := by
  simp only [isStop, Bool.or_eq_false_iff, Option.isSome_eq_false_iff, Option.isNone_iff_eq_none] at h
  exact .of_not_mark h.1 h.2

/-! ### Blanks -/

theorem isStop_of_isMargin {c : Char} (h : isMargin c = true) : isStop c = false := by
  simp only [isMargin, Bool.or_eq_true, beq_iff_eq] at h
  rcases h with rfl | rfl <;> rfl

theorem isBlank_of_isMargin {c : Char} (h : isMargin c = true) : Text.isBlank c = true := by
  simp only [isMargin, Bool.or_eq_true, beq_iff_eq] at h
  rcases h with rfl | rfl <;> rfl

theorem not_isBlank_of_mark {c : Char} {q : QuoteMark} (h : QuoteMark.ofChar? c = some q) :
    Text.isBlank c = false := by
  rw [QuoteMark.ofChar?_eq_some.mp h]
  cases q <;> rfl

theorem not_mark_of_isBlank {c : Char} (h : Text.isBlank c = true) :
    QuoteMark.ofChar? c = none := by
  cases hq : QuoteMark.ofChar? c with
  | none => rfl
  | some q => rw [not_isBlank_of_mark hq] at h; cases h

theorem not_isMargin_of_mark {c : Char} (h : QuoteMark.ofChar? c ≠ none) : isMargin c = false := by
  cases hm : isMargin c with
  | false => rfl
  | true => exact absurd (not_mark_of_isBlank (isBlank_of_isMargin hm)) h

theorem isMargin_of_mem_indent {w : Nat} {d : Int} {c : Char} (h : c ∈ indent w d) :
    isMargin c = true := by
  rw [List.eq_of_mem_replicate h]
  rfl

theorem escapes_blank {e : Bool} {c : Char} (h : Text.isBlank c = true) : escapes e c = false := by
  apply escapes_eq_false
  rintro rfl
  revert h
  decide

/-! ### Joining and cutting -/

namespace Inline

variable {e closed : Bool} {cs ds : List Char} {literals more : List Token}

theorem of_not_stop (h : ∀ c ∈ cs, isStop c = false) : Inline e cs [] true := by
  induction cs generalizing e with
  | nil => exact nil
  | cons c cs ih =>
    exact plain (.of_not_stop (h c List.mem_cons_self))
      (ih fun d hd => h d (List.mem_cons_of_mem _ hd))

/-- The text right after a closed literal is not escaped. -/
theorem escapesAfter_literal {q : QuoteMark} {c : Char} {text rest : List Char} {triple : Bool}
    (hq : QuoteMark.ofChar? c = some q)
    (h : literalToken q c cs = (⟨.literal q triple, text⟩, rest)) : escapesAfter e text = false := by
  obtain ⟨init, rfl⟩ := literalToken_ends h
  rw [← List.cons_append, escapesAfter_append]
  exact escapes_eq_false (ne_backslash_of_mark hq)

/-- A stretch whose literals are closed, before another one that starts with no mark. -/
theorem append (h : Inline e cs literals true) (hd : Inline (escapesAfter e cs) ds more closed)
    (hq : ∀ d ∈ ds.head?, QuoteMark.ofChar? d = none) :
    Inline e (cs ++ ds) (literals ++ more) closed := by
  generalize hk : true = k at h
  induction h with
  | nil => exact hd
  | plain hp _ ih => exact plain hp (ih hd hk)
  | @literal q c cs text rest triple literals _ hc hl _ ih =>
    obtain ⟨init, rfl, rfl⟩ := literalToken_split hl
    have hrest : Inline (escapesAfter false rest) ds more closed := by
      rw [← List.cons_append, escapesAfter_append, escapesAfter_literal hc hl] at hd
      exact hd
    rw [List.cons_append, List.append_assoc]
    refine literal hc (literalToken_of_append hl fun hh => ?_) (ih hrest hk)
    match rest with
    | [] =>
      rw [hq c (by simpa using hh)] at hc
      cases hc
    | a :: rest => simpa using hh
  | cut => cases hk

theorem of_no_mark (h : Inline e cs literals closed)
    (hq : ∀ c ∈ cs, QuoteMark.ofChar? c = none) : literals = [] ∧ closed = true := by
  induction h with
  | nil => exact ⟨rfl, rfl⟩
  | plain _ _ ih => exact ih fun d hd => hq d (List.mem_cons_of_mem _ hd)
  | literal hc | cut hc => rw [hq _ List.mem_cons_self] at hc; cases hc

theorem ne_of_mark {q : QuoteMark} {c : Char} (hc : QuoteMark.ofChar? c = some q)
    (hq : ∀ d ∈ ds, QuoteMark.ofChar? d = none) : ∀ d ∈ ds, d ≠ c := by
  rintro d hd rfl
  rw [hq d hd] at hc
  cases hc

/-- A stretch without what comes after its last mark. -/
theorem of_append (h : Inline e (cs ++ ds) literals closed)
    (hq : ∀ d ∈ ds, QuoteMark.ofChar? d = none) : Inline e cs literals closed := by
  -- the induction is on the whole stretch, so where `ds` starts in it is left open
  generalize hw : cs ++ ds = whole at h
  induction h generalizing cs with
  | nil =>
    obtain ⟨rfl, -⟩ := List.append_eq_nil_iff.mp hw
    exact nil
  | @plain e c tail literals closed hp h ih =>
    match cs with
    | [] =>
      obtain rfl : ds = c :: tail := hw
      obtain ⟨rfl, rfl⟩ := h.of_no_mark fun d hd => hq d (List.mem_cons_of_mem _ hd)
      exact nil
    | _ :: cs =>
      obtain ⟨rfl, rfl⟩ : _ = c ∧ cs ++ ds = tail := by simpa using hw
      exact plain hp (ih rfl)
  | @literal q c tail text rest triple literals closed hc hl _ ih =>
    match cs with
    | [] =>
      obtain rfl : ds = c :: tail := hw
      rw [hq c List.mem_cons_self] at hc
      cases hc
    | _ :: cs =>
      obtain ⟨rfl, rfl⟩ : _ = c ∧ cs ++ ds = tail := by simpa using hw
      rename_i c
      obtain ⟨_, _, rest', hl', hl₂⟩ | ⟨-, hl₂⟩ := literalToken_append_cases q cs (ne_of_mark hc hq)
      · rw [hl] at hl₂
        simp only [Prod.mk.injEq, Token.mk.injEq, TokenKind.literal.injEq, true_and] at hl₂
        obtain ⟨⟨rfl, rfl⟩, rfl⟩ := hl₂
        exact literal hc hl' (ih rfl)
      · rw [hl] at hl₂
        simp at hl₂
  | @cut q c tail hc hl =>
    match cs with
    | [] =>
      obtain rfl : ds = c :: tail := hw
      rw [hq c List.mem_cons_self] at hc
      cases hc
    | _ :: cs =>
      obtain ⟨rfl, rfl⟩ : _ = c ∧ cs ++ ds = tail := by simpa using hw
      obtain ⟨_, _, rest', -, hl₂⟩ | ⟨hl', -⟩ := literalToken_append_cases q cs (ne_of_mark hc hq)
      · rw [hl] at hl₂
        simp at hl₂
      · exact cut hc hl'

/-- A stretch without blanks at its end. -/
theorem of_append_blanks {text : List Char} (h : Inline e cs literals closed) (hcs : cs = text ++ ds)
    (hb : ∀ d ∈ ds, Text.isBlank d = true) : Inline e text literals closed := by
  subst hcs
  exact h.of_append fun d hd => not_mark_of_isBlank (hb d hd)

end Inline

end Jenkinsfile.Script
