import Jenkinsfile.Script.Token

/-! How a literal is read: where it ends depends on the text up to its last mark only, except that
two marks open a literal of three if a third one follows. -/

namespace Jenkinsfile.Script

theorem QuoteMark.ofChar?_eq_some {c : Char} {q : QuoteMark} :
    QuoteMark.ofChar? c = some q ↔ c = q.char := by
  cases q <;> simp only [QuoteMark.ofChar?, QuoteMark.char] <;> split <;> simp_all

theorem structural?_char (q : QuoteMark) : structural? q.char = none := by
  cases q <;> rfl

theorem structural?_of_mark {c : Char} {q : QuoteMark} (h : QuoteMark.ofChar? c = some q) :
    structural? c = none := by
  rw [QuoteMark.ofChar?_eq_some.mp h, structural?_char]

theorem ne_backslash_of_mark {c : Char} {q : QuoteMark} (h : QuoteMark.ofChar? c = some q) :
    c ≠ '\\' := by
  rw [QuoteMark.ofChar?_eq_some.mp h]
  cases q <;> decide

theorem escapes_eq_false {e : Bool} {c : Char} (h : c ≠ '\\') : escapes e c = false := by
  simp [escapes, h]

theorem escapesAfter_cons (e : Bool) (c : Char) (cs : List Char) :
    escapesAfter e (c :: cs) = escapesAfter (escapes e c) cs := rfl

theorem escapesAfter_append (e : Bool) (cs ds : List Char) :
    escapesAfter e (cs ++ ds) = escapesAfter (escapesAfter e cs) ds := by
  simp [escapesAfter]

/-! ### Closing marks -/

theorem length_of_closeTriple? {q : Char} {e : Bool} {cs body rest : List Char}
    (h : closeTriple? q e cs = some (body, rest)) : 3 ≤ body.length := by
  induction cs generalizing e body with
  | nil => simp [closeTriple?] at h
  | cons c cs ih =>
    rw [closeTriple?] at h
    split at h
    · rename_i hs
      simp only [Option.some.injEq, Prod.mk.injEq] at h
      obtain ⟨rfl, -⟩ := h
      rcases cs with _ | ⟨_, _ | ⟨_, cs⟩⟩
      · simp [startsTriple] at hs
      · simp [startsTriple] at hs
      · simp
    · simp only [Option.map_eq_some_iff, Prod.mk.injEq] at h
      obtain ⟨⟨body', _⟩, h', rfl, rfl⟩ := h
      have := ih h'
      simp only [List.length_cons]
      omega

/-- What follows three marks or other characters does not matter to whether they are marks. -/
theorem startsTriple_append {q : Char} {cs : List Char} (h : 3 ≤ cs.length) (ds : List Char) :
    startsTriple q (cs ++ ds) = startsTriple q cs := by
  match cs with
  | [] | [_] | [_, _] => simp at h
  | _ :: _ :: _ :: _ => rfl

theorem startsTriple_append_of_ne {q : Char} {ds : List Char} (h : ∀ d ∈ ds, d ≠ q)
    (cs : List Char) : startsTriple q (cs ++ ds) = startsTriple q cs := by
  match cs, ds with
  | cs, [] => rw [List.append_nil]
  | [], [_] | [], [_, _] | [_], [_] => rfl
  | [], a :: _ :: _ :: _ | [_], a :: _ :: _ | [_, _], a :: _ => simp [startsTriple, h a]
  | _ :: _ :: _ :: _, _ => rfl

theorem closeSingle?_of_append {q : Char} {e : Bool} {cs body rest : List Char}
    (h : closeSingle? q e cs = some (body, rest)) (rest' : List Char) :
    closeSingle? q e (body ++ rest') = some (body, rest') := by
  induction cs generalizing e body with
  | nil => simp [closeSingle?] at h
  | cons c cs ih =>
    rw [closeSingle?] at h
    split at h
    · rename_i hc
      simp only [Option.some.injEq, Prod.mk.injEq] at h
      obtain ⟨rfl, -⟩ := h
      simp [closeSingle?, hc]
    · rename_i hc
      simp only [Option.map_eq_some_iff, Prod.mk.injEq] at h
      obtain ⟨⟨body', _⟩, h', rfl, rfl⟩ := h
      simp [closeSingle?, hc, ih h']

theorem closeTriple?_of_append {q : Char} {e : Bool} {cs body rest : List Char}
    (h : closeTriple? q e cs = some (body, rest)) (rest' : List Char) :
    closeTriple? q e (body ++ rest') = some (body, rest') := by
  induction cs generalizing e body with
  | nil => simp [closeTriple?] at h
  | cons c cs ih =>
    have hcs := closeTriple?_append h
    have hlen := length_of_closeTriple? h
    rw [closeTriple?] at h
    split at h
    · rename_i hc
      simp only [Option.some.injEq, Prod.mk.injEq] at h
      obtain ⟨rfl, -⟩ := h
      rcases cs with _ | ⟨a, _ | ⟨b, cs⟩⟩
      · simp [startsTriple] at hc
      · simp [startsTriple] at hc
      · simp_all [closeTriple?, startsTriple]
    · rename_i hc
      simp only [Option.map_eq_some_iff, Prod.mk.injEq] at h
      obtain ⟨⟨body', _⟩, h', rfl, rfl⟩ := h
      have hs : startsTriple q (c :: (body' ++ rest')) = startsTriple q (c :: cs) := by
        rw [← List.cons_append, startsTriple_append hlen, ← hcs, startsTriple_append hlen]
      simp [closeTriple?, hs, hc, ih h']

theorem closeSingle?_append_of_ne {q : Char} {e : Bool} {cs ds : List Char}
    (h : closeSingle? q e cs = none) (hd : ∀ d ∈ ds, d ≠ q) : closeSingle? q e (cs ++ ds) = none := by
  induction cs generalizing e with
  | nil =>
    clear h
    induction ds generalizing e with
    | nil => rfl
    | cons d ds ih =>
      have := ih (e := escapes e d) fun a ha => hd a (List.mem_cons_of_mem _ ha)
      simp_all [closeSingle?]
  | cons c cs ih =>
    simp only [closeSingle?, List.cons_append] at h ⊢
    split at h
    · simp at h
    · rename_i hc
      rw [if_neg hc, ih (by simpa using h), Option.map_none]

theorem closeTriple?_append_of_ne {q : Char} {e : Bool} {cs ds : List Char}
    (h : closeTriple? q e cs = none) (hd : ∀ d ∈ ds, d ≠ q) : closeTriple? q e (cs ++ ds) = none := by
  induction cs generalizing e with
  | nil =>
    clear h
    induction ds generalizing e with
    | nil => rfl
    | cons d ds ih =>
      have hs := startsTriple_append_of_ne hd []
      have := ih (e := escapes e d) fun a ha => hd a (List.mem_cons_of_mem _ ha)
      simp_all [closeTriple?, startsTriple]
  | cons c cs ih =>
    simp only [closeTriple?, List.cons_append] at h ⊢
    rw [← List.cons_append, startsTriple_append_of_ne hd]
    split at h
    · simp at h
    · rename_i hc
      rw [if_neg hc, ih (by simpa using h), Option.map_none]

/-! ### Literals -/

/-- A literal is closed, or runs to the end of the text as other text. -/
theorem literalToken_cases (q : QuoteMark) (c : Char) (cs : List Char) :
    (∃ triple text rest, literalToken q c cs = (⟨.literal q triple, text⟩, rest)) ∨
      literalToken q c cs = (⟨.other, c :: cs⟩, []) := by
  unfold literalToken
  split <;> split <;> simp

theorem closeSingle?_ends {q : Char} {e : Bool} {cs body rest : List Char}
    (h : closeSingle? q e cs = some (body, rest)) : ∃ init, body = init ++ [q] := by
  induction cs generalizing e body with
  | nil => simp [closeSingle?] at h
  | cons c cs ih =>
    rw [closeSingle?] at h
    split at h
    · rename_i hc
      simp only [Option.some.injEq, Prod.mk.injEq] at h
      obtain ⟨rfl, -⟩ := h
      exact ⟨[], by simp_all⟩
    · simp only [Option.map_eq_some_iff, Prod.mk.injEq] at h
      obtain ⟨⟨body', _⟩, h', rfl, rfl⟩ := h
      obtain ⟨init, rfl⟩ := ih h'
      exact ⟨c :: init, rfl⟩

theorem closeTriple?_ends {q : Char} {e : Bool} {cs body rest : List Char}
    (h : closeTriple? q e cs = some (body, rest)) : ∃ init, body = init ++ [q] := by
  induction cs generalizing e body with
  | nil => simp [closeTriple?] at h
  | cons c cs ih =>
    rw [closeTriple?] at h
    split at h
    · rename_i hc
      simp only [Option.some.injEq, Prod.mk.injEq] at h
      obtain ⟨rfl, -⟩ := h
      rcases cs with _ | ⟨a, _ | ⟨b, cs⟩⟩
      · simp [startsTriple] at hc
      · simp [startsTriple] at hc
      · exact ⟨[c, a], by simp_all [startsTriple]⟩
    · simp only [Option.map_eq_some_iff, Prod.mk.injEq] at h
      obtain ⟨⟨body', _⟩, h', rfl, rfl⟩ := h
      obtain ⟨init, rfl⟩ := ih h'
      exact ⟨c :: init, rfl⟩

/-- A closed literal starts and ends with its mark. -/
theorem literalToken_ends {q : QuoteMark} {c : Char} {cs text rest : List Char} {triple : Bool}
    (h : literalToken q c cs = (⟨.literal q triple, text⟩, rest)) :
    ∃ init, text = c :: (init ++ [c]) := by
  unfold literalToken at h
  split at h
  · split at h
    · rename_i hc
      obtain ⟨init, rfl⟩ := closeTriple?_ends hc
      exact ⟨cs.take 2 ++ init, by simp_all⟩
    · simp at h
  · split at h
    · rename_i hc
      obtain ⟨init, rfl⟩ := closeSingle?_ends hc
      exact ⟨init, by simp_all⟩
    · simp at h

theorem literalToken_split {q : QuoteMark} {c : Char} {cs text rest : List Char} {triple : Bool}
    (h : literalToken q c cs = (⟨.literal q triple, text⟩, rest)) :
    ∃ init, text = c :: (init ++ [c]) ∧ cs = init ++ [c] ++ rest := by
  obtain ⟨init, rfl⟩ := literalToken_ends h
  have htext := literalToken_append q c cs
  rw [h] at htext
  exact ⟨init, rfl, by simpa using htext.symm⟩

/-- A closed literal is read in the same way before any other text, unless that text starts with a
mark where the old one did not. -/
theorem literalToken_of_append {q : QuoteMark} {c : Char} {cs body rest : List Char}
    {triple : Bool} (h : literalToken q c cs = (⟨.literal q triple, c :: body⟩, rest))
    {rest' : List Char} (hr : rest'.head? = some c → rest.head? = some c) :
    literalToken q c (body ++ rest') = (⟨.literal q triple, c :: body⟩, rest') := by
  unfold literalToken at h
  split at h
  · rename_i hs
    match cs with
    | [] | [_] => simp [startsTriple] at hs
    | a :: b :: cs =>
      split at h
      · rename_i tail rest₀ hc
        simp only [Prod.mk.injEq, Token.mk.injEq, TokenKind.literal.injEq, List.take_succ_cons,
          List.take_zero, List.cons_append, List.nil_append, List.cons.injEq, true_and] at h
        obtain ⟨⟨rfl, rfl⟩, rfl⟩ := h
        simp only [List.drop_succ_cons, List.drop_zero] at hc
        have hs' : startsTriple c (c :: a :: b :: (tail ++ rest')) = true := hs
        simp [literalToken, hs', closeTriple?_of_append hc]
      · simp at h
  · rename_i hs
    split at h
    · rename_i tail rest₀ hc
      simp only [Prod.mk.injEq, Token.mk.injEq, TokenKind.literal.injEq, List.cons.injEq,
        true_and] at h
      obtain ⟨⟨rfl, rfl⟩, rfl⟩ := h
      rw [← closeSingle?_append hc] at hs
      obtain ⟨init, rfl⟩ := closeSingle?_ends hc
      have hs' : ¬startsTriple c (c :: (init ++ [c] ++ rest')) = true := by
        intro ht
        apply hs
        match init with
        | [] =>
          match rest' with
          | [] => simp [startsTriple] at ht
          | a :: rest' =>
            have ha : a = c := by simpa [startsTriple] using ht
            obtain ⟨ds, rfl⟩ := List.head?_eq_some_iff.mp (hr (by rw [ha, List.head?_cons]))
            simp [startsTriple]
        | a :: init =>
          have hlen : 3 ≤ (c :: (a :: init ++ [c])).length := by simp
          rw [← List.cons_append, startsTriple_append hlen] at ht
          rw [← List.cons_append, startsTriple_append hlen, ht]
      rw [literalToken, if_neg hs', closeSingle?_of_append hc]
    · simp at h

/-- A literal that nothing closes is not closed by further text without a mark. -/
theorem literalToken_append_of_ne {q : QuoteMark} {c : Char} {cs ds : List Char}
    (h : literalToken q c cs = (⟨.other, c :: cs⟩, [])) (hd : ∀ d ∈ ds, d ≠ c) :
    literalToken q c (cs ++ ds) = (⟨.other, c :: (cs ++ ds)⟩, []) := by
  have hs := startsTriple_append_of_ne hd (c :: cs)
  unfold literalToken at h ⊢
  rw [← List.cons_append, hs]
  split at h
  · rename_i ht
    match cs with
    | [] | [_] => simp [startsTriple] at ht
    | a :: b :: cs =>
      split at h
      · simp at h
      · rename_i hc
        rw [if_pos ht]
        simp only [List.cons_append, List.drop_succ_cons, List.drop_zero] at hc ⊢
        rw [closeTriple?_append_of_ne hc hd]
  · rename_i ht
    split at h
    · simp at h
    · rename_i hc
      rw [if_neg ht, closeSingle?_append_of_ne hc hd, List.cons_append]

/-- Text without the mark after a literal changes nothing but what comes after the literal. -/
theorem literalToken_append_cases (q : QuoteMark) {c : Char} (cs : List Char) {ds : List Char}
    (hd : ∀ d ∈ ds, d ≠ c) :
    (∃ triple text rest, literalToken q c cs = (⟨.literal q triple, text⟩, rest) ∧
      literalToken q c (cs ++ ds) = (⟨.literal q triple, text⟩, rest ++ ds)) ∨
    (literalToken q c cs = (⟨.other, c :: cs⟩, []) ∧
      literalToken q c (cs ++ ds) = (⟨.other, c :: (cs ++ ds)⟩, [])) := by
  obtain ⟨triple, text, rest, h⟩ | h := literalToken_cases q c cs
  · obtain ⟨init, rfl, rfl⟩ := literalToken_split h
    refine .inl ⟨triple, _, rest, h, ?_⟩
    rw [List.append_assoc]
    refine literalToken_of_append h fun hh => ?_
    match rest with
    | [] => exact absurd rfl (hd c (List.mem_of_head? hh))
    | _ :: _ => exact hh
  · exact .inr ⟨h, literalToken_append_of_ne h hd⟩

end Jenkinsfile.Script
