import Jenkinsfile.Proofs.Script.Inline

/-! The tokens of a text, stretch by stretch: a stretch gives other text and its literals, and the
line end or brace after it is a token of its own, from which on the scan starts anew. -/

namespace Jenkinsfile.Script

theorem structural?_ne_backslash {c : Char} {k : TokenKind} (h : structural? c = some k) :
    c ≠ '\\' := by
  rintro rfl
  cases h

theorem isStop_of_structural {c : Char} {k : TokenKind} (h : structural? c = some k) :
    isStop c = true := by
  simp [isStop, h]

theorem structural?_eq_some {c : Char} {k : TokenKind} (h : structural? c = some k) :
    c = '\x7b' ∧ k = .leftBrace ∨ c = '\x7d' ∧ k = .rightBrace ∨ c = '\n' ∧ k = .lineEnd := by
  simp only [structural?] at h
  split at h
  · exact .inl ⟨‹_›, (Option.some.inj h).symm⟩
  · split at h
    · exact .inr (.inl ⟨‹_›, (Option.some.inj h).symm⟩)
    · split at h
      · exact .inr (.inr ⟨‹_›, (Option.some.inj h).symm⟩)
      · cases h

theorem joinsOther_of_structural {c : Char} {k : TokenKind} (h : structural? c = some k) :
    k.joinsOther = false := by
  obtain ⟨-, rfl⟩ | ⟨-, rfl⟩ | ⟨-, rfl⟩ := structural?_eq_some h <;> rfl

theorem not_isLiteral_of_structural {c : Char} {k : TokenKind} (h : structural? c = some k) :
    k.isLiteral = false := by
  have hj := joinsOther_of_structural h
  rw [TokenKind.joinsOther, Bool.or_eq_false_iff] at hj
  exact hj.2

/-! ### The first token -/

theorem scanFrom_nil (e : Bool) : scanFrom e [] = [] := by rw [scanFrom]

theorem scanFrom_structural {c : Char} {k : TokenKind} (h : structural? c = some k) (e : Bool)
    (cs : List Char) : scanFrom e (c :: cs) = ⟨k, [c]⟩ :: scan cs := by
  rw [scanFrom, nextToken, h]
  simp only [escapesAfter, List.foldl_cons, List.foldl_nil,
    escapes_eq_false (structural?_ne_backslash h), scan]

theorem scanFrom_literal {q : QuoteMark} {c : Char} {cs text rest : List Char} {triple : Bool}
    (hc : QuoteMark.ofChar? c = some q)
    (h : literalToken q c cs = (⟨.literal q triple, text⟩, rest)) :
    scan (c :: cs) = ⟨.literal q triple, text⟩ :: scan rest := by
  rw [scan, scanFrom, nextToken, structural?_of_mark hc, hc]
  simp only [Bool.false_eq_true, if_false, h, Inline.escapesAfter_literal hc h, scan]

theorem scanFrom_cut {q : QuoteMark} {c : Char} {cs : List Char}
    (hc : QuoteMark.ofChar? c = some q) (h : literalToken q c cs = (⟨.other, c :: cs⟩, [])) :
    scan (c :: cs) = [⟨.other, c :: cs⟩] := by
  rw [scan, scanFrom, nextToken, structural?_of_mark hc, hc]
  simp only [Bool.false_eq_true, if_false, h, scanFrom_nil]

theorem scanFrom_plain {e : Bool} {c : Char} (h : Plain e c) (cs : List Char) :
    scanFrom e (c :: cs) = ⟨.other, c :: cs.takeWhile (!isStop ·)⟩ ::
      scanFrom (escapesAfter (escapes e c) (cs.takeWhile (!isStop ·)))
        (cs.dropWhile (!isStop ·)) := by
  rw [scanFrom, nextToken, h.1]
  obtain ⟨-, hq | rfl⟩ := h
  · simp only [hq, otherToken, escapesAfter_cons]
  · cases QuoteMark.ofChar? c <;> simp only [if_true, otherToken, escapesAfter_cons]

theorem scanFrom_plain_stop {e : Bool} {c : Char} (h : Plain e c) {cs : List Char}
    (hs : ∀ d ∈ cs.head?, isStop d = true) :
    scanFrom e (c :: cs) = ⟨.other, [c]⟩ :: scanFrom (escapes e c) cs := by
  rw [scanFrom_plain h]
  match cs with
  | [] => rfl
  | d :: cs =>
    have hd : isStop d = true := hs d rfl
    simp [hd, escapesAfter]

theorem scanFrom_plain_cons {e : Bool} {c d : Char} (h : Plain e c) (hd : isStop d = false)
    (cs : List Char) :
    ∃ t ts, scanFrom (escapes e c) (d :: cs) = ⟨.other, t⟩ :: ts ∧
      scanFrom e (c :: d :: cs) = ⟨.other, c :: t⟩ :: ts := by
  rw [scanFrom_plain h, scanFrom_plain (Plain.of_not_stop hd)]
  simp [hd, escapesAfter_cons]

theorem scanFrom_flatMap_text (e : Bool) (cs : List Char) :
    (scanFrom e cs).flatMap Token.text = cs := by
  fun_induction scanFrom e cs with
  | case1 => rfl
  | case2 e c cs _ r ih => rw [List.flatMap_cons, ih, nextToken_append]

/-! ### Stretches -/

/-- The literals among tokens. -/
def literalsOf (ts : List Token) : List Token := ts.filter (·.kind.isLiteral)

namespace Inline

variable {e closed : Bool} {cs : List Char} {literals : List Token}

/-- A stretch whose literals are closed, before a character that ends other text.  A mark must not
stand right after the same one, since the two could be the start of three. -/
theorem scanFrom_append_stop (h : Inline e cs literals true) {s : Char} (hs : isStop s = true)
    (hlast : [s] <:+ cs → QuoteMark.ofChar? s = none) (ds : List Char) :
    scanFrom e (cs ++ s :: ds) = scanFrom e cs ++ scanFrom (escapesAfter e cs) (s :: ds) := by
  generalize hk : true = closed at h
  induction h with
  | nil => rw [scanFrom_nil, List.nil_append, List.nil_append, escapesAfter, List.foldl_nil]
  | @plain e c cs literals _ hp _ ih =>
    rw [escapesAfter_cons]
    cases cs with
    | nil =>
      rw [List.cons_append, List.nil_append, scanFrom_plain_stop hp (by simpa using hs),
        scanFrom_plain_stop hp (by simp), scanFrom_nil]
      rfl
    | cons d cs =>
      have ih := ih (fun h => hlast (h.trans (List.suffix_cons c _))) hk
      rw [List.cons_append] at ih
      by_cases hd : isStop d = true
      · rw [List.cons_append, List.cons_append, scanFrom_plain_stop hp (by simpa using hd), ih,
          scanFrom_plain_stop hp (by simpa using hd), List.cons_append]
      · have hd : isStop d = false := by simpa using hd
        obtain ⟨t, ts, h₁, h₂⟩ := scanFrom_plain_cons hp hd (cs ++ s :: ds)
        obtain ⟨t', ts', h₁', h₂'⟩ := scanFrom_plain_cons hp hd cs
        rw [h₁, h₁', List.cons_append] at ih
        simp only [List.cons.injEq, Token.mk.injEq, true_and] at ih
        rw [List.cons_append, List.cons_append, h₂, h₂', ih.1, ih.2, List.cons_append]
  | @literal q c cs text rest triple literals _ hc hl _ ih =>
    obtain ⟨init, rfl, rfl⟩ := literalToken_split hl
    have hescapes : escapesAfter false (c :: (init ++ [c] ++ rest)) = escapesAfter false rest := by
      rw [← List.cons_append, escapesAfter_append, escapesAfter_literal hc hl]
    have hhead : (rest ++ s :: ds).head? = some c → rest.head? = some c := fun hh => by
      cases rest with
      | nil =>
        obtain rfl : s = c := by simpa using hh
        rw [hlast ⟨s :: init, by simp⟩] at hc
        cases hc
      | cons => exact hh
    have hih := ih (fun h => hlast (h.trans ⟨c :: (init ++ [c]), rfl⟩)) hk
    rw [hescapes, ← scan, ← scan, scanFrom_literal hc hl, List.cons_append, List.append_assoc,
      scanFrom_literal hc (literalToken_of_append hl hhead), scan, hih, List.cons_append, scan]
  | cut => cases hk

/-- A stretch whose literals are closed, before a line end or a brace. -/
theorem scanFrom_append (h : Inline e cs literals true) {s : Char} {k : TokenKind}
    (hs : structural? s = some k) (ds : List Char) :
    scanFrom e (cs ++ s :: ds) = scanFrom e cs ++ ⟨k, [s]⟩ :: scan ds := by
  have hmark : QuoteMark.ofChar? s = none := by
    cases hq : QuoteMark.ofChar? s with
    | none => rfl
    | some q =>
      rw [structural?_of_mark hq] at hs
      cases hs
  rw [h.scanFrom_append_stop (isStop_of_structural hs) (fun _ => hmark) ds,
    scanFrom_structural hs]

/-- The tokens of a stretch are other text and its literals, and one literal at most that is not
closed, which is other text too. -/
theorem scanFrom_tokens (h : Inline e cs literals closed) :
    (∀ t ∈ scanFrom e cs, t.kind.joinsOther = true) ∧ literalsOf (scanFrom e cs) = literals := by
  induction h with
  | nil => simp [scanFrom_nil, literalsOf]
  | @plain e c cs literals closed hp _ ih =>
    match cs with
    | [] =>
      rw [scanFrom_plain_stop hp (by simp)]
      simpa [literalsOf, TokenKind.isLiteral, TokenKind.joinsOther] using ih
    | d :: cs =>
      by_cases hd : isStop d = true
      · rw [scanFrom_plain_stop hp (by simpa using hd)]
        simpa [literalsOf, TokenKind.isLiteral, TokenKind.joinsOther] using ih
      · obtain ⟨t, ts, h₁, h₂⟩ := scanFrom_plain_cons hp (by simpa using hd) cs
        rw [h₁] at ih
        rw [h₂]
        simpa [literalsOf, TokenKind.isLiteral, TokenKind.joinsOther] using ih
  | literal hc hl _ ih =>
    rw [← scan, scanFrom_literal hc hl, scan]
    simpa [literalsOf, TokenKind.isLiteral, TokenKind.joinsOther] using ih
  | cut hc hl =>
    rw [← scan, scanFrom_cut hc hl]
    simp [literalsOf, TokenKind.isLiteral, TokenKind.joinsOther]

end Inline

/-- Every text is one stretch, or one up to its first line end or brace. -/
theorem exists_inline (e : Bool) (cs : List Char) :
    (∃ literals closed, Inline e cs literals closed) ∨
      ∃ ds s k rest literals, cs = ds ++ s :: rest ∧ structural? s = some k ∧
        Inline e ds literals true := by
  induction hn : cs.length using Nat.strongRecOn generalizing e cs with
  | _ n ih =>
    match cs with
    | [] => exact .inl ⟨[], true, .nil⟩
    | c :: cs =>
      subst hn
      cases hs : structural? c with
      | some k => exact .inr ⟨[], c, k, cs, [], rfl, hs, .nil⟩
      | none =>
        by_cases hp : Plain e c
        · obtain ⟨literals, closed, h⟩ | ⟨ds, s, k, rest, literals, rfl, hs, h⟩ :=
            ih cs.length (by simp) (escapes e c) cs rfl
          · exact .inl ⟨literals, closed, .plain hp h⟩
          · exact .inr ⟨c :: ds, s, k, rest, literals, rfl, hs, .plain hp h⟩
        · -- the character is a mark that opens a literal
          obtain ⟨q, hq⟩ : ∃ q, QuoteMark.ofChar? c = some q := by
            cases hq : QuoteMark.ofChar? c with
            | none => exact absurd ⟨hs, .inl hq⟩ hp
            | some q => exact ⟨q, rfl⟩
          obtain rfl : e = false := by
            cases e with
            | false => rfl
            | true => exact absurd ⟨hs, .inr rfl⟩ hp
          obtain ⟨triple, text, rest, hl⟩ | hl := literalToken_cases q c cs
          · obtain ⟨init, rfl, rfl⟩ := literalToken_split hl
            obtain ⟨literals, closed, h⟩ | ⟨ds, s, k, rest, literals, rfl, hs, h⟩ :=
              ih rest.length (by simp; omega) false rest rfl
            · exact .inl ⟨_, closed, .literal hq hl h⟩
            · refine .inr ⟨c :: (init ++ [c] ++ ds), s, k, rest, _, by simp, hs,
                .literal hq (literalToken_of_append hl fun hh => ?_) h⟩
              match ds with
              | _ :: _ => exact hh
          · exact .inl ⟨[], false, .cut hq hl⟩

/-- Induction on a text, stretch by stretch: the last one, or one before a line end or a brace and
the text after that. -/
@[elab_as_elim]
theorem stretch_induction {motive : List Char → Prop} (cs : List Char)
    (last : ∀ cs literals closed, Inline false cs literals closed → motive cs)
    (mark : ∀ ds s k rest literals, Inline false ds literals true → structural? s = some k →
      motive rest → motive (ds ++ s :: rest)) : motive cs := by
  induction hn : cs.length using Nat.strongRecOn generalizing cs with
  | _ n ih =>
    obtain ⟨literals, closed, h⟩ | ⟨ds, s, k, rest, literals, rfl, hs, h⟩ := exists_inline false cs
    · exact last cs literals closed h
    · have hshort : rest.length < n := by
        rw [← hn, List.length_append, List.length_cons]
        omega
      exact mark ds s k rest literals h hs (ih rest.length hshort rest rfl)

end Jenkinsfile.Script
