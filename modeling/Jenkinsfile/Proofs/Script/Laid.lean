import Jenkinsfile.Proofs.Script.Piece

/-! The layout of pieces as a relation.  `Laid` lists the lines that a layout is made of, and
`lay_laid` says that every layout is made of them. -/

namespace Jenkinsfile.Script

/-- `Laid w d ts cs`: the pieces `ts` are laid out as `cs` from the start of a line at depth `d`. -/
inductive Laid (w : Nat) : Int → List Token → List Char → Prop
  | nil {d : Int} : Laid w d [] []
  | skip {d : Int} {ts : List Token} {cs : List Char} :
      Laid w d ts cs → Laid w d (⟨.lineEnd, ['\n']⟩ :: ts) cs
  | last {d : Int} {text : List Char} :
      Laid w d [⟨.other, text⟩] (indent w d ++ written true none text)
  | text {d : Int} {text : List Char} {ts : List Token} {cs : List Char} {k : TokenKind} :
      ts.head?.map Token.kind = some k → k.endsLine = true → Laid w d ts cs →
      Laid w d (⟨.other, text⟩ :: ts) (indent w d ++ (written true (some k) text ++ '\n' :: cs))
  | opens {d : Int} {ts : List Token} {cs : List Char} :
      Laid w (d + 1) ts cs →
      Laid w d (⟨.leftBrace, ['\x7b']⟩ :: ts) (indent w d ++ '\x7b' :: '\n' :: cs)
  | textOpens {d : Int} {text : List Char} {ts : List Token} {cs : List Char} :
      Laid w (d + 1) ts cs →
      Laid w d (⟨.other, text⟩ :: ⟨.leftBrace, ['\x7b']⟩ :: ts)
        (indent w d ++ (written true (some .leftBrace) text ++ '\x7b' :: '\n' :: cs))
  | closes {d : Int} {ts : List Token} {cs : List Char} :
      ts.head?.map Token.kind ≠ some .leftBrace → Laid w (d - 1) ts cs →
      Laid w d (⟨.rightBrace, ['\x7d']⟩ :: ts) (indent w (d - 1) ++ '\x7d' :: '\n' :: cs)
  | reopens {d : Int} {ts : List Token} {cs : List Char} :
      Laid w d ts cs →
      Laid w d (⟨.rightBrace, ['\x7d']⟩ :: ⟨.leftBrace, ['\x7b']⟩ :: ts)
        (indent w (d - 1) ++ '\x7d' :: '\x7b' :: '\n' :: cs)

/-! ### What the layout writes from a line end on -/

section Steps

variable {w : Nat} {d : Int} {ts : List Token} {text : List Char}

/-- The layout of pieces that come after a line end at depth `d`. -/
def layLines (w : Nat) (d : Int) (ts : List Token) : List Char :=
  (layFrom w ⟨d, false, true⟩ (⟨.lineEnd, ['\n']⟩ :: ts)).1

theorem layFrom_cons_fst (p : Place) (t : Token) :
    (layFrom w p (t :: ts)).1 = (layToken w p t (ts.head?.map Token.kind)).1 ++
      (layFrom w (layToken w p t (ts.head?.map Token.kind)).2 ts).1 := rfl

theorem layLines_nil : layLines w d [] = ['\n'] := rfl

/-- A line end writes nothing before a line end or a brace that starts its line. -/
theorem layLines_of_endsLine {t : Token} (h : t.kind.endsLine = true) :
    layLines w d (t :: ts) = (layFrom w ⟨d, false, true⟩ (t :: ts)).1 := by
  rw [layLines, layFrom]
  simp [layToken, h]

theorem layLines_lineEnd : layLines w d (⟨.lineEnd, ['\n']⟩ :: ts) = layLines w d ts :=
  layLines_of_endsLine rfl

/-- Anything else starts a line. -/
theorem layLines_of_not_endsLine {t : Token} (h : t.kind.endsLine = false) :
    layLines w d (t :: ts) =
      '\n' :: (indent w d ++ (layFrom w ⟨d, true, true⟩ (t :: ts)).1) := by
  rw [layLines, layFrom]
  simp [layToken, h, lineBreak]

/-- A brace that opens a block ends its line. -/
theorem layFrom_leftBrace (p : Place) :
    (layFrom w p (⟨.leftBrace, ['\x7b']⟩ :: ts)).1 = '\x7b' :: layLines w (p.depth + 1) ts := by
  rw [layFrom]
  cases ts with
  | nil => rfl
  | cons t ts =>
    cases h : t.kind.endsLine with
    | true => simp [layLines_of_endsLine h, layToken, h]
    | false => simp [layLines_of_not_endsLine h, layToken, h, lineBreak]

/-- A brace that closes a block ends its line unless another block is opened at once. -/
theorem layFrom_rightBrace (atLineStart : Bool) (h : ts.head?.map Token.kind ≠ some .leftBrace) :
    (layFrom w ⟨d, atLineStart, true⟩ (⟨.rightBrace, ['\x7d']⟩ :: ts)).1 =
      '\n' :: (indent w (d - 1) ++ '\x7d' :: layLines w (d - 1) ts) := by
  rw [layFrom]
  cases ts with
  | nil => simp [layToken, layLines_nil, layFrom]
  | cons t ts =>
    cases he : t.kind.endsLine with
    | true =>
      have hj : t.kind.joinsOther = false := by
        cases hk : t.kind <;> simp_all [TokenKind.endsLine, TokenKind.joinsOther,
          TokenKind.isLiteral]
      simp [layLines_of_endsLine he, layToken, hj]
    | false =>
      have hj : t.kind.joinsOther = true := by
        cases hk : t.kind <;> simp_all [TokenKind.endsLine, TokenKind.joinsOther,
          TokenKind.isLiteral]
      simp [layLines_of_not_endsLine he, layToken, hj, lineBreak]

theorem layFrom_rightBrace_leftBrace (atLineStart : Bool) :
    (layFrom w ⟨d, atLineStart, true⟩
        (⟨.rightBrace, ['\x7d']⟩ :: ⟨.leftBrace, ['\x7b']⟩ :: ts)).1 =
      '\n' :: (indent w (d - 1) ++ '\x7d' :: '\x7b' :: layLines w d ts) := by
  rw [layFrom_cons_fst, layFrom_leftBrace]
  simp [layToken, TokenKind.joinsOther, TokenKind.isLiteral]

theorem layFrom_text (p : Place) :
    (layFrom w p (⟨.other, text⟩ :: ts)).1 =
      written p.atLineStart (ts.head?.map Token.kind) text ++
        (layFrom w ⟨p.depth, false, true⟩ ts).1 := by
  rw [layFrom, layToken_other]

end Steps

/-- A layout is laid out so, after the line end before it. -/
theorem Laid.layLines_eq {w : Nat} {d : Int} {ts : List Token} {cs : List Char}
    (h : Laid w d ts cs) : layLines w d ts = '\n' :: cs := by
  induction h with
  | nil => rfl
  | skip _ ih => rw [layLines_lineEnd, ih]
  | last => rw [layLines_of_not_endsLine rfl, layFrom_text]; simp [layFrom]
  | @text d text ts cs k hk he _ ih =>
    obtain ⟨t, ts, rfl⟩ : ∃ t us, ts = t :: us := by
      cases ts with
      | nil => cases hk
      | cons t us => exact ⟨t, us, rfl⟩
    obtain rfl : t.kind = k := by simpa using hk
    rw [layLines_of_not_endsLine rfl, layFrom_text, ← layLines_of_endsLine he, ih]
    rfl
  | opens _ ih => rw [layLines_of_not_endsLine rfl, layFrom_leftBrace, ih]
  | textOpens _ ih => rw [layLines_of_not_endsLine rfl, layFrom_text, layFrom_leftBrace, ih]; rfl
  | closes hk _ ih => rw [layLines_of_endsLine rfl, layFrom_rightBrace _ hk, ih]
  | reopens _ ih => rw [layLines_of_endsLine rfl, layFrom_rightBrace_leftBrace, ih]

/-- The layout of pieces is the only one. -/
theorem Laid.unique {w : Nat} {d : Int} {ts : List Token} {cs ds : List Char}
    (h : Laid w d ts cs) (h' : Laid w d ts ds) : cs = ds :=
  (List.cons.inj (h.layLines_eq.symm.trans h'.layLines_eq)).2

theorem Fit.exists_laid (w : Nat) {ts : List Token} (h : Fit ts) (d : Int) :
    ∃ cs, Laid w d ts cs := by
  induction h generalizing d with
  | nil => exact ⟨[], .nil⟩
  | @mark c k ts hc h ih =>
    obtain ⟨rfl, rfl⟩ | ⟨rfl, rfl⟩ | ⟨rfl, rfl⟩ := structural?_eq_some hc
    · obtain ⟨cs, hcs⟩ := ih (d + 1)
      exact ⟨_, .opens hcs⟩
    · obtain ⟨cs, hcs⟩ := ih (d - 1)
      by_cases hk : ts.head?.map Token.kind = some .leftBrace
      · -- the block that is opened at once starts on this line
        cases hcs with
        | opens hcs => exact ⟨_, .reopens (by simpa using hcs)⟩
        | nil | skip | last | text | textOpens | closes | reopens => simp at hk
      · exact ⟨_, .closes hk hcs⟩
    · obtain ⟨cs, hcs⟩ := ih d
      exact ⟨cs, .skip hcs⟩
  | last => exact ⟨_, .last⟩
  | text _ _ hc _ ih =>
    obtain ⟨cs, hcs⟩ := ih d
    obtain ⟨rfl, rfl⟩ | ⟨rfl, rfl⟩ | ⟨rfl, rfl⟩ := structural?_eq_some hc
    · cases hcs with
      | opens hcs => exact ⟨_, .textOpens hcs⟩
    · exact ⟨_, .text rfl rfl hcs⟩
    · exact ⟨_, .text rfl rfl hcs⟩

/-- A text is laid out as it would be after a line end at depth zero, but for that line end. -/
theorem layLines_zero (w : Nat) (ts : List Token) :
    layLines w 0 ts = '\n' :: (layFrom w ⟨0, true, false⟩ ts).1 := by
  induction ts with
  | nil => rfl
  | cons t ts ih =>
    obtain ⟨k, text⟩ := t
    cases k with
    | lineEnd =>
      have : layLines w 0 (⟨.lineEnd, text⟩ :: ts) = layLines w 0 ts := by
        rw [layLines_of_endsLine rfl]
        rfl
      rw [this, ih, layFrom]
      simp [layToken]
    | rightBrace =>
      rw [layLines_of_endsLine rfl]
      simp only [layFrom_cons_fst, layToken]
      cases ts.head?.map Token.kind with
      | none => simp
      | some k => by_cases hj : k.joinsOther = true <;> simp [hj]
    | leftBrace | other | literal =>
      rw [layLines_of_not_endsLine rfl]
      simp [layFrom, layToken, indent]

/-- Every layout is laid out line by line. -/
theorem lay_laid (w : Nat) (cs : List Char) : Laid w 0 (pieces cs) (lay w cs).1 := by
  obtain ⟨ds, h⟩ := (fit_pieces cs).exists_laid w 0
  have heq := h.layLines_eq
  rw [layLines_zero, ← layFrom_pieces] at heq
  obtain rfl : (lay w cs).1 = ds := (List.cons.inj heq).2
  exact h

end Jenkinsfile.Script
