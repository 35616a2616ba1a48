import Jenkinsfile.Proofs.Script.Laid

/-! What a layout keeps: the braces and literals of a text, its characters other than white space,
and the depth at its end.  The main statement is `format_landmarks`. -/

namespace Jenkinsfile.Script

/-- The braces and the literals among tokens: what gives a script its structure. -/
def landmarks (ts : List Token) : List Token :=
  ts.filter fun t => t.kind = .leftBrace || t.kind = .rightBrace || t.kind.isLiteral

/-- The number of left braces less that of right braces. -/
def balance (ts : List Token) : Int :=
  (ts.countP (·.kind = .leftBrace) : Int) - ts.countP (·.kind = .rightBrace)

/-- The landmarks in pieces: a piece of text has those of its own tokens. -/
def pieceLandmarks (ts : List Token) : List Token :=
  ts.flatMap fun t => if t.kind = .other then landmarks (scan t.text) else landmarks [t]

theorem landmarks_append (ts us : List Token) :
    landmarks (ts ++ us) = landmarks ts ++ landmarks us := List.filter_append ..

theorem landmarks_cons (t : Token) (ts : List Token) :
    landmarks (t :: ts) = landmarks [t] ++ landmarks ts := landmarks_append [t] ts

theorem pieceLandmarks_append (ts us : List Token) :
    pieceLandmarks (ts ++ us) = pieceLandmarks ts ++ pieceLandmarks us := List.flatMap_append ..

theorem pieceLandmarks_text (text : List Char) (ts : List Token) :
    pieceLandmarks (⟨.other, text⟩ :: ts) = landmarks (scan text) ++ pieceLandmarks ts := by
  simp [pieceLandmarks]

theorem pieceLandmarks_mark {c : Char} {k : TokenKind} (h : structural? c = some k)
    (ts : List Token) : pieceLandmarks (⟨k, [c]⟩ :: ts) = landmarks [⟨k, [c]⟩] ++ pieceLandmarks ts := by
  obtain ⟨-, rfl⟩ | ⟨-, rfl⟩ | ⟨-, rfl⟩ := structural?_eq_some h <;> simp [pieceLandmarks]

theorem landmarks_scan_cons {s : Char} {k : TokenKind} (hs : structural? s = some k)
    (ds : List Char) : landmarks (scan (s :: ds)) = landmarks [⟨k, [s]⟩] ++ landmarks (scan ds) := by
  rw [scan, scanFrom_structural hs, landmarks_cons]

theorem landmarks_scan_lineEnd (ds : List Char) :
    landmarks (scan ('\n' :: ds)) = landmarks (scan ds) := by
  rw [landmarks_scan_cons rfl]
  rfl

/-! ### Stretches -/

namespace Inline

variable {e closed : Bool} {cs : List Char} {literals : List Token}

theorem landmarks_scan (h : Inline false cs literals closed) :
    landmarks (scan cs) = literals := by
  obtain ⟨hj, hl⟩ := h.scanFrom_tokens
  rw [← hl, landmarks, literalsOf, scan]
  refine List.filter_congr fun t ht => ?_
  have := hj t ht
  obtain ⟨k, text⟩ := t
  cases k <;> first | rfl | cases this

theorem landmarks_scan_append (h : Inline false cs literals true) {s : Char} {k : TokenKind}
    (hs : structural? s = some k) (ds : List Char) :
    landmarks (scan (cs ++ s :: ds)) =
      literals ++ (landmarks [⟨k, [s]⟩] ++ landmarks (scan ds)) := by
  rw [scan, h.scanFrom_append hs, landmarks_append, ← scan, h.landmarks_scan, landmarks_cons]

theorem dropWhile_isMargin (h : Inline false cs literals closed) :
    Inline false (cs.dropWhile isMargin) literals closed := by
  induction cs with
  | nil => exact h
  | cons c cs ih =>
    cases hc : isMargin c with
    | false => rwa [List.dropWhile_cons_of_neg (by simp [hc])]
    | true =>
      rw [List.dropWhile_cons_of_pos hc]
      have hb := isBlank_of_isMargin hc
      cases h with
      | plain hp h =>
        rw [escapes_blank hb] at h
        exact ih h
      | literal hq | cut hq => rw [not_mark_of_isBlank hb] at hq; cases hq

theorem dropEnd_isMargin (h : Inline e cs literals closed) :
    Inline e (Text.dropEnd isMargin cs) literals closed := by
  obtain ⟨tail, ht, hall⟩ := Text.dropEnd_append_eq isMargin cs
  exact h.of_append_blanks ht fun c hc => isBlank_of_isMargin (hall c hc)

theorem append_blank (h : Inline e cs literals true) : Inline e (cs ++ [' ']) literals true := by
  have hb : Inline (escapesAfter e cs) [' '] [] true := of_not_stop (by simp; rfl)
  have := h.append hb (by simp; rfl)
  rwa [List.append_nil] at this

theorem written_of_endsLine (h : Inline false cs literals closed) {next : Option TokenKind}
    (hn : next.all TokenKind.endsLine = true) :
    Inline false (written true next cs) literals closed := by
  rw [Script.written_of_endsLine hn]
  exact h.dropWhile_isMargin.dropEnd_isMargin

theorem written_leftBrace (h : Inline false cs literals true) :
    Inline false (written true (some .leftBrace) cs) literals true := by
  rw [Script.written_leftBrace]
  split
  · exact h.dropWhile_isMargin
  · exact h.dropWhile_isMargin.append_blank

theorem of_indent (w : Nat) (d : Int) : Inline false (indent w d) [] true :=
  of_not_stop fun _ hc => isStop_of_isMargin (isMargin_of_mem_indent hc)

theorem indent_append (h : Inline false cs literals closed) (w : Nat) (d : Int) :
    Inline false (indent w d ++ cs) literals closed := by
  rw [indent]
  induction d.toNat * w with
  | zero => exact h
  | succ n ih =>
    rw [List.replicate_succ, List.cons_append]
    exact plain (.of_not_stop rfl) ih

end Inline

/-! ### Landmarks -/

/-- Pieces laid out keep their landmarks. -/
theorem Laid.landmarks_eq {w : Nat} {d : Int} {ts : List Token} {cs : List Char}
    (h : Laid w d ts cs) (hf : Fit ts) : landmarks (scan cs) = pieceLandmarks ts := by
  induction h with
  | nil => rw [scan, scanFrom_nil]; rfl
  | skip _ ih => rw [ih hf.tail, pieceLandmarks_mark rfl]; rfl
  | last =>
    obtain ⟨literals, closed, h, -, -⟩ := hf.text_spec
    rw [((h.written_of_endsLine rfl).indent_append _ _).landmarks_scan, pieceLandmarks_text,
      h.landmarks_scan]
    simp [pieceLandmarks]
  | @text d text ts cs k hk he _ ih =>
    obtain ⟨literals, closed, h, -, hclosed⟩ := hf.text_spec
    obtain rfl := hclosed (by rintro rfl; cases hk)
    have hk : (some k).all TokenKind.endsLine = true := he
    have hline := (h.written_of_endsLine hk).indent_append w d
    rw [← List.append_assoc, hline.landmarks_scan_append rfl, ih hf.tail, pieceLandmarks_text,
      h.landmarks_scan]
    rfl
  | @opens d ts cs _ ih =>
    rw [(Inline.of_indent w d).landmarks_scan_append rfl, landmarks_scan_lineEnd, ih hf.tail,
      pieceLandmarks_mark rfl, List.nil_append]
  | @textOpens d text ts cs _ ih =>
    obtain ⟨literals, closed, h, -, hclosed⟩ := hf.text_spec
    obtain rfl := hclosed (by simp)
    have hline := h.written_leftBrace.indent_append w d
    rw [← List.append_assoc, hline.landmarks_scan_append rfl, landmarks_scan_lineEnd,
      ih hf.tail.tail, pieceLandmarks_text, pieceLandmarks_mark rfl, h.landmarks_scan]
  | @closes d ts cs _ _ ih =>
    rw [(Inline.of_indent w (d - 1)).landmarks_scan_append rfl, landmarks_scan_lineEnd, ih hf.tail,
      pieceLandmarks_mark rfl, List.nil_append]
  | @reopens d ts cs _ ih =>
    rw [(Inline.of_indent w (d - 1)).landmarks_scan_append rfl,
      landmarks_scan_cons rfl, landmarks_scan_lineEnd, ih hf.tail.tail,
      pieceLandmarks_mark rfl, pieceLandmarks_mark rfl, List.nil_append]

theorem Inline.pieceLandmarks_pieces {cs : List Char} {literals : List Token} {closed : Bool}
    (h : Inline false cs literals closed) : pieceLandmarks (pieces cs) = literals := by
  rw [h.pieces_eq]
  cases hb : cs.all Text.isBlank with
  | true =>
    have hq : ∀ c ∈ cs, QuoteMark.ofChar? c = none := fun c hc =>
      not_mark_of_isBlank (List.all_eq_true.mp hb c hc)
    exact (h.of_no_mark hq).1.symm
  | false =>
    rw [if_neg (by simp), pieceLandmarks_text, h.shown.landmarks_scan]
    exact List.append_nil _

theorem pieceLandmarks_pieces (cs : List Char) :
    pieceLandmarks (pieces cs) = landmarks (scan cs) := by
  induction cs using stretch_induction with
  | last cs literals closed h => rw [h.pieceLandmarks_pieces, h.landmarks_scan]
  | mark ds s k rest literals h hs ih =>
    rw [h.pieces_append hs, pieceLandmarks_append, h.pieceLandmarks_pieces, pieceLandmarks_mark hs,
      h.landmarks_scan_append hs, ih]

/-! ### Characters other than white space -/

/-- A text without its white space. -/
def ink (cs : List Char) : List Char := cs.filter (!Text.isBlank ·)

theorem ink_append (cs ds : List Char) : ink (cs ++ ds) = ink cs ++ ink ds := List.filter_append ..

theorem ink_eq_nil {cs : List Char} (h : ∀ c ∈ cs, Text.isBlank c = true) : ink cs = [] := by
  rw [ink, List.filter_eq_nil_iff]
  intro c hc
  simp [h c hc]

theorem ink_indent (w : Nat) (d : Int) : ink (indent w d) = [] :=
  ink_eq_nil fun _ hc => isBlank_of_isMargin (isMargin_of_mem_indent hc)

theorem ink_dropWhile (cs : List Char) : ink (cs.dropWhile isMargin) = ink cs := by
  have hb : ink (cs.takeWhile isMargin) = [] := ink_eq_nil fun c hc =>
    isBlank_of_isMargin (List.all_eq_true.mp List.all_takeWhile c hc)
  conv => right; rw [← List.takeWhile_append_dropWhile (p := isMargin) (l := cs)]
  rw [ink_append, hb, List.nil_append]

theorem ink_dropEnd (cs : List Char) : ink (Text.dropEnd isMargin cs) = ink cs := by
  obtain ⟨tail, ht, hall⟩ := Text.dropEnd_append_eq isMargin cs
  have hb : ink tail = [] := ink_eq_nil fun c hc => isBlank_of_isMargin (hall c hc)
  conv => right; rw [ht]
  rw [ink_append, hb, List.append_nil]

theorem ink_written_of_endsLine {next : Option TokenKind} (h : next.all TokenKind.endsLine = true)
    (text : List Char) : ink (written true next text) = ink text := by
  rw [written_of_endsLine h, ink_dropEnd, ink_dropWhile]

theorem ink_written_leftBrace (text : List Char) :
    ink (written true (some .leftBrace) text) = ink text := by
  rw [written_leftBrace]
  split
  · rw [ink_dropWhile]
  · rw [ink_append, ink_dropWhile]
    exact List.append_nil _

/-- Pieces laid out keep their characters. -/
theorem Laid.ink_eq {w : Nat} {d : Int} {ts : List Token} {cs : List Char} (h : Laid w d ts cs) :
    ink cs = ink (ts.flatMap Token.text) := by
  induction h with
  | nil => rfl
  | skip _ ih => rw [ih]; rfl
  | last =>
    rw [ink_append, ink_indent, ink_written_of_endsLine rfl]
    simp
  | @text d text ts cs k _ he _ ih =>
    have hk : (some k).all TokenKind.endsLine = true := he
    rw [ink_append, ink_indent, ink_append, ink_written_of_endsLine hk, List.flatMap_cons,
      ink_append, ← ih]
    rfl
  | opens _ ih | closes _ _ ih =>
    rw [ink_append, ink_indent, List.flatMap_cons, ink_append, ← ih]
    rfl
  | textOpens _ ih =>
    rw [ink_append, ink_indent, ink_append, ink_written_leftBrace, List.flatMap_cons,
      List.flatMap_cons, ink_append, ink_append, ← ih]
    rfl
  | reopens _ ih =>
    rw [ink_append, ink_indent, List.flatMap_cons, List.flatMap_cons, ink_append, ink_append, ← ih]
    rfl

theorem flatMap_text_joinAll (ts : List Token) :
    (joinAll ts).flatMap Token.text = ts.flatMap Token.text := by
  induction ts with
  | nil => rfl
  | cons t ts ih =>
    rw [List.flatMap_cons, ← ih]
    simp only [joinAll]
    split
    · split <;> simp [*]
    · rw [List.flatMap_cons]

theorem flatMap_text_joinOnto (t : Token) (ts : List Token) :
    (joinOnto t ts).flatMap Token.text = t.text ++ ts.flatMap Token.text := by
  induction ts generalizing t with
  | nil => simp [joinOnto]
  | cons u us ih =>
    rw [joinOnto]
    split
    · rw [ih, List.flatMap_cons, List.append_assoc]
    · rw [List.flatMap_cons, ih, List.flatMap_cons]

theorem flatMap_text_tokens (cs : List Char) : (tokens cs).flatMap Token.text = cs := by
  conv => right; rw [← scanFrom_flatMap_text false cs]
  rw [tokens, scan]
  cases scanFrom false cs with
  | nil => rfl
  | cons t ts => rw [joinOthers, flatMap_text_joinOnto, List.flatMap_cons]

theorem ink_pieces (cs : List Char) : ink ((pieces cs).flatMap Token.text) = ink cs := by
  conv => right; rw [← flatMap_text_tokens cs]
  rw [pieces, flatMap_text_joinAll, shownTokens]
  induction tokens cs with
  | nil => rfl
  | cons t ts ih =>
    rw [List.filter_cons]
    split
    · rw [List.flatMap_cons, List.flatMap_cons, ink_append, ink_append, ih]
    · rename_i hb
      simp only [Token.isBlank, Bool.not_eq_true', Bool.not_eq_false, Bool.and_eq_true] at hb
      rw [ih, List.flatMap_cons, ink_append, ink_eq_nil (List.all_eq_true.mp hb.2), List.nil_append]

/-! ### Depth -/

theorem balance_cons (t : Token) (ts : List Token) :
    balance (t :: ts) = balance [t] + balance ts := by
  simp only [balance, List.countP_cons, List.countP_nil]
  omega

/-- A layout counts the braces of its tokens. -/
theorem layFrom_depth (w : Nat) (p : Place) (ts : List Token) :
    (layFrom w p ts).2 = p.depth + balance ts := by
  induction ts generalizing p with
  | nil => simp [layFrom, balance]
  | cons t ts ih =>
    have hstep (next : Option TokenKind) :
        (layToken w p t next).2.depth = p.depth + balance [t] := by
      obtain ⟨k, text⟩ := t
      cases k <;> cases next <;> simp only [layToken] <;> (try split) <;> (try split) <;>
        simp [balance] <;> omega
    simp only [layFrom]
    rw [ih, hstep, balance_cons t ts, Int.add_assoc]

theorem balance_of_joinsOther {t : Token} (h : t.kind.joinsOther = true) : balance [t] = 0 := by
  obtain ⟨k, text⟩ := t
  cases k <;> first | rfl | cases h

theorem balance_joinOnto (t : Token) (ts : List Token) :
    balance (joinOnto t ts) = balance [t] + balance ts := by
  induction ts generalizing t with
  | nil => simp [joinOnto, balance]
  | cons u us ih =>
    rw [joinOnto]
    split
    · rename_i h
      simp only [Bool.and_eq_true, decide_eq_true_eq] at h
      have ht : t.kind.joinsOther = true := by simp [TokenKind.joinsOther, h.1]
      rw [ih, balance_cons u us, balance_of_joinsOther ht, balance_of_joinsOther h.2,
        balance_of_joinsOther rfl, Int.zero_add, Int.zero_add]
    · rw [balance_cons, ih, balance_cons u us]

theorem balance_shownTokens (cs : List Char) : balance (shownTokens cs) = balance (scan cs) := by
  have hshown (ts : List Token) : balance (ts.filter (!·.isBlank)) = balance ts := by
    induction ts with
    | nil => rfl
    | cons t ts ih =>
      rw [List.filter_cons, balance_cons t ts]
      split
      · rw [balance_cons, ih]
      · rename_i hb
        simp only [Token.isBlank, Bool.not_eq_true', Bool.not_eq_false, Bool.and_eq_true,
          decide_eq_true_eq] at hb
        rw [ih, balance_of_joinsOther (by simp [hb.1, TokenKind.joinsOther]), Int.zero_add]
  rw [shownTokens, hshown, tokens]
  cases scan cs with
  | nil => rfl
  | cons t ts => rw [joinOthers, balance_joinOnto, balance_cons t ts]

theorem balance_landmarks (ts : List Token) : balance (landmarks ts) = balance ts := by
  rw [balance, balance, landmarks, List.countP_filter, List.countP_filter]
  congr 2 <;> refine List.countP_congr fun t _ => ?_ <;> cases t.kind <;> simp [TokenKind.isLiteral]

theorem lay_depth (w : Nat) (cs : List Char) : (lay w cs).2 = balance (scan cs) := by
  rw [lay, layFrom_depth, balance_shownTokens, Int.zero_add]

/-- A layout changes white space and nothing else: the text laid out has the braces and literals of
the text, the same characters other than white space, and ends at the depth of its braces. -/
theorem format_landmarks (w : Nat) (s : String) :
    landmarks (scan (format w s).toList) = landmarks (scan s.toList) ∧
      ink (format w s).toList = ink s.toList ∧
      (lay w s.toList).2 = balance (scan s.toList) ∧
      (lay w (format w s).toList).2 = (lay w s.toList).2 := by
  have hlaid := lay_laid w s.toList
  have hmarks : landmarks (scan (format w s).toList) = landmarks (scan s.toList) := by
    rw [format, String.toList_ofList, hlaid.landmarks_eq (fit_pieces _), pieceLandmarks_pieces]
  refine ⟨hmarks, ?_, lay_depth w _, ?_⟩
  · rw [format, String.toList_ofList, hlaid.ink_eq, ink_pieces]
  · rw [lay_depth, lay_depth, ← balance_landmarks, hmarks, balance_landmarks]

end Jenkinsfile.Script
