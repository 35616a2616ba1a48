import Jenkinsfile.Proofs.Script.Leading
import Jenkinsfile.Proofs.Text.Trim

/-! A text as the pieces that its layout is made of: line ends, braces, and what is shown between
them.  `layFrom_pieces` says that the layout looks at nothing else, and `Fit` what is known of the
pieces of a text. -/

namespace Jenkinsfile.Script

/-- Joins other text and literals that stand side by side. -/
def joinAll : List Token → List Token
  | [] => []
  | t :: ts =>
    if t.kind.joinsOther then
      match joinAll ts with
      | ⟨.other, text⟩ :: us => ⟨.other, t.text ++ text⟩ :: us
      | us => ⟨.other, t.text⟩ :: us
    else t :: joinAll ts

/-- The line ends and braces of a text, and what is shown between them. -/
def pieces (cs : List Char) : List Token := joinAll (shownTokens cs)

/-! ### Joined tokens -/

section Joined

variable {ts us : List Token}

theorem joinOnto_of_ne_other {t : Token} (h : t.kind ≠ .other) (ts : List Token) :
    joinOnto t ts = t :: joinOthers ts := by
  cases ts with
  | nil => rfl
  | cons u us => simp [joinOnto, joinOthers, h]

theorem joinOnto_other (hts : ∀ t ∈ ts, t.kind.joinsOther = true)
    (hus : ∀ u ∈ us.head?, u.kind.joinsOther = false) (text : List Char) :
    joinOnto ⟨.other, text⟩ (ts ++ us) =
      ⟨.other, text ++ ts.flatMap Token.text⟩ :: joinOthers us := by
  induction ts generalizing text with
  | nil =>
    cases us with
    | nil => simp [joinOnto, joinOthers]
    | cons u us => simp [joinOnto, joinOthers, hus u rfl]
  | cons t ts ih =>
    have ht := hts t List.mem_cons_self
    simp only [List.cons_append, joinOnto, ht, decide_true, Bool.and_self, if_true]
    rw [ih fun t h => hts t (List.mem_cons_of_mem _ h), List.flatMap_cons, List.append_assoc]

/-- The tokens of a stretch joined: its first literals, and what comes after them. -/
theorem joinOthers_append (hts : ∀ t ∈ ts, t.kind.joinsOther = true)
    (hus : ∀ u ∈ us.head?, u.kind.joinsOther = false) :
    joinOthers (ts ++ us) = (leading ts ++
      if (ts.dropWhile (·.kind.isLiteral)).isEmpty then [] else [⟨.other, trailing ts⟩]) ++
        joinOthers us := by
  induction ts with
  | nil => rfl
  | cons t ts ih =>
    have hts' : ∀ u ∈ ts, u.kind.joinsOther = true := fun u h => hts u (List.mem_cons_of_mem _ h)
    by_cases hl : t.kind.isLiteral = true
    · have hne : t.kind ≠ .other := by
        intro h
        rw [h] at hl
        cases hl
      rw [List.cons_append, joinOthers, joinOnto_of_ne_other hne, ih hts']
      simp [leading, trailing, hl]
    · obtain ⟨kind, text⟩ := t
      obtain rfl : kind = .other := by
        have := hts _ List.mem_cons_self
        simpa [TokenKind.joinsOther, hl] using this
      rw [List.cons_append, joinOthers, joinOnto_other hts' hus]
      simp [leading, trailing, TokenKind.isLiteral]

theorem joinOthers_eq (hts : ∀ t ∈ ts, t.kind.joinsOther = true) :
    joinOthers ts = leading ts ++
      if (ts.dropWhile (·.kind.isLiteral)).isEmpty then [] else [⟨.other, trailing ts⟩] := by
  have h : ∀ u ∈ ([] : List Token).head?, u.kind.joinsOther = false := by simp
  have := joinOthers_append hts h
  rwa [List.append_nil, joinOthers, List.append_nil] at this

theorem joinAll_append {u : Token} (hu : u.kind.joinsOther = false) (ts us : List Token) :
    joinAll (ts ++ u :: us) = joinAll ts ++ u :: joinAll us := by
  induction ts with
  | nil => simp [joinAll, hu]
  | cons t ts ih =>
    simp only [List.cons_append, joinAll]
    split
    · rw [ih]
      match hj : joinAll ts with
      | [] =>
        match u with
        | ⟨.other, _⟩ => cases hu
        | ⟨.leftBrace, _⟩ | ⟨.rightBrace, _⟩ | ⟨.lineEnd, _⟩ | ⟨.literal _ _, _⟩ => rfl
      | ⟨.other, _⟩ :: _ => rfl
      | ⟨.leftBrace, _⟩ :: _ | ⟨.rightBrace, _⟩ :: _ | ⟨.lineEnd, _⟩ :: _
      | ⟨.literal _ _, _⟩ :: _ => rfl
    · rw [ih, List.cons_append]

theorem joinAll_of_joinsOther (hne : ts ≠ []) (hts : ∀ t ∈ ts, t.kind.joinsOther = true) :
    joinAll ts = [⟨.other, ts.flatMap Token.text⟩] := by
  induction ts with
  | nil => exact absurd rfl hne
  | cons t ts ih =>
    simp only [joinAll, hts t List.mem_cons_self, if_true]
    cases ts with
    | nil => simp [joinAll]
    | cons u us =>
      rw [ih (by simp) fun t h => hts t (List.mem_cons_of_mem _ h)]
      simp

end Joined

/-! ### What is shown of a stretch -/

namespace Inline

variable {closed : Bool} {cs : List Char} {literals : List Token}

theorem shownTokens_eq (h : Inline false cs literals closed) :
    shownTokens cs = leading (scan cs) ++
      if (trailing (scan cs)).all Text.isBlank then [] else [⟨.other, trailing (scan cs)⟩] := by
  rw [shownTokens, tokens, scan, joinOthers_eq h.scanFrom_tokens.1]
  have hlit : (leading (scanFrom false cs)).filter (!·.isBlank) = leading (scanFrom false cs) := by
    rw [List.filter_eq_self]
    intro t ht
    have := isLiteral_of_mem_leading ht
    obtain ⟨k, text⟩ := t
    cases k <;> simp_all [Token.isBlank, TokenKind.isLiteral]
  rw [List.filter_append, hlit]
  cases hd : (scanFrom false cs).dropWhile (·.kind.isLiteral) with
  | nil => simp [trailing, hd]
  | cons t ts => simp [Token.isBlank, List.filter_cons, apply_ite]

theorem shownTokens_append (h : Inline false cs literals true) {s : Char} {k : TokenKind}
    (hs : structural? s = some k) (ds : List Char) :
    shownTokens (cs ++ s :: ds) = shownTokens cs ++ ⟨k, [s]⟩ :: shownTokens ds := by
  have hk := joinsOther_of_structural hs
  have hne : k ≠ .other := by
    rintro rfl
    cases hk
  have hus : ∀ u ∈ (⟨k, [s]⟩ :: scan ds).head?, u.kind.joinsOther = false := by simpa using hk
  have hb : Token.isBlank ⟨k, [s]⟩ = false := by simp [Token.isBlank, hne]
  rw [shownTokens, tokens, scan, h.scanFrom_append hs, joinOthers_append h.scanFrom_tokens.1 hus,
    ← joinOthers_eq h.scanFrom_tokens.1, joinOthers, joinOnto_of_ne_other hne, List.filter_append,
    List.filter_cons_of_pos (by rw [hb, Bool.not_false])]
  rfl

/-- The pieces of a text up to its first line end or brace, and those after it. -/
theorem pieces_append (h : Inline false cs literals true) {s : Char} {k : TokenKind}
    (hs : structural? s = some k) (ds : List Char) :
    pieces (cs ++ s :: ds) = pieces cs ++ ⟨k, [s]⟩ :: pieces ds := by
  rw [pieces, h.shownTokens_append hs, joinAll_append (joinsOther_of_structural hs)]
  rfl

/-- A stretch that shows something is one piece, and one that shows nothing is none. -/
theorem pieces_eq (h : Inline false cs literals closed) :
    pieces cs = if cs.all Text.isBlank then [] else [⟨.other, visible (scan cs)⟩] := by
  have hj : ∀ t ∈ shownTokens cs, t.kind.joinsOther = true := by
    rw [h.shownTokens_eq]
    intro t ht
    rcases List.mem_append.mp ht with ht | ht
    · simp [TokenKind.joinsOther, isLiteral_of_mem_leading ht]
    · split at ht
      · cases ht
      · obtain rfl := List.mem_singleton.mp ht
        rfl
  have hv : (shownTokens cs).flatMap Token.text = visible (scan cs) := by
    rw [h.shownTokens_eq, visible, List.flatMap_append]
    split <;> simp
  by_cases hb : cs.all Text.isBlank = true
  · have hl := leading_eq_nil hb
    have ht : trailing (scan cs) = cs := by
      have := text_eq cs
      rw [hl, List.flatMap_nil, List.nil_append] at this
      exact this.symm
    rw [if_pos hb, pieces, h.shownTokens_eq, hl, ht, if_pos hb]
    rfl
  · rw [if_neg hb, pieces, joinAll_of_joinsOther ?_ hj, hv]
    intro hnil
    rw [h.shownTokens_eq, List.append_eq_nil_iff] at hnil
    obtain ⟨hl, ht⟩ := hnil
    split at ht
    · rename_i htb
      rw [text_eq cs, hl] at hb
      exact hb htb
    · cases ht

end Inline

/-! ### The layout of pieces -/

/-- The kind of a piece that a token of this kind becomes part of. -/
def TokenKind.joined : TokenKind → TokenKind
  | .literal _ _ => .other
  | k => k

theorem head?_joinAll (ts : List Token) :
    (joinAll ts).head?.map Token.kind = (ts.head?.map Token.kind).map TokenKind.joined := by
  match ts with
  | [] => rfl
  | ⟨k, text⟩ :: ts =>
    simp only [joinAll, List.head?_cons, Option.map_some]
    cases k with
    | other | literal =>
      simp only [TokenKind.joinsOther, TokenKind.isLiteral, decide_true, Bool.true_or, Bool.or_true,
        if_true]
      split <;> rfl
    | _ => rfl

/-- A layout does not tell a literal from other text, neither where it writes one nor before it. -/
theorem layToken_joined (w : Nat) (p : Place) (t : Token) (next : Option TokenKind) :
    layToken w p t next = layToken w p ⟨t.kind.joined, t.text⟩ (next.map TokenKind.joined) := by
  obtain ⟨k, text⟩ := t
  cases next with
  | none => cases k <;> rfl
  | some n => cases k <;> cases n <;> rfl

/-- The text of a piece as it is written, at the start of a line or not and before a token of kind
`next`. -/
def written (atStart : Bool) (next : Option TokenKind) (text : List Char) : List Char :=
  let text := if atStart then text.dropWhile isMargin else text
  let text := if next.all TokenKind.endsLine then Text.dropEnd isMargin text else text
  if next = some .leftBrace && !(text.getLast?.any Text.isBlank) then text ++ [' '] else text

theorem layToken_other (w : Nat) (p : Place) (text : List Char) (next : Option TokenKind) :
    layToken w p ⟨.other, text⟩ next =
      (written p.atLineStart next text, ⟨p.depth, false, true⟩) := rfl

/-- At the end of a line, margins are dropped on both sides. -/
theorem written_of_endsLine {next : Option TokenKind} (h : next.all TokenKind.endsLine = true)
    (text : List Char) :
    written true next text = Text.dropEnd isMargin (text.dropWhile isMargin) := by
  have hn : next ≠ some .leftBrace := by
    rintro rfl
    cases h
  simp [written, h, hn]

theorem written_congr {next next' : Option TokenKind} (h : next.all TokenKind.endsLine = true)
    (h' : next'.all TokenKind.endsLine = true) (text : List Char) :
    written true next text = written true next' text := by
  rw [written_of_endsLine h, written_of_endsLine h']

/-- Before a brace that opens a block, a blank is put where there is none. -/
theorem written_leftBrace (text : List Char) :
    written true (some .leftBrace) text =
      if (text.dropWhile isMargin).getLast?.any Text.isBlank then text.dropWhile isMargin
      else text.dropWhile isMargin ++ [' '] := by
  simp only [written, Option.all_some, TokenKind.endsLine, reduceCtorEq, decide_false,
    Bool.or_self, Bool.false_eq_true, if_false, if_true, decide_true, Bool.true_and]
  cases (text.dropWhile isMargin).getLast?.any Text.isBlank <;> rfl

/-- Whether a text starts with something else than a margin. -/
def Starts (text : List Char) : Prop := ∃ c tail, text = c :: tail ∧ isMargin c = false

/-- Whether a text has something else than margins. -/
def Shows (text : List Char) : Prop := ∃ c ∈ text, isMargin c = false

theorem Starts.dropWhile {text : List Char} (h : Starts text) (ds : List Char) :
    (text ++ ds).dropWhile isMargin = text ++ ds := by
  obtain ⟨c, tail, rfl, hc⟩ := h
  exact Text.dropWhile_eq_self (by simpa using hc)

theorem Shows.dropEnd_ne_nil {text : List Char} (h : Shows text) :
    Text.dropEnd isMargin text ≠ [] := by
  intro hnil
  obtain ⟨tail, ht, hall⟩ := Text.dropEnd_append_eq isMargin text
  rw [hnil, List.nil_append] at ht
  obtain ⟨c, hc, hm⟩ := h
  rw [hall c (ht ▸ hc)] at hm
  cases hm

theorem written_append {cs ds : List Char} (hc : Starts cs) (hd : Shows ds) (atStart : Bool)
    (next : Option TokenKind) : written atStart next (cs ++ ds) = cs ++ written false next ds := by
  have hne : ds ≠ [] := by
    rintro rfl
    obtain ⟨_, h, -⟩ := hd
    cases h
  have hstart : (if atStart = true then (cs ++ ds).dropWhile isMargin else cs ++ ds) = cs ++ ds := by
    split
    · exact hc.dropWhile ds
    · rfl
  simp only [written, hstart, Bool.false_eq_true, if_false]
  cases hn : next.all TokenKind.endsLine with
  | true =>
    simp only [if_true, Text.dropEnd_append_of_exists hd,
      List.getLast?_append_of_ne_nil _ hd.dropEnd_ne_nil]
    split
    · rw [List.append_assoc]
    · rfl
  | false =>
    simp only [Bool.false_eq_true, if_false, List.getLast?_append_of_ne_nil _ hne]
    split
    · rw [List.append_assoc]
    · rfl

/-- A literal and what follows it are laid out as one piece. -/
theorem layFrom_literal_cons {w : Nat} {p : Place} {t : Token} {text : List Char} {ts : List Token}
    (ht : t.kind.joined = .other) (hstart : Starts t.text) (htext : Shows text) :
    layFrom w p (t :: ⟨.other, text⟩ :: ts) = layFrom w p (⟨.other, t.text ++ text⟩ :: ts) := by
  have hfirst : layToken w p t (some .other) = (t.text, ⟨p.depth, false, true⟩) := by
    have hdrop := hstart.dropWhile []
    rw [List.append_nil] at hdrop
    rw [layToken_joined, ht]
    cases hp : p.atLineStart <;>
      simp [layToken, hp, hdrop, TokenKind.joined, TokenKind.endsLine]
  simp only [layFrom, List.head?_cons, Option.map_some, hfirst, layToken_other,
    written_append hstart htext, List.append_assoc]

theorem joined_of_joinsOther {k : TokenKind} (h : k.joinsOther = true) : k.joined = .other := by
  cases k <;> first | rfl | cases h

theorem joined_joined (k : TokenKind) : k.joined.joined = k.joined := by
  cases k <;> rfl

theorem layFrom_cons_joined (w : Nat) (p : Place) (t : Token) (ts : List Token) :
    layFrom w p (t :: ts) = layFrom w p (⟨t.kind.joined, t.text⟩ :: ts) := by
  have h (next : Option TokenKind) :
      layToken w p t next = layToken w p ⟨t.kind.joined, t.text⟩ next := by
    rw [layToken_joined w p t, layToken_joined w p ⟨t.kind.joined, t.text⟩ next, joined_joined]
  simp only [layFrom, h]

theorem layFrom_cons_congr {w : Nat} {ts us : List Token}
    (hk : (ts.head?.map Token.kind).map TokenKind.joined =
      (us.head?.map Token.kind).map TokenKind.joined)
    (h : ∀ p, layFrom w p ts = layFrom w p us) (p : Place) (t : Token) :
    layFrom w p (t :: ts) = layFrom w p (t :: us) := by
  simp only [layFrom]
  rw [layToken_joined, hk, ← layToken_joined, h]

theorem layFrom_append_congr {w : Nat} {ts us : List Token}
    (hk : ts.head?.map Token.kind = us.head?.map Token.kind)
    (h : ∀ p, layFrom w p ts = layFrom w p us) (p : Place) (before : List Token) :
    layFrom w p (before ++ ts) = layFrom w p (before ++ us) := by
  induction before generalizing p with
  | nil => exact h p
  | cons t before ih =>
    refine layFrom_cons_congr ?_ ih p t
    cases before with
    | nil => rw [List.nil_append, List.nil_append, hk]
    | cons => rfl

/-- Literals, and at most one stretch of other text after them, are laid out as one piece. -/
theorem layFrom_joined {w : Nat} {ts : List Token} (hne : ts ≠ [])
    (hk : ∀ t ∈ ts, t.kind.joinsOther = true) (hstart : ∀ t ∈ ts.dropLast, Starts t.text)
    (hshow : ∀ t ∈ ts, Shows t.text) (p : Place) (us : List Token) :
    layFrom w p (ts ++ us) = layFrom w p (⟨.other, ts.flatMap Token.text⟩ :: us) := by
  induction ts generalizing p with
  | nil => exact absurd rfl hne
  | cons t ts ih =>
    have ht := joined_of_joinsOther (hk t List.mem_cons_self)
    cases ts with
    | nil =>
      rw [List.cons_append, List.nil_append, layFrom_cons_joined, ht]
      simp
    | cons u ts =>
      have ih := ih (by simp) (fun v hv => hk v (List.mem_cons_of_mem _ hv))
        (fun v hv => hstart v (List.mem_cons_of_mem _ hv))
        fun v hv => hshow v (List.mem_cons_of_mem _ hv)
      have hu := joined_of_joinsOther (hk u (by simp))
      have htext : Shows ((u :: ts).flatMap Token.text) := by
        obtain ⟨c, hc, hm⟩ := hshow u (by simp)
        exact ⟨c, List.mem_flatMap.mpr ⟨u, by simp, hc⟩, hm⟩
      have hhead : (((u :: ts ++ us).head?.map Token.kind).map TokenKind.joined) =
          some TokenKind.other := by
        rw [List.cons_append, List.head?_cons, Option.map_some, Option.map_some, hu]
      rw [List.cons_append, layFrom_cons_congr hhead ih,
        layFrom_literal_cons ht (hstart t (by simp)) htext]
      simp only [List.flatMap_cons]

namespace Inline

variable {closed : Bool} {cs : List Char} {literals : List Token}

theorem starts_of_mem_leading {t : Token} (h : t ∈ leading (scan cs)) : Starts t.text := by
  obtain ⟨c, q, init, hq, ht⟩ := ends_of_mem_leading h
  exact ⟨c, _, ht, not_isMargin_of_mark (by simp [hq])⟩

theorem layFrom_shownTokens (h : Inline false cs literals closed) (w : Nat) (p : Place)
    (us : List Token) : layFrom w p (shownTokens cs ++ us) = layFrom w p (pieces cs ++ us) := by
  by_cases hne : shownTokens cs = []
  · rw [pieces, hne]
    rfl
  have hs := h.shownTokens_eq
  have hk : ∀ t ∈ shownTokens cs, t.kind.joinsOther = true ∧ Shows t.text := by
    rw [hs]
    intro t ht
    rcases List.mem_append.mp ht with ht | ht
    · obtain ⟨c, tail, htext, hc⟩ := starts_of_mem_leading ht
      exact ⟨by simp [TokenKind.joinsOther, isLiteral_of_mem_leading ht],
        ⟨c, by rw [htext]; exact List.mem_cons_self, hc⟩⟩
    · split at ht
      · cases ht
      · rename_i hb
        obtain rfl := List.mem_singleton.mp ht
        simp only [List.all_eq_true, not_forall, Bool.not_eq_true] at hb
        obtain ⟨c, hc, hb⟩ := hb
        refine ⟨rfl, c, hc, ?_⟩
        cases hm : isMargin c with
        | false => rfl
        | true => rw [isBlank_of_isMargin hm] at hb; cases hb
  have hlast : ∀ t ∈ (shownTokens cs).dropLast, Starts t.text := by
    intro t ht
    apply starts_of_mem_leading
    rw [hs] at ht
    split at ht
    · rw [List.append_nil] at ht
      exact (List.dropLast_sublist _).subset ht
    · rwa [List.dropLast_concat] at ht
  rw [pieces, joinAll_of_joinsOther hne fun t ht => (hk t ht).1,
    layFrom_joined hne (fun t ht => (hk t ht).1) hlast fun t ht => (hk t ht).2]
  rfl

end Inline

/-- The layout of a text is that of its pieces. -/
theorem layFrom_pieces (w : Nat) (p : Place) (cs : List Char) :
    layFrom w p (shownTokens cs) = layFrom w p (pieces cs) := by
  induction cs using stretch_induction generalizing p with
  | last cs literals closed h => simpa using h.layFrom_shownTokens w p []
  | mark ds s k rest literals h hs ih =>
    rw [h.shownTokens_append hs, h.pieces_append hs, h.layFrom_shownTokens]
    have hhead : ((shownTokens rest).head?.map Token.kind).map TokenKind.joined =
        ((pieces rest).head?.map Token.kind).map TokenKind.joined := by
      rw [pieces, head?_joinAll, Option.map_map, Option.map_map]
      simp only [Function.comp_def, joined_joined]
    refine layFrom_append_congr ?_ (fun p => layFrom_cons_congr hhead ih p ⟨k, [s]⟩) p _
    rfl

/-! ### The pieces of a text -/

/-- What is known of pieces: those between line ends and braces show something, and only the last
of all may hold a literal that is not closed. -/
inductive Fit : List Token → Prop
  | nil : Fit []
  | mark {c : Char} {k : TokenKind} {ts : List Token} :
      structural? c = some k → Fit ts → Fit (⟨k, [c]⟩ :: ts)
  | last {text : List Char} {literals : List Token} {closed : Bool} :
      Inline false text literals closed → text.all Text.isBlank = false → Fit [⟨.other, text⟩]
  | text {text : List Char} {literals : List Token} {c : Char} {k : TokenKind} {ts : List Token} :
      Inline false text literals true → text.all Text.isBlank = false →
      structural? c = some k → Fit (⟨k, [c]⟩ :: ts) → Fit (⟨.other, text⟩ :: ⟨k, [c]⟩ :: ts)

namespace Fit

variable {t : Token} {ts : List Token} {text : List Char}

theorem tail (h : Fit (t :: ts)) : Fit ts := by
  cases h with
  | mark _ h => exact h
  | last => exact .nil
  | text _ _ _ h => exact h

/-- A piece of text is a stretch; only in the last of all may a literal not be closed. -/
theorem text_spec (h : Fit (⟨.other, text⟩ :: ts)) :
    ∃ literals closed, Inline false text literals closed ∧ text.all Text.isBlank = false ∧
      (ts ≠ [] → closed = true) := by
  cases h with
  | mark hk => cases joinsOther_of_structural hk
  | last h hb => exact ⟨_, _, h, hb, fun h => absurd rfl h⟩
  | text h hb => exact ⟨_, _, h, hb, fun _ => rfl⟩

end Fit

theorem fit_pieces (cs : List Char) : Fit (pieces cs) := by
  induction cs using stretch_induction with
  | last cs literals closed h =>
    rw [h.pieces_eq]
    cases hb : cs.all Text.isBlank with
    | true => exact .nil
    | false => exact .last h.shown (Inline.shown_not_blank hb)
  | mark ds s k rest literals h hs ih =>
    have hrest := Fit.mark hs ih
    rw [h.pieces_append hs, h.pieces_eq]
    cases hb : ds.all Text.isBlank with
    | true => exact hrest
    | false => exact .text h.shown (Inline.shown_not_blank hb) hs hrest

end Jenkinsfile.Script
