import Jenkinsfile.Proofs.Script.Preservation
import Mathlib

/-! The layout of a text that is laid out already.  It is that text again but for one thing: blanks
after literals that start a line without blanks before them, which only the second layout takes for
blanks.  `format_format_eq_iff` tells exactly which texts have such a line, and
`format_format_format` that the third layout changes nothing. -/

namespace Jenkinsfile.Script

/-- Whether a piece that starts a line has blanks that the layout keeps only as long as something
comes before them: nothing but blanks comes after its literals, and they are not those that the
layout writes there itself. -/
def loose (next : Option TokenKind) (text : List Char) : Bool :=
  let rest := trailing (scan (text.dropWhile isMargin))
  rest.all Text.isBlank &&
    if next = some .leftBrace then rest ≠ [] && rest ≠ [' '] else !rest.all isMargin

/-- Whether pieces laid out from depth `d` on have such a piece on a line that is not indented. -/
def hasLoose (w : Nat) (d : Int) : List Token → Bool
  | [] => false
  | t :: ts =>
    t.kind = .other && (indent w d).isEmpty && loose (ts.head?.map Token.kind) t.text ||
      hasLoose w (d + balance [t]) ts

/-- What the second layout writes for a piece. -/
def relaid (w : Nat) (d : Int) (next : Option TokenKind) (text : List Char) : List Char :=
  written true next (visible (scan (indent w d ++ written true next text)))

/-- The kinds of what can follow a piece of text. -/
def Bounds (next : Option TokenKind) : Prop :=
  next.all TokenKind.endsLine = true ∨ next = some .leftBrace

section Written

variable {next : Option TokenKind} {text : List Char}

/-- A piece is written as before after the blanks of its line. -/
theorem written_indent (w : Nat) (d : Int) :
    written true next (indent w d ++ text) = written true next text := by
  have hdrop : (indent w d ++ text).dropWhile isMargin = text.dropWhile isMargin := by
    rw [List.dropWhile_append_of_pos]
    intro c hc
    exact isMargin_of_mem_indent hc
  simp only [written, if_true, hdrop]

theorem written_written (hn : Bounds next) :
    written true next (written true next text) = written true next text := by
  obtain hn | rfl := hn
  · rw [written_of_endsLine hn, written_of_endsLine hn,
      Text.dropWhile_dropEnd fun _ => Text.head?_dropWhile, Text.dropEnd_dropEnd]
  · have hidem : (text.dropWhile isMargin).dropWhile isMargin = text.dropWhile isMargin :=
      Text.dropWhile_eq_self fun _ => Text.head?_dropWhile
    rw [written_leftBrace text]
    split
    · rename_i hlast
      rw [written_leftBrace, hidem, if_pos hlast]
    · rw [written_leftBrace]
      cases hy : text.dropWhile isMargin with
      | nil => rfl
      | cons c tail =>
        have hhead : c ∈ (text.dropWhile isMargin).head? := by rw [hy]; rfl
        have hc := Text.head?_dropWhile hhead
        rw [List.cons_append, List.dropWhile_cons_of_neg (by simp [hc]), ← List.cons_append,
          List.getLast?_concat]
        rfl

theorem written_leading_of_endsLine (hn : next.all TokenKind.endsLine = true) (cs : List Char) :
    written true next ((leading (scan cs)).flatMap Token.text) =
      (leading (scan cs)).flatMap Token.text := by
  obtain ⟨hhead, hlast⟩ := leading_ends cs
  rw [written_of_endsLine hn, Text.dropWhile_eq_self fun c hc => not_isMargin_of_mark (hhead c hc),
    Text.dropEnd_eq_self fun c hc => not_isMargin_of_mark (hlast c hc)]

theorem written_leading_leftBrace (cs : List Char) :
    written true (some .leftBrace) ((leading (scan cs)).flatMap Token.text) =
      (leading (scan cs)).flatMap Token.text ++ [' '] := by
  obtain ⟨hhead, hlast⟩ := leading_ends cs
  rw [written_leftBrace,
    Text.dropWhile_eq_self fun c hc => not_isMargin_of_mark (hhead c hc), if_neg]
  cases hl : ((leading (scan cs)).flatMap Token.text).getLast? with
  | none => simp
  | some c =>
    obtain ⟨q, hq⟩ := Option.ne_none_iff_exists'.mp (hlast c hl)
    simp [not_isBlank_of_mark hq]

end Written

/-! ### One piece -/

theorem visible_eq_self {cs : List Char} (h : (trailing (scan cs)).all Text.isBlank = false) :
    visible (scan cs) = cs := by
  rw [visible, h, if_neg (by simp), ← text_eq]

/-- Blanks alone after literals are not shown. -/
theorem visible_leading_append {cs ds : List Char} (hb : ds.all Text.isBlank = true)
    (hd : ∀ d ∈ ds, isStop d = false) :
    visible (scan ((leading (scan cs)).flatMap Token.text ++ ds)) =
      (leading (scan cs)).flatMap Token.text := by
  obtain ⟨hl, ht⟩ := leading_append_blanks cs hd
  rw [visible, hl, ht, if_pos hb, List.append_nil]

section Relaid

variable {w : Nat} {d : Int} {next : Option TokenKind} {text : List Char} {literals : List Token}
  {closed : Bool}

theorem all_isBlank_written (hn : Bounds next) (hb : text.all Text.isBlank = false) :
    (written true next text).all Text.isBlank = false := by
  have hink : ink (written true next text) = ink text := by
    obtain hn | rfl := hn
    · exact ink_written_of_endsLine hn text
    · exact ink_written_leftBrace text
  cases hw : (written true next text).all Text.isBlank with
  | false => rfl
  | true =>
    rw [ink_eq_nil (List.all_eq_true.mp hw)] at hink
    obtain ⟨c, hc, hcb⟩ := List.all_eq_false.mp hb
    have : c ∈ ink text := List.mem_filter.mpr ⟨hc, by simpa using hcb⟩
    rw [← hink] at this
    cases this

/-- Only blanks are put after a piece, or taken away there. -/
theorem trailing_written (h : Inline false text literals closed) (hn : Bounds next)
    (hclosed : next = some .leftBrace → closed = true) :
    (trailing (scan (written true next text))).all Text.isBlank =
      (trailing (scan (text.dropWhile isMargin))).all Text.isBlank := by
  have hy := h.dropWhile_isMargin
  obtain hn | rfl := hn
  · obtain ⟨tail, ht, hall⟩ := Text.dropEnd_append_eq isMargin (text.dropWhile isMargin)
    rw [written_of_endsLine hn]
    conv => right; rw [ht]
    rw [ht] at hy
    exact (hy.trailing_append fun c hc =>
      ⟨isBlank_of_isMargin (hall c hc), isStop_of_isMargin (hall c hc)⟩).symm
  · obtain rfl := hclosed rfl
    rw [written_leftBrace]
    split
    · rfl
    · exact hy.append_blank.trailing_append (by simp; exact ⟨rfl, rfl⟩)

/-- After blanks, no literal starts the line. -/
theorem relaid_of_indent (hi : (indent w d).isEmpty = false) (hn : Bounds next)
    (hb : text.all Text.isBlank = false) : relaid w d next text = written true next text := by
  have htrail : trailing (scan (indent w d ++ written true next text)) =
      indent w d ++ written true next text := by
    cases hd : indent w d with
    | nil => rw [hd] at hi; cases hi
    | cons c tail =>
      have hc : isMargin c = true := isMargin_of_mem_indent (hd ▸ List.mem_cons_self)
      exact (leading_of_plain (.of_not_stop (isStop_of_isMargin hc)) _).2
  rw [relaid, visible_eq_self, written_indent, written_written hn]
  rw [htrail, List.all_append, all_isBlank_written hn hb, Bool.and_false]

theorem relaid_of_shows (h : Inline false text literals closed) (hn : Bounds next)
    (hclosed : next = some .leftBrace → closed = true) (hi : (indent w d).isEmpty = true)
    (ht : (trailing (scan (text.dropWhile isMargin))).all Text.isBlank = false) :
    relaid w d next text = written true next text := by
  rw [← trailing_written h hn hclosed] at ht
  rw [relaid, List.isEmpty_iff.mp hi, List.nil_append, visible_eq_self ht, written_written hn]

/-- A piece whose literals are followed by blanks alone, at the end of its line. -/
theorem relaid_literals_of_endsLine (h : Inline false text literals closed)
    (hn : next.all TokenKind.endsLine = true) (hi : (indent w d).isEmpty = true)
    (ht : (trailing (scan (text.dropWhile isMargin))).all Text.isBlank = true) :
    ∃ ls bs, written true next text = ls ++ bs ∧ relaid w d next text = ls ∧
      (bs = [] ↔ loose next text = false) := by
  have hstop := h.dropWhile_isMargin.trailing_not_stop ht
  have hnext : next ≠ some .leftBrace := by
    rintro rfl
    cases hn
  generalize hy : text.dropWhile isMargin = y at *
  have hw : written true next text =
      (leading (scan y)).flatMap Token.text ++ Text.dropEnd isMargin (trailing (scan y)) := by
    rw [written_of_endsLine hn, hy]
    conv => left; rw [text_eq y]
    by_cases hm : ∃ c ∈ trailing (scan y), isMargin c = false
    · rw [Text.dropEnd_append_of_exists hm]
    · have hm : ∀ c ∈ trailing (scan y), isMargin c = true := by simpa using hm
      have hnil : Text.dropEnd isMargin (trailing (scan y)) = [] := by
        have := Text.dropEnd_append_of_forall hm []
        rwa [List.nil_append] at this
      rw [Text.dropEnd_append_of_forall hm, hnil, List.append_nil,
        Text.dropEnd_eq_self fun c hc => not_isMargin_of_mark ((leading_ends y).2 c hc)]
  obtain ⟨tail, hsplit, htail⟩ := Text.dropEnd_append_eq isMargin (trailing (scan y))
  have hsub : ∀ c ∈ Text.dropEnd isMargin (trailing (scan y)), c ∈ trailing (scan y) := fun c hc =>
    hsplit ▸ List.mem_append_left _ hc
  refine ⟨_, _, hw, ?_, ?_⟩
  · have hb : (Text.dropEnd isMargin (trailing (scan y))).all Text.isBlank = true :=
      List.all_eq_true.mpr fun c hc => List.all_eq_true.mp ht c (hsub c hc)
    rw [relaid, List.isEmpty_iff.mp hi, List.nil_append, hw,
      visible_leading_append hb fun c hc => hstop c (hsub c hc), written_leading_of_endsLine hn]
  · rw [loose, hy, ht, if_neg hnext, Bool.true_and, Bool.not_eq_false']
    constructor
    · intro hnil
      rw [hnil, List.nil_append] at hsplit
      rw [hsplit]
      exact List.all_eq_true.mpr htail
    · intro hall
      have := Text.dropEnd_append_of_forall (List.all_eq_true.mp hall) []
      rwa [List.nil_append] at this

/-- A piece whose literals are followed by blanks alone, before a brace that opens a block. -/
theorem relaid_literals_leftBrace (h : Inline false text literals closed)
    (hi : (indent w d).isEmpty = true)
    (ht : (trailing (scan (text.dropWhile isMargin))).all Text.isBlank = true) :
    ∃ ls bs, written true (some .leftBrace) text = ls ++ bs ∧ bs ≠ [] ∧
      relaid w d (some .leftBrace) text = ls ++ [' '] ∧
      (bs = [' '] ↔ loose (some .leftBrace) text = false) := by
  have hstop := h.dropWhile_isMargin.trailing_not_stop ht
  have hw := written_leftBrace text
  have hloose : loose (some .leftBrace) text = false ↔
      trailing (scan (text.dropWhile isMargin)) = [] ∨
        trailing (scan (text.dropWhile isMargin)) = [' '] := by
    simp [loose, ht, Decidable.or_iff_not_imp_left]
  rw [hloose, relaid, List.isEmpty_iff.mp hi, List.nil_append, hw]
  generalize text.dropWhile isMargin = y at *
  have hy := text_eq y
  by_cases hnil : trailing (scan y) = []
  · rw [hnil, List.append_nil] at hy
    have hlast : y.getLast?.any Text.isBlank = false := by
      cases hl : y.getLast? with
      | none => rfl
      | some c =>
        rw [hy] at hl
        obtain ⟨q, hq⟩ := Option.ne_none_iff_exists'.mp ((leading_ends y).2 c hl)
        exact not_isBlank_of_mark hq
    refine ⟨y, [' '], by simp [hlast], by simp, ?_, by simp [hnil]⟩
    rw [hlast, if_neg (by simp)]
    conv => left; rw [hy]
    have hspace : ∀ d ∈ [' '], isStop d = false := fun d hd => by
      rw [List.mem_singleton.mp hd]
      rfl
    rw [visible_leading_append rfl hspace, written_leading_leftBrace, ← hy]
  · have hlast : y.getLast?.any Text.isBlank = true := by
      rw [hy, List.getLast?_append_of_ne_nil _ hnil]
      cases hl : (trailing (scan y)).getLast? with
      | none => exact absurd (List.getLast?_eq_none_iff.mp hl) hnil
      | some c => exact List.all_eq_true.mp ht c (List.mem_of_getLast? hl)
    refine ⟨(leading (scan y)).flatMap Token.text, trailing (scan y), ?_, hnil, ?_, by simp [hnil]⟩
    · rw [hlast, if_pos rfl]
      exact hy
    · rw [hlast, if_pos rfl]
      conv => left; rw [hy]
      rw [visible_leading_append ht hstop, written_leading_leftBrace]

/-- What the second layout writes for a piece: not more than the first one, and the same unless the
piece is loose. -/
theorem relaid_spec (h : Inline false text literals closed) (hn : Bounds next)
    (hclosed : next = some .leftBrace → closed = true) (hb : text.all Text.isBlank = false) :
    (relaid w d next text).length ≤ (written true next text).length ∧
      (relaid w d next text = written true next text ↔
        ((indent w d).isEmpty && loose next text) = false) := by
  cases hi : (indent w d).isEmpty with
  | false =>
    rw [relaid_of_indent hi hn hb]
    exact ⟨Nat.le_refl _, by simp⟩
  | true =>
    rw [Bool.true_and]
    cases ht : (trailing (scan (text.dropWhile isMargin))).all Text.isBlank with
    | false =>
      rw [relaid_of_shows h hn hclosed hi ht]
      exact ⟨Nat.le_refl _, by simp [loose, ht]⟩
    | true =>
      obtain hn | rfl := hn
      · obtain ⟨ls, bs, hw, hr, hl⟩ := relaid_literals_of_endsLine h hn hi ht
        rw [hw, hr, ← hl]
        exact ⟨by simp, by simp⟩
      · obtain ⟨ls, bs, hw, hne, hr, hl⟩ := relaid_literals_leftBrace h hi ht
        have hlen := List.length_pos_iff.mpr hne
        rw [hw, hr, ← hl]
        exact ⟨by simp; omega, by simp [eq_comm]⟩

end Relaid

/-! ### All pieces -/

section Layout

variable {w : Nat} {d : Int} {ts : List Token} {text cs ds more : List Char} {next : Option TokenKind}
  {literals : List Token} {closed : Bool}

theorem hasLoose_lineEnd : hasLoose w d (⟨.lineEnd, cs⟩ :: ts) = hasLoose w d ts := by
  simp [hasLoose, balance]

theorem hasLoose_leftBrace : hasLoose w d (⟨.leftBrace, cs⟩ :: ts) = hasLoose w (d + 1) ts := by
  simp [hasLoose, balance]

theorem hasLoose_rightBrace : hasLoose w d (⟨.rightBrace, cs⟩ :: ts) = hasLoose w (d - 1) ts := by
  simp [hasLoose, balance, Int.sub_eq_add_neg]

theorem hasLoose_text :
    hasLoose w d (⟨.other, text⟩ :: ts) =
      ((indent w d).isEmpty && loose (ts.head?.map Token.kind) text || hasLoose w d ts) := by
  have hb : balance [⟨.other, text⟩] = 0 := rfl
  simp only [hasLoose, hb, Int.add_zero, decide_true, Bool.true_and]

theorem pieces_cons {c : Char} {k : TokenKind} (hc : structural? c = some k) :
    pieces (c :: cs) = ⟨k, [c]⟩ :: pieces cs := by
  have hnil : pieces [] = [] := by
    rw [pieces, shownTokens, tokens, scan, scanFrom_nil]
    rfl
  have := Inline.nil.pieces_append hc cs
  rwa [hnil] at this

theorem pieces_indent {c : Char} {k : TokenKind} (hc : structural? c = some k) :
    pieces (indent w d ++ c :: cs) = ⟨k, [c]⟩ :: pieces cs := by
  have hi := Inline.of_indent w d
  have hblank : (indent w d).all Text.isBlank = true := List.all_eq_true.mpr fun c hc =>
    isBlank_of_isMargin (isMargin_of_mem_indent hc)
  rw [hi.pieces_append hc, hi.pieces_eq, if_pos hblank, List.nil_append]

/-- A piece as it is written is a piece of the text laid out. -/
theorem pieces_written (h : Inline false (written true next text) literals closed)
    (hn : Bounds next) (hb : text.all Text.isBlank = false) :
    pieces (indent w d ++ written true next text) =
      [⟨.other, visible (scan (indent w d ++ written true next text))⟩] := by
  rw [(h.indent_append w d).pieces_eq, List.all_append, all_isBlank_written hn hb, Bool.and_false,
    if_neg (by simp)]

theorem pieces_written_append (h : Inline false (written true next text) literals true)
    (hn : Bounds next) (hb : text.all Text.isBlank = false) {c : Char} {k : TokenKind}
    (hc : structural? c = some k) :
    pieces (indent w d ++ (written true next text ++ c :: cs)) =
      ⟨.other, visible (scan (indent w d ++ written true next text))⟩ :: ⟨k, [c]⟩ :: pieces cs := by
  rw [← List.append_assoc, (h.indent_append w d).pieces_append hc, pieces_written h hn hb]
  rfl

theorem append_eq_append_iff_of_length_le {a b a' b' : List Char} (ha : a'.length ≤ a.length)
    (hb : b'.length ≤ b.length) : a' ++ b' = a ++ b ↔ a' = a ∧ b' = b := by
  constructor
  · intro h
    have := congrArg List.length h
    simp only [List.length_append] at this
    exact List.append_inj h (by omega)
  · rintro ⟨rfl, rfl⟩
    rfl

/-- The second layout of pieces: not longer than the first one, and the same unless one of the
pieces is loose. -/
theorem Laid.exists_relaid (h : Laid w d ts cs) (hf : Fit ts) :
    ∃ ds, Laid w d (pieces cs) ds ∧ ds.length ≤ cs.length ∧ (ds = cs ↔ hasLoose w d ts = false) := by
  -- no line gets longer, so the whole is unchanged only if every line is
  induction h with
  | nil =>
    refine ⟨[], ?_, Nat.le_refl _, by simp [hasLoose]⟩
    rw [pieces, shownTokens, tokens, scan, scanFrom_nil]
    exact .nil
  | skip _ ih =>
    rw [hasLoose_lineEnd]
    exact ih hf.tail
  | @last d text =>
    obtain ⟨literals, closed, h, hb, -⟩ := hf.text_spec
    have hn : Bounds none := .inl rfl
    obtain ⟨hlen, hiff⟩ := relaid_spec (w := w) (d := d) h hn (by simp) hb
    rw [pieces_written (h.written_of_endsLine rfl) hn hb]
    refine ⟨_, .last, by simpa [relaid] using hlen, ?_⟩
    rw [List.append_right_inj, hasLoose_text, ← relaid, hiff]
    simp [hasLoose]
  | @text d text ts cs k hk he _ ih =>
    obtain ⟨literals, closed, h, hb, hclosed⟩ := hf.text_spec
    obtain rfl := hclosed (by rintro rfl; cases hk)
    obtain ⟨ds, hds, hlen, hiff⟩ := ih hf.tail
    have hall : (some k).all TokenKind.endsLine = true := he
    obtain ⟨hwlen, hwiff⟩ := relaid_spec (w := w) (d := d) h (.inl hall) (by simp) hb
    have hrelaid : written true (some .lineEnd)
        (visible (scan (indent w d ++ written true (some k) text))) = relaid w d (some k) text := by
      exact written_congr rfl hall _
    rw [pieces_written_append (h.written_of_endsLine hall) (.inl hall) hb rfl]
    refine ⟨_, .text rfl rfl (.skip hds), ?_, ?_⟩
    · rw [hrelaid]
      simp
      omega
    · rw [hrelaid, List.append_right_inj, append_eq_append_iff_of_length_le hwlen (by simpa using hlen),
        hwiff, hasLoose_text, hk, List.cons_inj_right, hiff, Bool.or_eq_false_iff]
  | @opens d ts cs _ ih =>
    obtain ⟨ds, hds, hlen, hiff⟩ := ih hf.tail
    rw [pieces_indent rfl, pieces_cons rfl, hasLoose_leftBrace]
    exact ⟨_, .opens (.skip hds), by simpa using hlen, by simpa using hiff⟩
  | @textOpens d text ts cs _ ih =>
    obtain ⟨literals, closed, h, hb, hclosed⟩ := hf.text_spec
    obtain rfl := hclosed (by simp)
    obtain ⟨ds, hds, hlen, hiff⟩ := ih hf.tail.tail
    have hn : Bounds (some .leftBrace) := .inr rfl
    obtain ⟨hwlen, hwiff⟩ := relaid_spec (w := w) (d := d) h hn (by simp) hb
    rw [pieces_written_append h.written_leftBrace hn hb rfl, pieces_cons rfl]
    refine ⟨_, .textOpens (.skip hds), ?_, ?_⟩
    · rw [← relaid]
      simp
      omega
    · rw [← relaid, List.append_right_inj,
        append_eq_append_iff_of_length_le hwlen (by simpa using hlen), hwiff, hasLoose_text,
        hasLoose_leftBrace, Bool.or_eq_false_iff]
      simp [hiff]
  | @closes d ts cs _ _ ih =>
    obtain ⟨ds, hds, hlen, hiff⟩ := ih hf.tail
    rw [pieces_indent rfl, pieces_cons rfl, hasLoose_rightBrace]
    exact ⟨_, .closes (by simp) (.skip hds), by simpa using hlen, by simpa using hiff⟩
  | @reopens d ts cs _ ih =>
    obtain ⟨ds, hds, hlen, hiff⟩ := ih hf.tail.tail
    rw [pieces_indent rfl, pieces_cons rfl, pieces_cons rfl, hasLoose_rightBrace,
      hasLoose_leftBrace, Int.sub_add_cancel]
    exact ⟨_, .reopens (.skip hds), by simpa using hlen, by simpa using hiff⟩

theorem dropWhile_written (hn : Bounds next) (hb : text.all Text.isBlank = false) :
    (written true next text).dropWhile isMargin = written true next text := by
  obtain hn | rfl := hn
  · rw [written_of_endsLine hn, Text.dropWhile_dropEnd fun _ => Text.head?_dropWhile]
  · have hy : text.dropWhile isMargin ≠ [] := by
      intro hnil
      obtain ⟨c, hc, hcb⟩ := List.all_eq_false.mp hb
      have := isBlank_of_isMargin (List.dropWhile_eq_nil_iff.mp hnil c hc)
      exact hcb this
    refine Text.dropWhile_eq_self fun c hc => ?_
    have hhead : c ∈ (text.dropWhile isMargin).head? := by
      rw [written_leftBrace] at hc
      split at hc
      · exact hc
      · obtain ⟨a, tail, hcons⟩ := List.exists_cons_of_ne_nil hy
        rw [hcons] at hc ⊢
        exact hc
    exact Text.head?_dropWhile hhead

/-- What is shown of a stretch that starts with no blanks is not loose. -/
theorem loose_visible (h : cs.dropWhile isMargin = cs) (next : Option TokenKind) :
    loose next (visible (scan cs)) = false := by
  cases ht : (trailing (scan cs)).all Text.isBlank with
  | false => rw [visible_eq_self ht, loose, h, ht, Bool.false_and]
  | true =>
    rw [visible, if_pos ht, List.append_nil, loose,
      Text.dropWhile_eq_self fun c hc => not_isMargin_of_mark ((leading_ends cs).1 c hc),
      trailing_leading]
    by_cases hn : next = some .leftBrace <;> simp [hn]

/-- The second layout has no loose pieces to start from. -/
theorem Laid.hasLoose_pieces (h : Laid w d ts cs) (hf : Fit ts) :
    hasLoose w d (pieces cs) = false := by
  have hline {d : Int} {next : Option TokenKind} {text : List Char} (hn : Bounds next)
      (hb : text.all Text.isBlank = false) (next' : Option TokenKind) :
      ((indent w d).isEmpty &&
        loose next' (visible (scan (indent w d ++ written true next text)))) = false := by
    cases hi : (indent w d).isEmpty with
    | false => rfl
    | true =>
      rw [List.isEmpty_iff.mp hi, List.nil_append, loose_visible (dropWhile_written hn hb)]
      rfl
  induction h with
  | nil =>
    rw [pieces, shownTokens, tokens, scan, scanFrom_nil]
    rfl
  | skip _ ih => exact ih hf.tail
  | @last d text =>
    obtain ⟨literals, closed, h, hb, -⟩ := hf.text_spec
    rw [pieces_written (h.written_of_endsLine rfl) (.inl rfl) hb, hasLoose_text,
      hline (.inl rfl) hb]
    rfl
  | @text d text ts cs k hk he _ ih =>
    obtain ⟨literals, closed, h, hb, hclosed⟩ := hf.text_spec
    obtain rfl := hclosed (by rintro rfl; cases hk)
    have hall : (some k).all TokenKind.endsLine = true := he
    rw [pieces_written_append (h.written_of_endsLine hall) (.inl hall) hb rfl, hasLoose_text,
      hline (.inl hall) hb, hasLoose_lineEnd, ih hf.tail]
    rfl
  | @opens d ts cs _ ih =>
    rw [pieces_indent rfl, pieces_cons rfl, hasLoose_leftBrace, hasLoose_lineEnd, ih hf.tail]
  | @textOpens d text ts cs _ ih =>
    obtain ⟨literals, closed, h, hb, hclosed⟩ := hf.text_spec
    obtain rfl := hclosed (by simp)
    rw [pieces_written_append h.written_leftBrace (.inr rfl) hb rfl, pieces_cons rfl,
      hasLoose_text, hline (.inr rfl) hb, hasLoose_leftBrace, hasLoose_lineEnd, ih hf.tail.tail]
    rfl
  | @closes d ts cs _ _ ih =>
    rw [pieces_indent rfl, pieces_cons rfl, hasLoose_rightBrace, hasLoose_lineEnd, ih hf.tail]
  | @reopens d ts cs _ ih =>
    rw [pieces_indent rfl, pieces_cons rfl, pieces_cons rfl, hasLoose_rightBrace,
      hasLoose_leftBrace, hasLoose_lineEnd, Int.sub_add_cancel, ih hf.tail.tail]

theorem lay_lay_eq_iff (w : Nat) (cs : List Char) :
    (lay w (lay w cs).1).1 = (lay w cs).1 ↔ hasLoose w 0 (pieces cs) = false := by
  obtain ⟨ds, hds, -, hiff⟩ := (lay_laid w cs).exists_relaid (fit_pieces cs)
  rw [(lay_laid w _).unique hds, hiff]

end Layout

/-- A text laid out is its own layout unless one of its pieces is loose. -/
theorem format_format_eq_iff (w : Nat) (s : String) :
    format w (format w s) = format w s ↔ hasLoose w 0 (pieces s.toList) = false := by
  rw [format, format, String.toList_ofList, String.ofList_inj]
  exact lay_lay_eq_iff w s.toList

/-- A literal after blanks, with two blanks before a brace: the second layout keeps one of them. -/
theorem format_literal_after_blanks :
    format 4 " 'a'  \x7b" = "'a'  \x7b\n" ∧ format 4 "'a'  \x7b\n" = "'a' \x7b\n" := by
  constructor <;> cbv

/-- Two layouts are enough: a third one changes nothing. -/
theorem format_format_format (w : Nat) (s : String) :
    format w (format w (format w s)) = format w (format w s) := by
  rw [format, format, String.toList_ofList, String.ofList_inj, lay_lay_eq_iff, format,
    String.toList_ofList]
  exact (lay_laid w s.toList).hasLoose_pieces (fit_pieces s.toList)

end Jenkinsfile.Script
