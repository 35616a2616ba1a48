import Jenkinsfile.Proofs.Script.Relayout

/-! The lines of a text laid out.  A line stands between two line ends, or between one and an end of
the text; line ends inside of literals do not count.  The main statement is `format_lines`: every
line shows something between the blanks of its depth and its last character, a brace that opens a
block ends its line, and one that closes a block starts its own. -/

namespace Jenkinsfile.Script

/-- The text of tokens. -/
def tokensText (ts : List Token) : List Char := ts.flatMap Token.text

/-- `line` stands in `ts` between two line ends, or between one and an end of `ts`, with `before`
before it and `after` after it.  What stands after the last line end is a line only if there is
something. -/
structure IsLine (ts before line after : List Token) : Prop where
  split : ts = before ++ (line ++ after)
  unbroken : ∀ t ∈ line, t.kind ≠ .lineEnd
  starts : ∀ t ∈ before.getLast?, t.kind = .lineEnd
  ends : ∀ t ∈ after.head?, t.kind = .lineEnd
  proper : line ≠ [] ∨ after ≠ []

/-- Whether a right brace is the first that a line shows. -/
def startsBlockEnd (line : List Token) : Bool :=
  (line.find? (!·.isBlank)).any (·.kind = .rightBrace)

/-- The depth of a line, given the depth before it: one less if a right brace starts it. -/
def lineDepth (d : Int) (line : List Token) : Int := if startsBlockEnd line then d - 1 else d

/-- A line at depth `d` in normal form: only blanks stand before a right brace, something is shown,
the line ends with neither a blank nor a tab, and it starts with the blanks of its depth and
neither a blank nor a tab after them. -/
structure Neat (w : Nat) (d : Int) (line : List Token) : Prop where
  closes : ∀ before t after, line = before ++ t :: after → t.kind = .rightBrace →
    ∀ c ∈ tokensText before, c = ' '
  shows : ∃ c ∈ tokensText line, Text.isBlank c = false
  trimmed : ∀ c ∈ (tokensText line).getLast?, c ≠ ' ' ∧ c ≠ '\t'
  indented : ∃ rest,
    tokensText line = List.replicate (w * (lineDepth d line).toNat) ' ' ++ rest ∧
      ∀ c ∈ rest.head?, c ≠ ' ' ∧ c ≠ '\t'

/-- Lines in normal form from depth `d` on.  Each ends with a line end but for the last one, and
only the last token before a line end opens a block. -/
inductive Lined (w : Nat) : Int → List Token → Prop
  | nil {d : Int} : Lined w d []
  | last {d : Int} {line : List Token} :
      Neat w d line → (∀ t ∈ line, t.kind ≠ .lineEnd ∧ t.kind ≠ .leftBrace) → Lined w d line
  | line {d : Int} {line ts : List Token} :
      Neat w d line → (∀ t ∈ line, t.kind ≠ .lineEnd) →
      (∀ t ∈ line.dropLast, t.kind ≠ .leftBrace) → Lined w (d + balance line) ts →
      Lined w d (line ++ ⟨.lineEnd, ['\n']⟩ :: ts)

/-! ### Lines in normal form -/

section Neat

variable {w : Nat} {d : Int} {front line : List Token} {body : List Char}

theorem tokensText_append (ts us : List Token) :
    tokensText (ts ++ us) = tokensText ts ++ tokensText us := List.flatMap_append ..

theorem tokensText_scan (cs : List Char) : tokensText (scan cs) = cs := scanFrom_flatMap_text false cs

theorem balance_append (ts us : List Token) : balance (ts ++ us) = balance ts + balance us := by
  simp only [balance, List.countP_append]
  omega

theorem isMargin_eq_false {c : Char} : isMargin c = false ↔ c ≠ ' ' ∧ c ≠ '\t' := by
  simp [isMargin]

theorem not_brace_of_joinsOther {t : Token} (h : t.kind.joinsOther = true) :
    t.kind ≠ .lineEnd ∧ t.kind ≠ .leftBrace ∧ t.kind ≠ .rightBrace := by
  obtain ⟨k, text⟩ := t
  cases k <;> simp_all [TokenKind.joinsOther, TokenKind.isLiteral]

theorem balance_of_all_joinsOther {ts : List Token} (h : ∀ t ∈ ts, t.kind.joinsOther = true) :
    balance ts = 0 := by
  induction ts with
  | nil => rfl
  | cons t ts ih =>
    rw [balance_cons, balance_of_joinsOther (h t List.mem_cons_self),
      ih fun u hu => h u (List.mem_cons_of_mem _ hu), Int.zero_add]

theorem startsBlockEnd_eq_false (h : ∀ t ∈ line, t.kind ≠ .rightBrace) :
    startsBlockEnd line = false := by
  rw [startsBlockEnd]
  cases hf : line.find? (!·.isBlank) with
  | none => rfl
  | some t => simpa using h t (List.mem_of_find?_eq_some hf)

/-- A line without a right brace is indented by the depth before it. -/
theorem neat_of_no_rightBrace (h : ∀ t ∈ line, t.kind ≠ .rightBrace)
    (htext : tokensText line = indent w d ++ body) (hshow : ∃ c ∈ body, Text.isBlank c = false)
    (hlast : ∀ c ∈ body.getLast?, isMargin c = false)
    (hhead : ∀ c ∈ body.head?, isMargin c = false) : Neat w d line where
  closes before t after hline ht := absurd ht (h t (by simp [hline]))
  shows := by
    obtain ⟨c, hc, hb⟩ := hshow
    exact ⟨c, htext ▸ List.mem_append_right _ hc, hb⟩
  trimmed := by
    intro c hc
    have hne : body ≠ [] := by
      rintro rfl
      obtain ⟨c, hc, -⟩ := hshow
      cases hc
    rw [htext, List.getLast?_append_of_ne_nil _ hne] at hc
    exact isMargin_eq_false.mp (hlast c hc)
  indented := by
    refine ⟨body, ?_, fun c hc => isMargin_eq_false.mp (hhead c hc)⟩
    rw [htext, lineDepth, startsBlockEnd_eq_false h, indent, Nat.mul_comm]
    rfl

/-- Before the first right brace of a line there is nothing but what starts the line. -/
theorem blanks_before_rightBrace {t b : Token} {before after more : List Token}
    (hfront : ∀ u ∈ front, u.kind ≠ .rightBrace) (hmore : ∀ u ∈ more, u.kind ≠ .rightBrace)
    (hline : front ++ b :: more = before ++ t :: after) (ht : t.kind = .rightBrace)
    (hblank : ∀ c ∈ tokensText front, c = ' ') : ∀ c ∈ tokensText before, c = ' ' := by
  induction front generalizing before with
  | nil =>
    cases before with
    | nil => simp [tokensText]
    | cons u before =>
      obtain ⟨rfl, rfl⟩ : b = u ∧ more = before ++ t :: after := by simpa using hline
      exact absurd ht (hmore t (by simp))
  | cons u front ih =>
    cases before with
    | nil =>
      obtain ⟨rfl, -⟩ : u = t ∧ front ++ b :: more = after := by simpa using hline
      exact absurd ht (hfront u List.mem_cons_self)
    | cons v before =>
      obtain ⟨rfl, htail⟩ : u = v ∧ front ++ b :: more = before ++ t :: after := by simpa using hline
      simp only [tokensText, List.flatMap_cons, List.mem_append] at hblank ⊢
      have ih := ih (fun x hx => hfront x (List.mem_cons_of_mem _ hx)) htail
        fun c hc => hblank c (.inr hc)
      rintro c (hc | hc)
      · exact hblank c (.inl hc)
      · exact ih c hc

/-- The tokens of the blanks before a line. -/
theorem scan_indent (w : Nat) (d : Int) :
    scan (indent w d) = if (indent w d).isEmpty then [] else [⟨.other, indent w d⟩] :=
  scan_of_not_stop fun _ hc => isStop_of_isMargin (isMargin_of_mem_indent hc)

theorem joinsOther_of_mem_scan_indent {t : Token} (h : t ∈ scan (indent w d)) :
    t.kind.joinsOther = true := (Inline.of_indent w d).scanFrom_tokens.1 t h

/-- A line that a right brace starts is indented by the depth after the brace. -/
theorem neat_rightBrace {more : List Token} (hmore : ∀ t ∈ more, t.kind ≠ .rightBrace)
    (hlast : ∀ c ∈ (tokensText more).getLast?, isMargin c = false) :
    Neat w d (scan (indent w (d - 1)) ++ ⟨.rightBrace, ['\x7d']⟩ :: more) where
  closes before t after hline ht := by
    refine blanks_before_rightBrace (fun u hu => ?_) hmore hline ht fun c hc => ?_
    · exact (not_brace_of_joinsOther (joinsOther_of_mem_scan_indent hu)).2.2
    · rw [tokensText_scan] at hc
      exact List.eq_of_mem_replicate hc
  shows := ⟨'\x7d', by simp [tokensText], rfl⟩
  trimmed := by
    intro c hc
    rw [tokensText_append, List.getLast?_append_of_ne_nil _ (by simp [tokensText]), tokensText,
      List.flatMap_cons, ← tokensText] at hc
    by_cases hnil : tokensText more = []
    · obtain rfl : '\x7d' = c := by simpa [hnil] using hc
      decide
    · rw [List.getLast?_append_of_ne_nil _ hnil] at hc
      exact isMargin_eq_false.mp (hlast c hc)
  indented := by
    have hstarts : startsBlockEnd
        (scan (indent w (d - 1)) ++ ⟨.rightBrace, ['\x7d']⟩ :: more) = true := by
      have hblank : (indent w (d - 1)).all Text.isBlank = true := List.all_eq_true.mpr
        fun c hc => isBlank_of_isMargin (isMargin_of_mem_indent hc)
      rw [startsBlockEnd, scan_indent]
      split <;> simp [Token.isBlank, hblank]
    refine ⟨'\x7d' :: tokensText more, ?_, by simp⟩
    rw [tokensText_append, tokensText_scan, lineDepth, hstarts, indent, Nat.mul_comm]
    rfl

end Neat

/-! ### A layout line by line -/

section Layout

variable {w : Nat} {d : Int} {text : List Char} {next : Option TokenKind} {literals : List Token}
  {closed : Bool}

theorem head?_written (hn : Bounds next) (hb : text.all Text.isBlank = false) :
    ∀ c ∈ (written true next text).head?, isMargin c = false := by
  rw [← dropWhile_written hn hb]
  exact fun c hc => Text.head?_dropWhile hc

theorem getLast?_written (hn : next.all TokenKind.endsLine = true) :
    ∀ c ∈ (written true next text).getLast?, isMargin c = false := by
  rw [written_of_endsLine hn]
  exact fun c hc => Text.getLast?_dropEnd hc

theorem exists_shown_written (hn : Bounds next) (hb : text.all Text.isBlank = false) :
    ∃ c ∈ written true next text, Text.isBlank c = false := by
  simpa using List.all_eq_false.mp (all_isBlank_written hn hb)

/-- A line of text. -/
theorem neat_text (h : Inline false text literals closed) (hn : next.all TokenKind.endsLine = true)
    (hb : text.all Text.isBlank = false) :
    Neat w d (scan (indent w d ++ written true next text)) := by
  have hj := ((h.written_of_endsLine hn).indent_append w d).scanFrom_tokens.1
  exact neat_of_no_rightBrace (fun t ht => (not_brace_of_joinsOther (hj t ht)).2.2)
    (tokensText_scan _) (exists_shown_written (.inl hn) hb) (getLast?_written hn)
    (head?_written (.inl hn) hb)

/-- A line that a left brace ends. -/
theorem neat_leftBrace {front : List Token} {body : List Char}
    (hj : ∀ t ∈ front, t.kind.joinsOther = true) (htext : tokensText front = indent w d ++ body)
    (hhead : ∀ c ∈ body.head?, isMargin c = false) :
    Neat w d (front ++ [⟨.leftBrace, ['\x7b']⟩]) := by
  have htext' : tokensText (front ++ [⟨.leftBrace, ['\x7b']⟩]) = indent w d ++ (body ++ ['\x7b']) := by
    rw [tokensText_append, htext, List.append_assoc]
    rfl
  refine neat_of_no_rightBrace (fun t ht => ?_) htext' ⟨'\x7b', by simp, rfl⟩ (by simp; rfl) ?_
  · rcases List.mem_append.mp ht with ht | ht
    · exact (not_brace_of_joinsOther (hj t ht)).2.2
    · simp [List.mem_singleton.mp ht]
  · cases body with
    | nil => simp; rfl
    | cons c body => exact hhead

/-- A line that ends with braces, before other lines. -/
theorem Lined.braces {front marks ts : List Token} (hj : ∀ t ∈ front, t.kind.joinsOther = true)
    (hne : marks ≠ []) (hmarks : ∀ t ∈ marks, t.kind ≠ .lineEnd)
    (hopen : ∀ t ∈ marks.dropLast, t.kind ≠ .leftBrace) (hneat : Neat w d (front ++ marks))
    (h : Lined w (d + balance marks) ts) :
    Lined w d (front ++ (marks ++ ⟨.lineEnd, ['\n']⟩ :: ts)) := by
  rw [← List.append_assoc]
  refine .line hneat (fun t ht => ?_) (fun t ht => ?_) ?_
  · rcases List.mem_append.mp ht with ht | ht
    · exact (not_brace_of_joinsOther (hj t ht)).1
    · exact hmarks t ht
  · rw [List.dropLast_append_of_ne_nil hne] at ht
    rcases List.mem_append.mp ht with ht | ht
    · exact (not_brace_of_joinsOther (hj t ht)).2.1
    · exact hopen t ht
  · rwa [balance_append, balance_of_all_joinsOther hj, Int.zero_add]

/-- The tokens of a layout are lines in normal form. -/
theorem Laid.lined {ts : List Token} {cs : List Char} (h : Laid w d ts cs) (hf : Fit ts) :
    Lined w d (scan cs) := by
  induction h with
  | nil =>
    rw [scan, scanFrom_nil]
    exact .nil
  | skip _ ih => exact ih hf.tail
  | @last d text =>
    obtain ⟨literals, closed, h, hb, -⟩ := hf.text_spec
    have hline : Inline false (written true none text) literals closed := h.written_of_endsLine rfl
    have hj := (hline.indent_append w d).scanFrom_tokens.1
    exact .last (neat_text h rfl hb) fun t ht =>
      ⟨(not_brace_of_joinsOther (hj t ht)).1, (not_brace_of_joinsOther (hj t ht)).2.1⟩
  | @text d text ts cs k hk he _ ih =>
    obtain ⟨literals, closed, h, hb, hclosed⟩ := hf.text_spec
    obtain rfl := hclosed (by rintro rfl; cases hk)
    have hk : (some k).all TokenKind.endsLine = true := he
    have hline := (h.written_of_endsLine hk).indent_append w d
    have hj := hline.scanFrom_tokens.1
    rw [← List.append_assoc, scan, hline.scanFrom_append rfl]
    refine .line (neat_text h hk hb) (fun t ht => (not_brace_of_joinsOther (hj t ht)).1)
      (fun t ht => (not_brace_of_joinsOther (hj t (List.mem_of_mem_dropLast ht))).2.1) ?_
    rw [balance_of_all_joinsOther hj, Int.add_zero]
    exact ih hf.tail
  | @opens d ts cs _ ih =>
    have hline := Inline.of_indent w d
    have htext : tokensText (scan (indent w d)) = indent w d ++ [] := by simp [tokensText_scan]
    have hneat := neat_leftBrace hline.scanFrom_tokens.1 htext (by simp)
    have h := Lined.braces hline.scanFrom_tokens.1 (by simp) (by simp) (by simp) hneat (ih hf.tail)
    rw [scan, hline.scanFrom_append rfl, scan, scanFrom_structural rfl]
    exact h
  | @textOpens d text ts cs _ ih =>
    obtain ⟨literals, closed, h, hb, hclosed⟩ := hf.text_spec
    obtain rfl := hclosed (by simp)
    have hline := h.written_leftBrace.indent_append w d
    have hhead : ∀ c ∈ (written true (some .leftBrace) text).head?, isMargin c = false :=
      head?_written (.inr rfl) hb
    have hneat := neat_leftBrace hline.scanFrom_tokens.1 (tokensText_scan _) hhead
    have h := Lined.braces hline.scanFrom_tokens.1 (by simp) (by simp) (by simp) hneat
      (ih hf.tail.tail)
    rw [← List.append_assoc, scan, hline.scanFrom_append rfl, scan, scanFrom_structural rfl]
    exact h
  | @closes d ts cs _ _ ih =>
    have hline := Inline.of_indent w (d - 1)
    have hneat : Neat w d (scan (indent w (d - 1)) ++ [⟨.rightBrace, ['\x7d']⟩]) :=
      neat_rightBrace (by simp) (by simp [tokensText])
    have h := Lined.braces hline.scanFrom_tokens.1 (by simp) (by simp) (by simp) hneat (ih hf.tail)
    rw [scan, hline.scanFrom_append rfl, scan, scanFrom_structural rfl]
    exact h
  | @reopens d ts cs _ ih =>
    have hline := Inline.of_indent w (d - 1)
    have hneat : Neat w d (scan (indent w (d - 1)) ++
        [⟨.rightBrace, ['\x7d']⟩, ⟨.leftBrace, ['\x7b']⟩]) :=
      neat_rightBrace (by simp) (by simp [tokensText]; rfl)
    have hrest : Lined w (d + balance [⟨.rightBrace, ['\x7d']⟩, ⟨.leftBrace, ['\x7b']⟩])
        (scan cs) := by
      simpa [balance] using ih hf.tail.tail
    have h := Lined.braces hline.scanFrom_tokens.1 (by simp) (by simp) (by simp) hneat hrest
    rw [scan, hline.scanFrom_append rfl, scan, scanFrom_structural rfl, scan,
      scanFrom_structural rfl]
    exact h

end Layout

/-! ### Every line -/

section Lines

variable {w : Nat} {d : Int} {ts before line after : List Token}

/-- The first line end of a list of tokens is found in one way. -/
theorem split_at_lineEnd {line line' after after' : List Token} {b b' : Token}
    (h : line ++ b :: after = line' ++ b' :: after') (hline : ∀ t ∈ line, t.kind ≠ .lineEnd)
    (hline' : ∀ t ∈ line', t.kind ≠ .lineEnd) (hb : b.kind = .lineEnd) (hb' : b'.kind = .lineEnd) :
    line = line' ∧ after = after' := by
  induction line generalizing line' with
  | nil =>
    cases line' with
    | nil => exact ⟨rfl, (List.cons.inj h).2⟩
    | cons u line' =>
      obtain ⟨rfl, -⟩ := List.cons.inj h
      exact absurd hb (hline' _ List.mem_cons_self)
  | cons t line ih =>
    cases line' with
    | nil =>
      obtain ⟨rfl, -⟩ := List.cons.inj h
      exact absurd hb' (hline _ List.mem_cons_self)
    | cons u line' =>
      obtain ⟨rfl, htail⟩ := List.cons.inj h
      obtain ⟨rfl, hafter⟩ := ih htail (fun t ht => hline t (List.mem_cons_of_mem _ ht))
        fun t ht => hline' t (List.mem_cons_of_mem _ ht)
      exact ⟨rfl, hafter⟩

/-- Before a line that is not the first one there is a line end. -/
theorem IsLine.exists_concat (h : IsLine ts before line after) (hne : before ≠ []) :
    ∃ init b, before = init ++ [b] ∧ b.kind = .lineEnd := by
  obtain rfl | ⟨init, b, rfl⟩ := before.eq_nil_or_concat
  · exact absurd rfl hne
  · exact ⟨init, b, by simp, h.starts b (by simp)⟩

theorem IsLine.eq_of_no_lineEnd (h : IsLine ts before line after)
    (hts : ∀ t ∈ ts, t.kind ≠ .lineEnd) : before = [] ∧ line = ts := by
  have hbefore : before = [] := by
    by_contra hne
    obtain ⟨init, b, rfl, hb⟩ := h.exists_concat hne
    exact hts b (by simp [h.split]) hb
  have hafter : after = [] := by
    cases after with
    | nil => rfl
    | cons a after => exact absurd (h.ends a rfl) (hts a (by simp [h.split]))
  refine ⟨hbefore, ?_⟩
  rw [h.split, hbefore, hafter, List.nil_append, List.append_nil]

/-- A line is the first one, or one of those after its line end. -/
theorem IsLine.cases {first rest : List Token} {b : Token}
    (h : IsLine (first ++ b :: rest) before line after) (hfirst : ∀ t ∈ first, t.kind ≠ .lineEnd)
    (hb : b.kind = .lineEnd) :
    before = [] ∧ line = first ∨
      ∃ before', before = first ++ b :: before' ∧ IsLine rest before' line after := by
  by_cases hne : before = []
  · subst hne
    refine .inl ⟨rfl, ?_⟩
    have hsplit := h.split
    cases after with
    | nil =>
      have hmem : b ∈ line := by
        rw [List.nil_append, List.append_nil] at hsplit
        rw [← hsplit]
        exact List.mem_append_right _ List.mem_cons_self
      exact absurd hb (h.unbroken b hmem)
    | cons a after =>
      exact (split_at_lineEnd hsplit hfirst h.unbroken hb (h.ends a rfl)).1.symm
  · obtain ⟨init, e, rfl, he⟩ := h.exists_concat hne
    right
    obtain ⟨tail, htail, hrest⟩ | ⟨tail, htail, hrest⟩ := List.append_eq_append_iff.mp h.split
    · -- the line end of the first line stands before the line
      cases tail with
      | nil =>
        have hmem : e ∈ first := by
          rw [List.append_nil] at htail
          rw [← htail]
          exact List.mem_append_right _ List.mem_cons_self
        exact absurd he (hfirst e hmem)
      | cons c tail =>
        obtain ⟨rfl, rfl⟩ := List.cons.inj hrest
        refine ⟨tail, htail, rfl, h.unbroken, fun t ht => ?_, h.ends, h.proper⟩
        refine h.starts t ?_
        rw [htail, List.getLast?_append, List.getLast?_cons, Option.mem_def.mp ht]
        rfl
    · have hmem : e ∈ first := by
        rw [htail]
        exact List.mem_append_left _ (List.mem_append_right _ List.mem_cons_self)
      exact absurd he (hfirst e hmem)

/-- Every line of lines in normal form is one at the depth of the braces before it. -/
theorem Lined.neat (h : Lined w d ts) (hl : IsLine ts before line after) :
    Neat w (d + balance before) line := by
  induction h generalizing before with
  | nil =>
    have hsplit := hl.split
    simp only [List.nil_eq, List.append_eq_nil_iff] at hsplit
    exact absurd hsplit.2 (not_and_or.mpr hl.proper)
  | last hneat hline =>
    obtain ⟨rfl, rfl⟩ := hl.eq_of_no_lineEnd fun t ht => (hline t ht).1
    simpa [balance] using hneat
  | @line d first ts hneat hline _ _ ih =>
    obtain ⟨rfl, rfl⟩ | ⟨before, rfl, hrest⟩ := hl.cases hline rfl
    · simpa [balance] using hneat
    · have hbalance : d + balance (first ++ ⟨.lineEnd, ['\n']⟩ :: before) =
          d + balance first + balance before := by
        rw [balance_append, balance_cons]
        simp [balance, Int.add_assoc]
      rw [hbalance]
      exact ih hrest

/-- After every left brace there is a line end. -/
theorem Lined.lineEnd_after_leftBrace (h : Lined w d ts) {t : Token}
    (hsplit : ts = before ++ t :: after) (ht : t.kind = .leftBrace) :
    after.head?.map Token.kind = some .lineEnd := by
  induction h generalizing before with
  | nil => simp at hsplit
  | last _ hline => exact absurd ht (hline t (by simp [hsplit])).2
  | @line d first ts _ _ hopen _ ih =>
    obtain ⟨tail, rfl, hrest⟩ | ⟨tail, htail, hrest⟩ := List.append_eq_append_iff.mp hsplit
    · cases tail with
      | nil =>
        obtain ⟨rfl, -⟩ := List.cons.inj hrest
        cases ht
      | cons c tail => exact ih (List.cons.inj hrest).2
    · cases tail with
      | nil =>
        obtain ⟨rfl, -⟩ := List.cons.inj hrest
        cases ht
      | cons c tail =>
        obtain ⟨rfl, rfl⟩ := List.cons.inj hrest
        cases tail with
        | nil => rfl
        | cons u tail =>
          have hmem : t ∈ first.dropLast := by
            rw [htail, List.dropLast_append_of_ne_nil (by simp)]
            simp
          exact absurd ht (hopen t hmem)

end Lines

/-- A text laid out is in normal form: a line end follows every left brace, no line end comes first,
and every line is neat at the depth of the braces before it. -/
theorem format_lines (w : Nat) (s : String) :
    (∀ before t after, scan (format w s).toList = before ++ t :: after → t.kind = .leftBrace →
        after.head?.map Token.kind = some .lineEnd) ∧
      (format w s).toList.head? ≠ some '\n' ∧
      ∀ before line after, IsLine (scan (format w s).toList) before line after →
        Neat w (balance before) line := by
  have h : Lined w 0 (scan (format w s).toList) := by
    rw [format, String.toList_ofList]
    exact (lay_laid w s.toList).lined (fit_pieces s.toList)
  have hneat : ∀ before line after, IsLine (scan (format w s).toList) before line after →
      Neat w (balance before) line := by
    intro before line after hl
    simpa using h.neat hl
  refine ⟨fun before t after hsplit => h.lineEnd_after_leftBrace hsplit, fun hfirst => ?_, hneat⟩
  -- a line end that comes first would end an empty line
  obtain ⟨cs, hcs⟩ : ∃ cs, (format w s).toList = '\n' :: cs := by
    cases hf : (format w s).toList with
    | nil => simp [hf] at hfirst
    | cons c cs => exact ⟨cs, by simpa [hf] using hfirst⟩
  have hempty : IsLine (scan (format w s).toList) [] [] (scan (format w s).toList) := by
    rw [hcs, scan, scanFrom_structural rfl]
    exact ⟨rfl, by simp, by simp, by simp, .inr (by simp)⟩
  obtain ⟨c, hc, -⟩ := (hneat _ _ _ hempty).shows
  cases hc

/-- A line with a literal that holds a right brace and a line end, at depth one. -/
theorem format_lines_literal :
    IsLine (scan (format 2 "f\x7b'\x7d\n'\x7dg").toList)
        [⟨.other, ['f', ' ']⟩, ⟨.leftBrace, ['\x7b']⟩, ⟨.lineEnd, ['\n']⟩]
        [⟨.other, [' ', ' ']⟩, ⟨.literal .single false, ['\'', '\x7d', '\n', '\'']⟩]
        [⟨.lineEnd, ['\n']⟩, ⟨.rightBrace, ['\x7d']⟩, ⟨.lineEnd, ['\n']⟩, ⟨.other, ['g']⟩] ∧
      Neat 2 1 [⟨.other, [' ', ' ']⟩, ⟨.literal .single false, ['\'', '\x7d', '\n', '\'']⟩] := by
  have h : IsLine (scan (format 2 "f\x7b'\x7d\n'\x7dg").toList)
      [⟨.other, ['f', ' ']⟩, ⟨.leftBrace, ['\x7b']⟩, ⟨.lineEnd, ['\n']⟩]
      [⟨.other, [' ', ' ']⟩, ⟨.literal .single false, ['\'', '\x7d', '\n', '\'']⟩]
      [⟨.lineEnd, ['\n']⟩, ⟨.rightBrace, ['\x7d']⟩, ⟨.lineEnd, ['\n']⟩, ⟨.other, ['g']⟩] :=
    ⟨by cbv, by decide, by decide, by decide, by decide⟩
  exact ⟨h, (format_lines 2 "f\x7b'\x7d\n'\x7dg").2.2 _ _ _ h⟩

end Jenkinsfile.Script
