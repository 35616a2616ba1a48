import Jenkinsfile.Proofs.Script.Scan
import Mathlib.Data.List.TakeWhile

/-! The literals with which a stretch starts, and what comes after them.  The blanks after them are
not shown when nothing else follows, and no other blanks of a stretch are left out. -/

namespace Jenkinsfile.Script

/-- The literals with which a stretch starts, given its tokens. -/
def leading (ts : List Token) : List Token := ts.takeWhile (·.kind.isLiteral)

/-- What comes after the literals with which a stretch starts. -/
def trailing (ts : List Token) : List Char := (ts.dropWhile (·.kind.isLiteral)).flatMap Token.text

/-- What is shown of a stretch: blanks are dropped that come right after literals with which it
starts. -/
def visible (ts : List Token) : List Char :=
  (leading ts).flatMap Token.text ++ if (trailing ts).all Text.isBlank then [] else trailing ts

theorem leading_append_trailing (ts : List Token) :
    (leading ts).flatMap Token.text ++ trailing ts = ts.flatMap Token.text := by
  rw [leading, trailing, ← List.flatMap_append, List.takeWhile_append_dropWhile]

theorem literal_ends_of_mem {e : Bool} {cs : List Char} {t : Token} (h : t ∈ scanFrom e cs)
    (hl : t.kind.isLiteral = true) :
    ∃ c q init, QuoteMark.ofChar? c = some q ∧ t.text = c :: (init ++ [c]) := by
  fun_induction scanFrom e cs with
  | case1 => cases h
  | case2 e c cs _ r ih =>
    rcases List.mem_cons.mp h with rfl | h
    · revert hl
      simp only [r, nextToken]
      split
      · rename_i k hk
        intro hl
        rw [not_isLiteral_of_structural hk] at hl
        cases hl
      · split
        · rename_i q hq
          split
          · intro hl
            cases hl
          · obtain ⟨_, _, _, h⟩ | h := literalToken_cases q c cs
            · rw [h]
              intro _
              obtain ⟨init, hi⟩ := literalToken_ends h
              exact ⟨c, q, init, hq, hi⟩
            · rw [h]
              intro hl
              cases hl
        · intro hl
          cases hl
    · exact ih h

theorem isLiteral_of_mem_leading {ts : List Token} {t : Token} (h : t ∈ leading ts) :
    t.kind.isLiteral = true := by
  simpa using List.all_eq_true.mp List.all_takeWhile t h

theorem ends_of_mem_leading {cs : List Char} {t : Token} (h : t ∈ leading (scan cs)) :
    ∃ c q init, QuoteMark.ofChar? c = some q ∧ t.text = c :: (init ++ [c]) :=
  literal_ends_of_mem ((List.takeWhile_sublist _).subset h) (isLiteral_of_mem_leading h)

theorem leading_append {ts us : List Token} (hts : ∀ t ∈ ts, t.kind.isLiteral = true)
    (hus : ∀ u ∈ us.head?, u.kind.isLiteral = false) :
    leading (ts ++ us) = ts ∧ trailing (ts ++ us) = us.flatMap Token.text := by
  have htake : us.takeWhile (·.kind.isLiteral) = [] := by
    cases us with
    | nil => rfl
    | cons u us => rw [List.takeWhile_cons_of_neg (by simp [hus u rfl])]
  have hdrop : us.dropWhile (·.kind.isLiteral) = us := by
    cases us with
    | nil => rfl
    | cons u us => rw [List.dropWhile_cons_of_neg (by simp [hus u rfl])]
  rw [leading, trailing, List.takeWhile_append_of_pos hts, List.dropWhile_append_of_pos hts, htake,
    hdrop, List.append_nil]
  exact ⟨rfl, rfl⟩

theorem leading_trailing_cons {t : Token} (h : t.kind.isLiteral = true) (ts : List Token) :
    leading (t :: ts) = t :: leading ts ∧ trailing (t :: ts) = trailing ts := by
  simp [leading, trailing, h]

theorem leading_trailing_other (text : List Char) (ts : List Token) :
    leading (⟨.other, text⟩ :: ts) = [] ∧
      trailing (⟨.other, text⟩ :: ts) = text ++ ts.flatMap Token.text := by
  simp [leading, trailing, TokenKind.isLiteral]

section Stretch

variable {cs ds : List Char}

theorem text_eq (cs : List Char) :
    cs = (leading (scan cs)).flatMap Token.text ++ trailing (scan cs) := by
  rw [leading_append_trailing, scan, scanFrom_flatMap_text]

theorem leading_eq_nil (hb : cs.all Text.isBlank = true) : leading (scan cs) = [] := by
  rw [List.eq_nil_iff_forall_not_mem]
  intro t ht
  obtain ⟨c, q, init, hc, htext⟩ := ends_of_mem_leading ht
  have hmem : c ∈ cs := by
    rw [text_eq cs]
    exact List.mem_append_left _ (List.mem_flatMap.mpr ⟨t, ht, by simp [htext]⟩)
  have := List.all_eq_true.mp hb c hmem
  rw [not_isBlank_of_mark hc] at this
  cases this

/-- What is shown is the text less blanks at its end. -/
theorem visible_append_eq (cs : List Char) :
    ∃ blanks, cs = visible (scan cs) ++ blanks ∧ ∀ c ∈ blanks, Text.isBlank c = true := by
  by_cases hb : (trailing (scan cs)).all Text.isBlank = true
  · refine ⟨trailing (scan cs), ?_, List.all_eq_true.mp hb⟩
    rw [visible, if_pos hb, List.append_nil, ← text_eq]
  · refine ⟨[], ?_, by simp⟩
    rw [visible, if_neg hb, List.append_nil, ← text_eq]

theorem leading_of_plain {c : Char} (h : Plain false c) (cs : List Char) :
    leading (scan (c :: cs)) = [] ∧ trailing (scan (c :: cs)) = c :: cs := by
  have hscan := scanFrom_flatMap_text false (c :: cs)
  rw [scan, scanFrom_plain h] at *
  rw [List.flatMap_cons] at hscan
  rw [(leading_trailing_other _ _).1, (leading_trailing_other _ _).2]
  exact ⟨rfl, hscan⟩

/-- A text that starts with a literal, read up to its end. -/
theorem exists_literal (h : leading (scan cs) ≠ []) :
    ∃ q triple c body rest, cs = c :: (body ++ rest) ∧ QuoteMark.ofChar? c = some q ∧
      literalToken q c (body ++ rest) = (⟨.literal q triple, c :: body⟩, rest) := by
  cases cs with
  | nil =>
    rw [scan, scanFrom_nil] at h
    exact absurd rfl h
  | cons c cs =>
    cases hs : structural? c with
    | some k =>
      have hk := not_isLiteral_of_structural hs
      rw [scan, scanFrom_structural hs, leading, List.takeWhile_cons_of_neg (by simp [hk])] at h
      exact absurd rfl h
    | none =>
      cases hq : QuoteMark.ofChar? c with
      | none => exact absurd (leading_of_plain (.of_not_mark hs hq) cs).1 h
      | some q =>
        obtain ⟨triple, text, rest, hl⟩ | hl := literalToken_cases q c cs
        · obtain ⟨init, rfl, rfl⟩ := literalToken_split hl
          exact ⟨q, triple, c, init ++ [c], rest, rfl, hq, hl⟩
        · rw [scanFrom_cut hq hl, (leading_trailing_other _ _).1] at h
          exact absurd rfl h

/-- The literals with which a text starts are read alike before any text that starts with no
mark. -/
theorem scan_leading_append (cs : List Char) (hd : ∀ d ∈ ds.head?, QuoteMark.ofChar? d = none) :
    scan ((leading (scan cs)).flatMap Token.text ++ ds) = leading (scan cs) ++ scan ds := by
  -- on the length: a literal takes away more than one character
  induction hn : cs.length using Nat.strongRecOn generalizing cs with
  | _ n ih =>
    by_cases hnil : leading (scan cs) = []
    · rw [hnil]
      rfl
    · obtain ⟨q, triple, c, body, rest, rfl, hq, hl⟩ := exists_literal hnil
      have hshort : rest.length < n := by
        rw [← hn, List.length_cons, List.length_append]
        omega
      have ih := ih rest.length hshort rest rfl
      have hhead : ((leading (scan rest)).flatMap Token.text ++ ds).head? = some c →
          rest.head? = some c := by
        intro hh
        rw [text_eq rest]
        cases hls : (leading (scan rest)).flatMap Token.text with
        | nil =>
          rw [hls] at hh
          rw [hd c hh] at hq
          cases hq
        | cons a tail => rwa [hls] at hh
      rw [scanFrom_literal hq hl, (leading_trailing_cons rfl _).1, List.flatMap_cons,
        List.append_assoc, List.cons_append,
        scanFrom_literal hq (literalToken_of_append hl hhead), ih, List.cons_append]

theorem scan_of_not_stop (h : ∀ c ∈ cs, isStop c = false) :
    scan cs = if cs.isEmpty then [] else [⟨.other, cs⟩] := by
  cases cs with
  | nil => rw [scan, scanFrom_nil]; rfl
  | cons c cs =>
    have htail : ∀ d ∈ cs, (!isStop d) = true := fun d hd => by
      rw [h d (List.mem_cons_of_mem _ hd), Bool.not_false]
    rw [scan, scanFrom_plain (.of_not_stop (h c List.mem_cons_self)),
      List.takeWhile_eq_self_iff.mpr htail, List.dropWhile_eq_nil_iff.mpr htail, scanFrom_nil]
    rfl

/-- What comes after the literals can be replaced by other blanks. -/
theorem leading_append_blanks (cs : List Char) (hd : ∀ d ∈ ds, isStop d = false) :
    leading (scan ((leading (scan cs)).flatMap Token.text ++ ds)) = leading (scan cs) ∧
      trailing (scan ((leading (scan cs)).flatMap Token.text ++ ds)) = ds := by
  have hmark : ∀ d ∈ ds.head?, QuoteMark.ofChar? d = none := fun d h =>
    (Plain.of_not_stop (hd d (List.mem_of_mem_head? h))).not_mark
  have hhead : ∀ u ∈ (scan ds).head?, u.kind.isLiteral = false := by
    rw [scan_of_not_stop hd]
    cases ds <;> simp [TokenKind.isLiteral]
  rw [scan_leading_append cs hmark]
  obtain ⟨hl, ht⟩ := leading_append (fun t => isLiteral_of_mem_leading) hhead
  exact ⟨hl, by rw [ht, scan, scanFrom_flatMap_text]⟩

theorem trailing_leading (cs : List Char) :
    trailing (scan ((leading (scan cs)).flatMap Token.text)) = [] := by
  have hnil : ∀ d ∈ ([] : List Char), isStop d = false := by simp
  have h := (leading_append_blanks cs hnil).2
  rwa [List.append_nil] at h

/-- The literals with which a text starts, put together, start and end with a mark. -/
theorem leading_ends (cs : List Char) :
    (∀ c ∈ ((leading (scan cs)).flatMap Token.text).head?, QuoteMark.ofChar? c ≠ none) ∧
      ∀ c ∈ ((leading (scan cs)).flatMap Token.text).getLast?, QuoteMark.ofChar? c ≠ none := by
  have hends : ∀ t ∈ leading (scan cs), ∃ c q init, QuoteMark.ofChar? c = some q ∧
      t.text = c :: (init ++ [c]) := fun t => ends_of_mem_leading
  generalize leading (scan cs) = ts at hends
  induction ts with
  | nil => exact ⟨by simp, by simp⟩
  | cons t ts ih =>
    obtain ⟨a, q, init, ha, ht⟩ := hends t List.mem_cons_self
    obtain ⟨-, ih⟩ := ih fun u hu => hends u (List.mem_cons_of_mem _ hu)
    rw [List.flatMap_cons, ht]
    refine ⟨by simp [ha], ?_⟩
    rw [List.getLast?_append]
    cases hl : (ts.flatMap Token.text).getLast? with
    | none =>
      rw [← List.cons_append, List.getLast?_concat]
      simp [ha]
    | some b =>
      rw [hl] at ih
      simpa using ih b rfl

end Stretch

namespace Inline

variable {closed : Bool} {cs : List Char} {literals : List Token}

/-- What is shown of a stretch is a stretch with the same literals. -/
theorem shown (h : Inline false cs literals closed) :
    Inline false (visible (scan cs)) literals closed := by
  obtain ⟨blanks, hcs, hb⟩ := visible_append_eq cs
  exact h.of_append_blanks hcs hb

theorem shown_not_blank (h : cs.all Text.isBlank = false) :
    (visible (scan cs)).all Text.isBlank = false := by
  obtain ⟨blanks, hcs, hb⟩ := visible_append_eq cs
  cases hv : (visible (scan cs)).all Text.isBlank with
  | false => rfl
  | true =>
    rw [hcs, List.all_append, hv, Bool.true_and, List.all_eq_true.mpr hb] at h
    cases h

theorem not_stop_of_no_mark {e : Bool} (h : Inline e cs literals closed)
    (hq : ∀ c ∈ cs, QuoteMark.ofChar? c = none) : ∀ c ∈ cs, isStop c = false := by
  induction h with
  | nil => simp
  | plain hp _ ih =>
    intro d hd
    rcases List.mem_cons.mp hd with rfl | hd
    · simp [isStop, hp.1, hq _ List.mem_cons_self]
    · exact ih (fun c hc => hq c (List.mem_cons_of_mem _ hc)) d hd
  | literal hc | cut hc => rw [hq _ List.mem_cons_self] at hc; cases hc

/-- Blanks alone after the literals with which a stretch starts hold no line end. -/
theorem trailing_not_stop (h : Inline false cs literals closed)
    (hb : (trailing (scan cs)).all Text.isBlank = true) :
    ∀ c ∈ trailing (scan cs), isStop c = false := by
  generalize he : false = e at h
  induction h with
  | nil => rw [scan, scanFrom_nil]; simp [trailing]
  | @plain e c cs literals closed hp h _ =>
    subst he
    rw [(leading_of_plain hp cs).2] at hb ⊢
    exact (plain hp h).not_stop_of_no_mark fun d hd =>
      not_mark_of_isBlank (List.all_eq_true.mp hb d hd)
  | literal hq hl _ ih =>
    rw [scanFrom_literal hq hl, (leading_trailing_cons rfl _).2] at hb ⊢
    exact ih hb rfl
  | @cut q c cs hq hl =>
    rw [scanFrom_cut hq hl, (leading_trailing_other _ _).2, List.cons_append, List.all_cons,
      not_isBlank_of_mark hq] at hb
    cases hb

/-- Blanks put after a stretch, or taken away there, come after its literals. -/
theorem trailing_append {ds : List Char} (h : Inline false (cs ++ ds) literals closed)
    (hd : ∀ d ∈ ds, Text.isBlank d = true ∧ isStop d = false) :
    (trailing (scan (cs ++ ds))).all Text.isBlank = (trailing (scan cs)).all Text.isBlank := by
  have hcs : Inline false cs literals closed := h.of_append fun d h =>
    not_mark_of_isBlank (hd d h).1
  rw [Bool.eq_iff_iff]
  constructor
  · intro hb
    have hstop := h.trailing_not_stop hb
    obtain ⟨tail, hx, ht⟩ | ⟨tail, hx, ht⟩ := List.append_eq_append_iff.mp (text_eq (cs ++ ds))
    · -- the literals reach past `cs` at most by nothing: they end with a mark
      obtain rfl : tail = [] := by
        cases hl : tail.getLast? with
        | none => exact List.getLast?_eq_none_iff.mp hl
        | some b =>
          have hmem := List.mem_of_getLast? hl
          have := (leading_ends (cs ++ ds)).2 b (by rw [hx, List.getLast?_append, hl]; rfl)
          rw [not_mark_of_isBlank (hd b (ht ▸ List.mem_append_left _ hmem)).1] at this
          exact absurd rfl this
      have hnil := trailing_leading (cs ++ ds)
      rw [hx, List.append_nil] at hnil
      rw [hnil]
      rfl
    · rw [hx, (leading_append_blanks _ fun d hd => hstop d (ht ▸ List.mem_append_left _ hd)).2]
      rw [ht, List.all_append, Bool.and_eq_true] at hb
      exact hb.1
  · intro hb
    have hstop : ∀ d ∈ trailing (scan cs) ++ ds, isStop d = false := fun d h =>
      (List.mem_append.mp h).elim (hcs.trailing_not_stop hb d) fun h => (hd d h).2
    rw [text_eq cs, List.append_assoc, (leading_append_blanks cs hstop).2, List.all_append, hb]
    exact List.all_eq_true.mpr fun d h => (hd d h).1

end Inline

end Jenkinsfile.Script
