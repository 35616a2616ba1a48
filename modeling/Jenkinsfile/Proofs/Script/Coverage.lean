import Jenkinsfile.Proofs.Script.Quoted
import Jenkinsfile.Proofs.Script.Restart

/-! What becomes of the characters of a text: the tokens put together are the text, and a brace or
line end is a token of its own or stands inside of quotes.  The main statement is `tokens_cover`. -/

namespace Jenkinsfile.Script

/-! ### Places -/

section Places

variable {e : Bool} {c d : Char} {cs ds before after back : List Char} {k : TokenKind}

theorem ne_of_mem_otherToken (hc : structural? c = some k) (hd : structural? d = none)
    (ds : List Char) : c ∉ (otherToken d ds).1.text := by
  intro hmem
  rcases List.mem_cons.mp hmem with rfl | hmem
  · rw [hd] at hc
    cases hc
  · have := List.all_eq_true.mp List.all_takeWhile c hmem
    rw [isStop_of_structural hc] at this
    cases this

/-- A token with a brace or line end in it is this one character, or is what a mark opens that is
not escaped. -/
theorem nextToken_of_structural (hc : structural? c = some k)
    (h : (nextToken e d ds).1.text = before ++ c :: back) :
    before = [] ∧ back = [] ∧ nextToken e d ds = (⟨k, [c]⟩, ds) ∨
      e = false ∧ ∃ q : QuoteMark, nextToken e d ds = literalToken q q.char ds := by
  have hmem : c ∈ (nextToken e d ds).1.text := h ▸ List.mem_append_right _ List.mem_cons_self
  revert h hmem
  rw [nextToken]
  cases hd : structural? d with
  | some k' =>
    intro h _
    obtain ⟨rfl, hdc⟩ | ⟨-, hnil⟩ := List.append_eq_singleton_iff.mp h.symm
    · obtain ⟨rfl, rfl⟩ := List.cons.inj hdc
      rw [hc] at hd
      obtain rfl := Option.some.inj hd
      exact .inl ⟨rfl, rfl, rfl⟩
    · cases hnil
  | none =>
    have hother := ne_of_mem_otherToken hc hd ds
    cases hq : QuoteMark.ofChar? d with
    | none => exact fun _ hmem => absurd hmem hother
    | some q =>
      cases e with
      | true => exact fun _ hmem => absurd hmem hother
      | false =>
        obtain rfl := QuoteMark.ofChar?_eq_some.mp hq
        exact fun _ _ => .inr ⟨rfl, q, rfl⟩

/-- A brace or line end is a token of its own or stands inside of quotes.  `ts` are the tokens before
the text `cs`. -/
theorem placed_scanFrom (hc : structural? c = some k) (ts : List Token)
    (he : e = escapesAfter false (tokensText ts)) (hcs : cs = before ++ c :: after) :
    (∃ us, scanFrom e cs = us ++ ⟨k, [c]⟩ :: scan after ∧ tokensText us = before) ∨
      InQuotes (ts ++ scanFrom e cs) (tokensText ts ++ before) := by
  fun_induction scanFrom e cs generalizing ts before with
  | case1 => simp at hcs
  | case2 e d ds _ r =>
    rename_i ih
    have hsplit : r.1.text ++ r.2 = before ++ c :: after := by rw [← hcs, nextToken_append]
    obtain ⟨before', rfl, hrest⟩ | ⟨back, htext, rfl⟩ := split_append hsplit
    · -- the character comes after the token
      have htexts : tokensText (ts ++ [r.1]) = tokensText ts ++ r.1.text := by simp [tokensText]
      have he' : escapesAfter e r.1.text = escapesAfter false (tokensText (ts ++ [r.1])) := by
        rw [htexts, escapesAfter_append, he]
      obtain ⟨us, hscan, hus⟩ | hquoted := ih _ he' hrest
      · refine .inl ⟨r.1 :: us, by rw [hscan, List.cons_append], ?_⟩
        rw [tokensText, List.flatMap_cons, ← tokensText, hus]
      · rw [htexts, List.append_assoc, List.append_assoc] at hquoted
        exact .inr hquoted
    · obtain ⟨rfl, rfl, hnext⟩ | ⟨rfl, q, hnext⟩ := nextToken_of_structural hc htext
      · have hr : r = (⟨k, [c]⟩, ds) := hnext
        refine .inl ⟨[], ?_, rfl⟩
        rw [hr, escapesAfter_cons, escapes_eq_false (structural?_ne_backslash hc)]
        rfl
      · have hliteral : literalToken q q.char ds = (r.1, r.2) := hnext.symm
        obtain ⟨triple, u, v, hquoted, rfl⟩ := quoted_literalToken hliteral htext hc (tokensText ts)
        have hrest : tokensText (scanFrom (escapesAfter false r.1.text) r.2) = r.2 :=
          scanFrom_flatMap_text _ _
        refine .inr ⟨ts, r.1, _, q, triple, u, c :: v, rfl, ?_, by rwa [hrest], by simp, ?_⟩
        · exact escapesAfter_eq_false_iff.mp he.symm
        · rw [List.append_assoc]

end Places

/-! ### Joined tokens -/

section Joined

variable {t u : Token} {ts us : List Token}

theorem ne_other_of_joinsOther (h : u.kind.joinsOther = false) : u.kind ≠ .other := by
  intro hother
  rw [hother] at h
  cases h

theorem tokensText_joinOthers (ts : List Token) : tokensText (joinOthers ts) = tokensText ts := by
  cases ts with
  | nil => rfl
  | cons t ts => exact flatMap_text_joinOnto t ts

theorem text_ne_nil_of_mem_joinOnto (ht : t.text ≠ []) (hts : ∀ u ∈ ts, u.text ≠ []) :
    ∀ u ∈ joinOnto t ts, u.text ≠ [] := by
  induction ts generalizing t with
  | nil => simpa [joinOnto] using ht
  | cons u us ih =>
    obtain ⟨hu, hus⟩ := List.forall_mem_cons.mp hts
    rw [joinOnto]
    split
    · exact ih (by simp [ht]) hus
    · exact List.forall_mem_cons.mpr ⟨ht, ih hu hus⟩

/-- Joining makes other text only. -/
theorem mem_of_mem_joinOnto (h : u ∈ joinOnto t ts) (hu : u.kind ≠ .other) : u ∈ t :: ts := by
  induction ts generalizing t with
  | nil => exact h
  | cons v vs ih =>
    rw [joinOnto] at h
    split at h
    · rcases List.mem_cons.mp (ih h) with rfl | hmem
      · exact absurd rfl hu
      · exact List.mem_cons_of_mem _ (List.mem_cons_of_mem _ hmem)
    · rcases List.mem_cons.mp h with rfl | hmem
      · exact List.mem_cons_self
      · exact List.mem_cons_of_mem _ (ih hmem)

/-- Other text is joined to whatever it can be joined to. -/
theorem isChain_joinOnto (t : Token) (ts : List Token) :
    (joinOnto t ts).IsChain fun t u => t.kind = .other → u.kind.joinsOther = false := by
  induction ts generalizing t with
  | nil => exact .singleton t
  | cons u us ih =>
    rw [joinOnto]
    split
    · exact ih _
    · rename_i h
      refine List.isChain_cons.mpr ⟨fun v hv ht => ?_, ih u⟩
      have hu : u.kind.joinsOther = false := by simpa [ht] using h
      rw [joinOnto_of_ne_other (ne_other_of_joinsOther hu)] at hv
      obtain rfl : u = v := by simpa using hv
      exact hu

theorem joinOnto_append (hu : u.kind.joinsOther = false) (t : Token) (ts us : List Token) :
    joinOnto t (ts ++ u :: us) = joinOnto t ts ++ u :: joinOthers us := by
  induction ts generalizing t with
  | nil => simp [joinOnto, hu, joinOnto_of_ne_other (ne_other_of_joinsOther hu)]
  | cons v vs ih =>
    rw [List.cons_append, joinOnto, joinOnto]
    split
    · exact ih _
    · rw [ih, List.cons_append]

theorem joinOthers_structural (hu : u.kind.joinsOther = false) (ts us : List Token) :
    joinOthers (ts ++ u :: us) = joinOthers ts ++ u :: joinOthers us := by
  cases ts with
  | nil =>
    exact joinOnto_of_ne_other (ne_other_of_joinsOther hu) us
  | cons t ts => exact joinOnto_append hu t ts us

end Joined

/-! ### Tokens of a scan -/

theorem text_ne_nil_of_mem_scan (e : Bool) (cs : List Char) : ∀ t ∈ scanFrom e cs, t.text ≠ [] := by
  fun_induction scanFrom e cs with
  | case1 => simp
  | case2 e c cs _ r ih => exact List.forall_mem_cons.mpr ⟨nextToken_text_ne_nil e c cs, ih⟩

theorem structural_of_mem_scan {e : Bool} {cs : List Char} : ∀ t ∈ scanFrom e cs,
    t.kind.isStructural = true → ∃ c, structural? c = some t.kind ∧ t.text = [c] := by
  fun_induction scanFrom e cs with
  | case1 => simp
  | case2 e c cs _ r ih =>
    refine List.forall_mem_cons.mpr ⟨?_, ih⟩
    simp only [r, nextToken]
    split
    · rename_i k hk
      exact fun _ => ⟨c, hk, rfl⟩
    · split
      · rename_i q _
        split
        · intro h
          cases h
        · obtain ⟨_, _, _, h⟩ | h := literalToken_cases q c cs <;> simp [h, TokenKind.isStructural]
      · intro h
        cases h

theorem length_le_of_ne_nil {ts : List Token} (h : ∀ t ∈ ts, t.text ≠ []) :
    ts.length ≤ (tokensText ts).length := by
  induction ts with
  | nil => simp
  | cons t ts ih =>
    obtain ⟨ht, hts⟩ := List.forall_mem_cons.mp h
    have hpos := List.length_pos_iff.mpr ht
    have hrest := ih hts
    rw [tokensText, List.flatMap_cons, List.length_append, List.length_cons, ← tokensText]
    omega

theorem text_ne_nil_of_mem_tokens (cs : List Char) : ∀ t ∈ tokens cs, t.text ≠ [] := by
  have h : ∀ t ∈ scan cs, t.text ≠ [] := text_ne_nil_of_mem_scan false cs
  rw [tokens]
  cases hscan : scan cs with
  | nil => simp [joinOthers]
  | cons t ts =>
    rw [hscan] at h
    exact text_ne_nil_of_mem_joinOnto (h t List.mem_cons_self)
      fun u hu => h u (List.mem_cons_of_mem _ hu)

theorem structural_of_mem_tokens {cs : List Char} {t : Token} (ht : t ∈ tokens cs)
    (hk : t.kind.isStructural = true) : ∃ c, structural? c = some t.kind ∧ t.text = [c] := by
  have hne : t.kind ≠ .other := by
    intro h
    rw [h] at hk
    cases hk
  rw [tokens] at ht
  have hmem : t ∈ scan cs := by
    cases hscan : scan cs with
    | nil =>
      rw [hscan] at ht
      exact ht
    | cons u us =>
      rw [hscan] at ht
      exact mem_of_mem_joinOnto ht hne
  exact structural_of_mem_scan t hmem hk

theorem isChain_tokens (cs : List Char) :
    (tokens cs).IsChain fun t u => t.kind = .other → u.kind.joinsOther = false := by
  rw [tokens]
  cases scan cs with
  | nil => exact .nil
  | cons t ts => exact isChain_joinOnto t ts

/-- The tokens of a text are the text cut into pieces that are not empty, so there are no more of
them than characters.  Tokens for braces and line ends are these characters, other text runs up to
the next one of them, and a brace or line end that is no token stands inside of quotes. -/
theorem tokens_cover (cs : List Char) :
    tokensText (tokens cs) = cs ∧
      (scan cs).length ≤ cs.length ∧ (tokens cs).length ≤ cs.length ∧
      (∀ t ∈ tokens cs, t.text ≠ []) ∧
      (∀ t ∈ tokens cs, t.kind.isStructural = true →
        ∃ c, structural? c = some t.kind ∧ t.text = [c]) ∧
      ((tokens cs).IsChain fun t u => t.kind = .other → u.kind.joinsOther = false) ∧
      ∀ before c after k, cs = before ++ c :: after → structural? c = some k →
        (∃ ts us, tokens cs = ts ++ ⟨k, [c]⟩ :: us ∧
          tokensText ts = before ∧ tokensText us = after) ∨ InQuotes (scan cs) before := by
  have htext : tokensText (tokens cs) = cs := flatMap_text_tokens cs
  refine ⟨htext, ?_, ?_, text_ne_nil_of_mem_tokens cs, fun t => structural_of_mem_tokens,
    isChain_tokens cs, ?_⟩
  · have h := length_le_of_ne_nil (text_ne_nil_of_mem_scan false cs)
    rwa [← scan, tokensText_scan] at h
  · have h := length_le_of_ne_nil (text_ne_nil_of_mem_tokens cs)
    rwa [htext] at h
  · intro before c after k hcs hc
    obtain ⟨us, hscan, hus⟩ | hquoted := placed_scanFrom (e := false) hc [] rfl hcs
    · refine .inl ⟨joinOthers us, joinOthers (scan after), ?_, ?_, ?_⟩
      · rw [tokens, scan, hscan, joinOthers_structural (joinsOther_of_structural hc)]
      · rw [tokensText_joinOthers, hus]
      · rw [tokensText_joinOthers, tokensText_scan]
    · exact .inr hquoted

end Jenkinsfile.Script
