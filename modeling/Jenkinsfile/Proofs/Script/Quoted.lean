import Jenkinsfile.Proofs.Script.Line

/-! What stands inside of quotes, told without the scan: a mark opens a literal if an even number of
backslashes comes right before it, and the literal ends at the first closing marks of which the same
is true, or at the end of the text.  `quoted_literalToken` says that the scan reads such literals. -/

namespace Jenkinsfile.Script

/-! ### Backslashes -/

/-- Whether an odd number of backslashes ends a text, so that what comes next is escaped. -/
def EndsEscaping (cs : List Char) : Prop := (cs.reverse.takeWhile (· == '\\')).length % 2 = 1

/-- The scan keeps track of the backslashes that a look back counts. -/
theorem escapesAfter_eq_true_iff {cs : List Char} :
    escapesAfter false cs = true ↔ EndsEscaping cs := by
  induction cs using List.reverseRecOn with
  | nil => simp [EndsEscaping, escapesAfter]
  | append_singleton cs c ih =>
    have hlast : escapesAfter false (cs ++ [c]) = escapes (escapesAfter false cs) c :=
      escapesAfter_append false cs [c]
    rw [hlast, EndsEscaping, List.reverse_append, List.reverse_singleton, List.singleton_append]
    by_cases hc : c = '\\'
    · subst hc
      rw [List.takeWhile_cons_of_pos (by simp), List.length_cons]
      rw [EndsEscaping] at ih
      cases h : escapesAfter false cs with
      | true =>
        have := ih.mp h
        simp [escapes]
        omega
      | false =>
        have := mt ih.mpr (by simp [h])
        simp [escapes]
        omega
    · rw [List.takeWhile_cons_of_neg (by simpa using hc), escapes_eq_false hc]
      simp

theorem escapesAfter_eq_false_iff {cs : List Char} :
    escapesAfter false cs = false ↔ ¬ EndsEscaping cs := by
  rw [← escapesAfter_eq_true_iff, Bool.not_eq_true]

/-! ### Literals -/

/-- The marks at either end of a literal. -/
def marks (q : QuoteMark) (triple : Bool) : List Char :=
  List.replicate (if triple then 3 else 1) q.char

/-- Whether the marks of a literal stand between the texts `before` and `after`: at the start of
`after`, and not escaped. -/
def MarksAt (q : QuoteMark) (triple : Bool) (before after : List Char) : Prop :=
  ¬ EndsEscaping before ∧ marks q triple <+: after

/-- `Quoted q triple before body t after`: behind `before`, marks open the token `t` with `body` in
it, and `after` comes next.  It is a literal if marks close it, the first that are not escaped, and
other text if none do up to the end of the text. -/
inductive Quoted (q : QuoteMark) (triple : Bool) (before body : List Char) :
    Token → List Char → Prop
  | closed {after : List Char} :
      (∀ u v, body = u ++ v → v ≠ [] →
        ¬ MarksAt q triple (before ++ marks q triple ++ u) (v ++ marks q triple ++ after)) →
      MarksAt q triple (before ++ marks q triple ++ body) (marks q triple ++ after) →
      Quoted q triple before body ⟨.literal q triple, marks q triple ++ body ++ marks q triple⟩ after
  | cut :
      (∀ u v, body = u ++ v → ¬ MarksAt q triple (before ++ marks q triple ++ u) v) →
      Quoted q triple before body ⟨.other, marks q triple ++ body⟩ []

/-- Whether the character that follows `before` in the text of tokens stands inside of quotes: in
the body of one of the tokens, whose marks are not escaped. -/
def InQuotes (tokens : List Token) (before : List Char) : Prop :=
  ∃ ts t us q triple u v, tokens = ts ++ t :: us ∧ ¬ EndsEscaping (tokensText ts) ∧
    Quoted q triple (tokensText ts) (u ++ v) t (tokensText us) ∧ v ≠ [] ∧
    before = tokensText ts ++ marks q triple ++ u

theorem marks_ne_nil (q : QuoteMark) (triple : Bool) : marks q triple ≠ [] := by
  cases triple <;> simp [marks]

theorem escapesAfter_marks (e : Bool) (q : QuoteMark) (triple : Bool) :
    escapesAfter e (marks q triple) = false := by
  cases e <;> cases q <;> cases triple <;> rfl

/-- After the opening marks of a literal the backslashes before them count no more. -/
theorem endsEscaping_opened {q : QuoteMark} {triple : Bool} {before u : List Char} :
    ¬ EndsEscaping (before ++ marks q triple ++ u) ↔ escapesAfter false u = false := by
  rw [← escapesAfter_eq_false_iff, escapesAfter_append, escapesAfter_append, escapesAfter_marks]

/-- The text up to the marks that close a literal, with the text after it. -/
def close? (q : QuoteMark) (triple escaped : Bool) (cs : List Char) :
    Option (List Char × List Char) :=
  if triple then closeTriple? q.char escaped cs else closeSingle? q.char escaped cs

theorem startsTriple_iff {q : QuoteMark} {cs : List Char} :
    startsTriple q.char cs = true ↔ marks q true <+: cs := by
  match cs with
  | [] | [_] | [_, _] => simp [startsTriple, marks, List.replicate]
  | a :: b :: c :: cs =>
    simp [startsTriple, marks, List.replicate, @eq_comm _ q.char, and_assoc]

section Close

variable {q : QuoteMark} {triple e : Bool} {c : Char} {cs text body rest : List Char}

theorem close?_nil : close? q triple e [] = none := by
  cases triple <;> rfl

theorem close?_append (h : close? q triple e cs = some (text, rest)) : text ++ rest = cs := by
  cases triple with
  | true => exact closeTriple?_append h
  | false => exact closeSingle?_append h

theorem close?_cons_of_marks (h : marks q triple <+: c :: cs) :
    ∃ rest, c :: cs = marks q triple ++ rest ∧
      close? q triple false (c :: cs) = some (marks q triple, rest) := by
  obtain ⟨rest, hrest⟩ := h
  refine ⟨rest, hrest.symm, ?_⟩
  cases triple with
  | true =>
    obtain ⟨rfl, rfl⟩ : q.char = c ∧ q.char :: q.char :: rest = cs := by
      simpa [marks, List.replicate] using hrest
    simp [close?, closeTriple?, startsTriple, marks, List.replicate]
  | false =>
    obtain ⟨rfl, rfl⟩ : q.char = c ∧ rest = cs := by simpa [marks] using hrest
    simp [close?, closeSingle?, marks]

theorem close?_cons_of_not (h : ¬ (e = false ∧ marks q triple <+: c :: cs)) :
    close? q triple e (c :: cs) =
      (close? q triple (escapes e c) cs).map fun r => (c :: r.1, r.2) := by
  cases triple with
  | true =>
    rw [← startsTriple_iff] at h
    simp only [close?, if_true, closeTriple?]
    rw [if_neg (by simpa [and_comm] using h)]
  | false =>
    simp only [close?, Bool.false_eq_true, if_false, closeSingle?]
    rw [if_neg (by simpa [marks, and_comm, @eq_comm _ q.char] using h)]

/-- A literal ends at the first marks that close it. -/
theorem closed_of_close? (h : close? q triple e cs = some (text, rest)) :
    ∃ body, text = body ++ marks q triple ∧ escapesAfter e body = false ∧
      ∀ u v, body = u ++ v → v ≠ [] →
        ¬ (escapesAfter e u = false ∧ marks q triple <+: v ++ marks q triple ++ rest) := by
  induction cs generalizing e text with
  | nil =>
    rw [close?_nil] at h
    cases h
  | cons c cs ih =>
    by_cases hc : e = false ∧ marks q triple <+: c :: cs
    · obtain ⟨rfl, hmarks⟩ := hc
      obtain ⟨rest', -, hclose⟩ := close?_cons_of_marks hmarks
      rw [hclose] at h
      cases h
      refine ⟨[], rfl, rfl, fun u v huv hv => ?_⟩
      exact absurd (List.append_eq_nil_iff.mp huv.symm).2 hv
    · rw [close?_cons_of_not hc, Option.map_eq_some_iff] at h
      obtain ⟨⟨text', rest'⟩, hclose, heq⟩ := h
      cases heq
      have hcs := close?_append hclose
      obtain ⟨body, rfl, hend, hfirst⟩ := ih hclose
      refine ⟨c :: body, rfl, hend, fun u v huv hv => ?_⟩
      cases u with
      | nil =>
        obtain rfl : c :: body = v := huv
        rwa [List.cons_append, List.cons_append, hcs]
      | cons d u =>
        obtain ⟨rfl, rfl⟩ : c = d ∧ body = u ++ v := by simpa using huv
        exact hfirst u v rfl hv

theorem not_closed_of_close? (h : close? q triple e cs = none) (u v : List Char)
    (huv : cs = u ++ v) : ¬ (escapesAfter e u = false ∧ marks q triple <+: v) := by
  induction cs generalizing e u with
  | nil =>
    obtain ⟨-, rfl⟩ := List.append_eq_nil_iff.mp huv.symm
    simp [marks_ne_nil]
  | cons c cs ih =>
    by_cases hc : e = false ∧ marks q triple <+: c :: cs
    · obtain ⟨rfl, hmarks⟩ := hc
      obtain ⟨rest, -, hclose⟩ := close?_cons_of_marks hmarks
      rw [hclose] at h
      cases h
    · rw [close?_cons_of_not hc, Option.map_eq_none_iff] at h
      cases u with
      | nil =>
        obtain rfl : c :: cs = v := huv
        simpa [escapesAfter] using hc
      | cons d u =>
        obtain ⟨rfl, rfl⟩ : c = d ∧ cs = u ++ v := by simpa using huv
        exact ih h u rfl

/-- A character of two texts put together is one of the first or one of the second. -/
theorem split_append {as bs front back : List Char} (h : as ++ bs = front ++ c :: back) :
    (∃ u, front = as ++ u ∧ bs = u ++ c :: back) ∨ ∃ v, as = front ++ c :: v ∧ back = v ++ bs := by
  obtain ⟨u, hfront, hbs⟩ | ⟨u, has, hcs⟩ := List.append_eq_append_iff.mp h
  · exact .inl ⟨u, hfront, hbs⟩
  · cases u with
    | nil => exact .inl ⟨[], by simpa using has.symm, hcs.symm⟩
    | cons d u =>
      obtain ⟨rfl, rfl⟩ : c = d ∧ back = u ++ bs := by simpa using hcs
      exact .inr ⟨u, has, rfl⟩

/-- A mark opens a literal of one mark or of three, which ends at the first marks that close it or
is cut by the end of the text. -/
theorem literalToken_eq (q : QuoteMark) (cs : List Char) :
    ∃ triple rest, q.char :: cs = marks q triple ++ rest ∧
      ((∃ text after, close? q triple false rest = some (text, after) ∧
          literalToken q q.char cs = (⟨.literal q triple, marks q triple ++ text⟩, after)) ∨
        close? q triple false rest = none ∧
          literalToken q q.char cs = (⟨.other, marks q triple ++ rest⟩, [])) := by
  cases hs : startsTriple q.char (q.char :: cs) with
  | true =>
    obtain ⟨rest, hrest⟩ := startsTriple_iff.mp hs
    obtain rfl : q.char :: q.char :: rest = cs := by simpa [marks, List.replicate] using hrest
    refine ⟨true, rest, hrest.symm, ?_⟩
    have hclose : close? q true false rest = closeTriple? q.char false rest := rfl
    rw [hclose, literalToken, hs]
    cases h : closeTriple? q.char false rest with
    | none => simp [h, marks, List.replicate]
    | some r => simp [h, marks, List.replicate]
  | false =>
    refine ⟨false, cs, rfl, ?_⟩
    have hclose : close? q false false cs = closeSingle? q.char false cs := rfl
    rw [hclose, literalToken, hs]
    cases h : closeSingle? q.char false cs with
    | none => simp [marks]
    | some r => simp [marks]

/-- A brace or line end in what a mark opens stands in its body. -/
theorem quoted_literalToken {cs after front back : List Char} {q : QuoteMark} {k : TokenKind}
    {t : Token} (h : literalToken q q.char cs = (t, after)) (ht : t.text = front ++ c :: back)
    (hc : structural? c = some k) (before : List Char) :
    ∃ triple u v, Quoted q triple before (u ++ c :: v) t after ∧ front = marks q triple ++ u := by
  have hmarks (triple : Bool) : c ∉ marks q triple := by
    intro hmem
    rw [List.eq_of_mem_replicate hmem, structural?_char] at hc
    cases hc
  have hopening (triple : Bool) {r : List Char} :
      ¬ ∃ v, marks q triple = front ++ c :: v ∧ back = v ++ r := by
    rintro ⟨v, hv, -⟩
    exact hmarks triple (hv ▸ List.mem_append_right _ List.mem_cons_self)
  obtain ⟨triple, rest, -, ⟨text, after', hclose, hl⟩ | ⟨hclose, hl⟩⟩ := literalToken_eq q cs
  · obtain ⟨rfl, rfl⟩ := Prod.mk.inj (hl.symm.trans h)
    obtain ⟨body, rfl, hend, hfirst⟩ := closed_of_close? hclose
    obtain ⟨u, rfl, hbody⟩ := (split_append ht).resolve_right (hopening triple)
    obtain ⟨_, -, hclosing⟩ | ⟨v, rfl, -⟩ := split_append hbody
    · exact absurd (hclosing ▸ List.mem_append_right _ List.mem_cons_self) (hmarks triple)
    refine ⟨triple, u, v, ?_, rfl⟩
    rw [← List.append_assoc]
    refine .closed (fun u v huv hv hat => ?_) ⟨endsEscaping_opened.mpr hend, ?_⟩
    · exact hfirst u v huv hv ⟨endsEscaping_opened.mp hat.1, hat.2⟩
    · exact List.prefix_append _ _
  · obtain ⟨rfl, rfl⟩ := Prod.mk.inj (hl.symm.trans h)
    obtain ⟨u, rfl, rfl⟩ := (split_append ht).resolve_right (hopening triple)
    refine ⟨triple, u, back, .cut fun u v huv hat => ?_, rfl⟩
    exact not_closed_of_close? hclose u v huv ⟨endsEscaping_opened.mp hat.1, hat.2⟩

end Close

end Jenkinsfile.Script
