import Jenkinsfile.Proofs.Expression.RoundTrip

/-! The grammar of expressions.  An expression is a path with calls after bars, and the arguments of
a call are texts in quotes or whole numbers.  Only in quotes can an expression hold a closing brace:
`IsExpression.covered` says that a quote is open wherever one comes. -/

namespace Jenkinsfile.Expression

open Text
open Script (QuoteMark)

/-! ### Grammar -/

/-- What may stand between two marks `q`: any character but the mark, and any character at all after
a backslash. -/
inductive Between (q : Char) : List Char → Prop where
  | nil : Between q []
  | plain {c : Char} {cs : List Char} : c ≠ '\\' → c ≠ q → Between q cs → Between q (c :: cs)
  | escaped (c : Char) {cs : List Char} : Between q cs → Between q ('\\' :: c :: cs)

/-- An argument is a text in quotes or a whole number. -/
inductive IsArgument : List Char → Prop where
  | quoted (q : QuoteMark) {cs : List Char} : Between q.char cs → IsArgument (q.char :: cs ++ [q.char])
  | digits {ds : List Char} : ds ≠ [] → (∀ d ∈ ds, isDigit d = true) → IsArgument ds
  | negative {ds : List Char} :
    ds ≠ [] → (∀ d ∈ ds, isDigit d = true) → IsArgument ('-' :: ds)

/-- One argument, or several with commas and blanks between them. -/
inductive AreArguments : List Char → Prop where
  | single {a : List Char} : IsArgument a → AreArguments a
  | cons {a before after as : List Char} : IsArgument a → (∀ c ∈ before, isBlank c = true) →
    (∀ c ∈ after, isBlank c = true) → AreArguments as →
    AreArguments (a ++ (before ++ ',' :: after) ++ as)

/-- A call is the name of a function, with or without arguments in parentheses. -/
inductive IsCall : List Char → Prop where
  | bare (f : Function) : IsCall f.name.toList
  | applied (f : Function) {as : List Char} : AreArguments as →
    IsCall (f.name.toList ++ ('(' :: as ++ [')']))

/-- An expression is a path, or an expression with one more call after a bar. -/
inductive IsExpression : List Char → Prop where
  | path {segments : List (List Char)} : segments ≠ [] → (∀ s ∈ segments, isSegment s = true) →
    IsExpression (['.'].intercalate segments)
  | call {e before after c : List Char} : IsExpression e → (∀ b ∈ before, isBlank b = true) →
    (∀ b ∈ after, isBlank b = true) → IsCall c → IsExpression (e ++ (before ++ '|' :: after) ++ c)

theorem IsCall.firm {c : List Char} (h : IsCall c) : Firm c := by
  cases h with
  | bare f => exact (Function.name_spec f).2.1
  | @applied f as has =>
    have hparen : Firm [')'] := firm_singleton rfl
    have hfirm := (Function.name_spec f).2.1.append hparen ('(' :: as)
    rw [List.append_assoc] at hfirm
    exact hfirm

theorem IsExpression.firm {e : List Char} (h : IsExpression e) : Firm e := by
  induction h with
  | path hne hs => exact .intercalate (fun s hin => (isSegment_spec (hs s hin)).1) hne _
  | call _ _ _ hc ih => exact ih.append hc.firm _

/-! ### Written expressions -/

theorem between_escapeFor (q : QuoteMark) (cs : List Char) :
    Between q.char (cs.flatMap (escapeFor q)) := by
  induction cs with
  | nil => exact .nil
  | cons c cs ih =>
    rw [List.flatMap_cons, escapeFor]
    split
    · exact .escaped c ih
    · rename_i hc
      obtain ⟨hbackslash, hmark⟩ : c ≠ '\\' ∧ c ≠ q.char := by simpa using hc
      exact .plain hbackslash hmark ih

theorem isArgument_chars (a : WrittenLiteral) : IsArgument a.chars := by
  cases a with
  | text q s => exact .quoted q (between_escapeFor q s.toList)
  | int n =>
    have hdigits : ∀ d ∈ Nat.toDigits 10 n.natAbs, isDigit d = true := fun d hd => (digit_spec hd).1
    rw [WrittenLiteral.chars, toList_toString_int]
    split
    · exact .negative Nat.toDigits_ne_nil hdigits
    · exact .digits Nat.toDigits_ne_nil hdigits

theorem areArguments_chars {args : List WrittenLiteral} (hne : args ≠ []) :
    AreArguments ([',', ' '].intercalate (args.map WrittenLiteral.chars)) := by
  induction args with
  | nil => exact absurd rfl hne
  | cons a args ih =>
    cases args with
    | nil =>
      rw [List.map_singleton, List.intercalate_singleton]
      exact .single (isArgument_chars a)
    | cons a' args =>
      have hbefore : ∀ c ∈ ([] : List Char), isBlank c = true := by simp
      have hafter : ∀ c ∈ [' '], isBlank c = true := List.forall_mem_singleton.mpr rfl
      rw [List.map_cons, List.map_cons, List.intercalate_cons_cons, ← List.map_cons]
      exact .cons (isArgument_chars a) hbefore hafter (ih (by simp))

theorem isCall_chars (c : WrittenCall) : IsCall c.chars := by
  rw [WrittenCall.chars, WrittenCall.parens]
  split
  · rw [List.append_nil]
    exact .bare c.function
  · rename_i hargs
    exact .applied c.function (areArguments_chars (by simpa using hargs))

/-- What is written as an expression is one. -/
theorem isExpression_write {path : List (List Char)} (hne : path ≠ [])
    (hp : ∀ s ∈ path, isSegment s = true) (calls : List WrittenCall) :
    IsExpression (write path calls).toList := by
  have happend {e : List Char} (he : IsExpression e) :
      IsExpression (e ++ calls.flatMap fun c => ' ' :: '|' :: ' ' :: c.chars) := by
    induction calls generalizing e with
    | nil => simpa using he
    | cons c calls ih =>
      have hblank : ∀ b ∈ [' '], isBlank b = true := List.forall_mem_singleton.mpr rfl
      have hnext := ih (he.call hblank hblank (isCall_chars c))
      simpa using hnext
  rw [write, String.toList_ofList]
  exact happend (.path hne hp)

/-! ### Open quotes -/

/-- The quote that is open after a text, and whether a backslash comes last in it. -/
def quoteStep : Option (Char × Bool) → Char → Option (Char × Bool)
  | none, c => if isQuote c then some (c, false) else none
  | some (q, true), _ => some (q, false)
  | some (q, false), c =>
    if c = '\\' then some (q, true) else if c = q then none else some (q, false)

theorem partsFrom_eq_none_iff {quote : Option Char} {escaped : Bool} {part cs : List Char} :
    partsFrom quote escaped part cs = none ↔
      (cs.foldl quoteStep (quote.map (·, escaped))).isSome = true := by
  induction cs generalizing quote escaped part with
  | nil => cases quote <;> simp [partsFrom]
  | cons c cs ih =>
    cases quote with
    | none =>
      simp only [partsFrom, List.foldl_cons, Option.map_none, quoteStep]
      split
      · exact ih
      · split
        · rw [Option.map_eq_none_iff]
          exact ih
        · exact ih
    | some q =>
      cases escaped with
      | true => exact ih
      | false =>
        simp only [partsFrom, List.foldl_cons, Option.map_some, quoteStep, Bool.false_eq_true,
          if_false]
        split
        · exact ih
        · split
          · exact ih
          · exact ih

theorem parts?_eq_none_iff {cs : List Char} :
    parts? cs = none ↔ (cs.foldl quoteStep none).isSome = true :=
  partsFrom_eq_none_iff

/-- A text that closes the quotes it opens, and has closing braces only in between. -/
structure Covered (cs : List Char) : Prop where
  closed : cs.foldl quoteStep none = none
  braces : ∀ before after, cs = before ++ '\x7d' :: after →
    (before.foldl quoteStep none).isSome = true

theorem Covered.append {cs ds : List Char} (hc : Covered cs) (hd : Covered ds) :
    Covered (cs ++ ds) := by
  refine ⟨by rw [List.foldl_append, hc.closed, hd.closed], fun before after h => ?_⟩
  rcases List.append_eq_append_iff.mp h with ⟨rest, hbefore, hrest⟩ | ⟨rest, hcs, hrest⟩
  · rw [hbefore, List.foldl_append, hc.closed]
    exact hd.braces rest after hrest
  · cases rest with
    | nil =>
      have hopen := hd.braces [] after hrest.symm
      cases hopen
    | cons c rest =>
      obtain ⟨rfl, -⟩ := List.cons.inj hrest
      exact hc.braces before rest hcs

theorem covered_of_forall {cs : List Char} (h : ∀ c ∈ cs, isQuote c = false ∧ c ≠ '\x7d') :
    Covered cs := by
  refine ⟨?_, fun before after hcs => ?_⟩
  · induction cs with
    | nil => rfl
    | cons c cs ih =>
      obtain ⟨hc, hcs⟩ := List.forall_mem_cons.mp h
      rw [List.foldl_cons, quoteStep, hc.1]
      exact ih hcs
  · exact absurd rfl (h '\x7d' (by simp [hcs])).2

theorem covered_of_all {cs : List Char} (h : cs.all (fun c => !isQuote c && c != '\x7d') = true) :
    Covered cs :=
  covered_of_forall fun c hc => by simpa using List.all_eq_true.mp h c hc

theorem not_isQuote_of_isBlank {c : Char} (h : isBlank c = true) : isQuote c = false := by
  cases hq : isQuote c with
  | false => rfl
  | true =>
    simp only [isQuote, Bool.or_eq_true, decide_eq_true_eq] at hq
    rcases hq with rfl | rfl <;> cases h

theorem covered_of_blank {cs : List Char} (h : ∀ c ∈ cs, isBlank c = true) : Covered cs :=
  covered_of_forall fun c hc => ⟨not_isQuote_of_isBlank (h c hc), by
    rintro rfl
    cases h _ hc⟩

/-- Between two marks the first one stays open. -/
theorem Between.foldl_quoteStep {q : Char} {cs : List Char} (h : Between q cs) :
    cs.foldl quoteStep (some (q, false)) = some (q, false) ∧
      ∀ before, before <+: cs → (before.foldl quoteStep (some (q, false))).isSome = true := by
  induction h with
  | nil =>
    refine ⟨rfl, fun before hb => ?_⟩
    rw [List.prefix_nil.mp hb]
    rfl
  | @plain c cs hbackslash hmark _ ih =>
    have hstep : quoteStep (some (q, false)) c = some (q, false) := by
      rw [quoteStep, if_neg hbackslash, if_neg hmark]
    refine ⟨by rw [List.foldl_cons, hstep, ih.1], fun before hb => ?_⟩
    rcases List.prefix_cons_iff.mp hb with rfl | ⟨tail, rfl, htail⟩
    · rfl
    · rw [List.foldl_cons, hstep]
      exact ih.2 tail htail
  | escaped c _ ih =>
    refine ⟨ih.1, fun before hb => ?_⟩
    rcases List.prefix_cons_iff.mp hb with rfl | ⟨tail, rfl, htail⟩
    · rfl
    · rcases List.prefix_cons_iff.mp htail with rfl | ⟨tail', rfl, htail'⟩
      · rfl
      · exact ih.2 tail' htail'

theorem Between.covered {q : QuoteMark} {cs : List Char} (h : Between q.char cs) :
    Covered (q.char :: cs ++ [q.char]) := by
  obtain ⟨hcs, hbefore⟩ := h.foldl_quoteStep
  have hopen : quoteStep none q.char = some (q.char, false) := by
    rw [quoteStep, isQuote_char]
    rfl
  have hclose : quoteStep (some (q.char, false)) q.char = none := by
    rw [quoteStep, if_neg (char_ne_backslash q), if_pos rfl]
  refine ⟨?_, fun before after heq => ?_⟩
  · rw [List.cons_append, List.foldl_cons, hopen, List.foldl_append, hcs, List.foldl_cons, hclose]
    rfl
  · have hmark : q.char ≠ '\x7d' := by cases q <;> decide
    cases before with
    | nil => exact absurd (List.cons.inj heq).1 hmark
    | cons b before =>
      have hb : q.char = b := (List.cons.inj heq).1
      have hbody : cs ++ [q.char] = before ++ '\x7d' :: after := (List.cons.inj heq).2
      -- The brace is not the last character, for that is the mark.
      have hprefix : before <+: cs := by
        rcases List.eq_nil_or_concat after with rfl | ⟨after, last, rfl⟩
        · exact absurd (List.append_inj_right' hbody rfl) (by simpa using hmark)
        · have hbody' : cs ++ [q.char] = before ++ '\x7d' :: after ++ [last] := by
            rw [hbody, List.concat_eq_append, List.append_assoc, List.cons_append]
          exact ⟨'\x7d' :: after, (List.append_inj_left' hbody' rfl).symm⟩
      rw [List.foldl_cons, ← hb, hopen]
      exact hbefore before hprefix

theorem covered_of_isDigit {ds : List Char} (h : ∀ d ∈ ds, isDigit d = true) : Covered ds :=
  covered_of_forall fun d hd => by
    have hdigit := h d hd
    refine ⟨?_, ?_⟩
    · cases hq : isQuote d with
      | false => rfl
      | true =>
        simp only [isQuote, Bool.or_eq_true, decide_eq_true_eq] at hq
        rcases hq with rfl | rfl <;> cases hdigit
    · rintro rfl
      cases hdigit

theorem IsArgument.covered {a : List Char} (h : IsArgument a) : Covered a := by
  cases h with
  | quoted q hcs => exact hcs.covered
  | digits _ hds => exact covered_of_isDigit hds
  | negative _ hds =>
    have hminus : Covered ['-'] := covered_of_all rfl
    exact hminus.append (covered_of_isDigit hds)

theorem AreArguments.covered {as : List Char} (h : AreArguments as) : Covered as := by
  induction h with
  | single ha => exact ha.covered
  | cons ha hbefore hafter _ ih =>
    have hcomma : Covered [','] := covered_of_all rfl
    have hbetween := (covered_of_blank hbefore).append (hcomma.append (covered_of_blank hafter))
    exact (ha.covered.append hbetween).append ih

theorem IsCall.covered {c : List Char} (h : IsCall c) : Covered c := by
  have hname (f : Function) : Covered f.name.toList := covered_of_all (by cases f <;> rfl)
  cases h with
  | bare f => exact hname f
  | applied f has =>
    have hopen : Covered ['('] := covered_of_all rfl
    have hclose : Covered [')'] := covered_of_all rfl
    exact (hname f).append ((hopen.append has.covered).append hclose)

theorem covered_of_isSegment {s : List Char} (h : isSegment s = true) : Covered s := by
  refine covered_of_forall fun c hc => ⟨((isSegment_spec h).2 c hc).1, ?_⟩
  rintro rfl
  rcases isNamePart_or_isDigit h _ hc with h | h <;> cases h

theorem Covered.intercalate {texts : List (List Char)} (h : ∀ t ∈ texts, Covered t)
    {between : List Char} (hb : Covered between) : Covered (between.intercalate texts) := by
  induction texts with
  | nil => exact covered_of_all rfl
  | cons t texts ih =>
    obtain ⟨ht, htexts⟩ := List.forall_mem_cons.mp h
    cases texts with
    | nil => simpa using ht
    | cons t' texts =>
      rw [List.intercalate_cons_cons]
      exact (ht.append hb).append (ih htexts)

/-- Outside of its quotes an expression holds no closing brace. -/
theorem IsExpression.covered {e : List Char} (h : IsExpression e) : Covered e := by
  induction h with
  | path _ hs =>
    exact .intercalate (fun s hin => covered_of_isSegment (hs s hin)) (covered_of_all rfl)
  | call _ hbefore hafter hc ih =>
    have hbar : Covered ['|'] := covered_of_all rfl
    have hbetween := (covered_of_blank hbefore).append (hbar.append (covered_of_blank hafter))
    exact (ih.append hbetween).append hc.covered

end Jenkinsfile.Expression
