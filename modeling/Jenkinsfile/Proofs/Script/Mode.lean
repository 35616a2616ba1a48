import Jenkinsfile.Proofs.Script.Preservation

/-! The scan of a text as one pass over its characters.  `Reading` keeps what the scan needs to know
of the text so far, so a text that is put together is read part by part; `read_scan` says that the
pass ends as the tokens of the text tell. -/

namespace Jenkinsfile.Script

/-- What the next character of a text belongs to: to code; to a literal that opens with one mark or
with two that are empty unless a third follows; or to the inside of a literal, which may close with
one mark or needs three in a row. -/
inductive Mode where
  | code (escaped : Bool)
  | opened (q : QuoteMark)
  | emptied (q : QuoteMark)
  | inside (q : QuoteMark) (escaped : Bool)
  | insideTriple (q : QuoteMark) (escaped : Bool) (marks : Nat)
  deriving DecidableEq

/-- The mode after a character of code. -/
def codeNext (escaped : Bool) (c : Char) : Mode :=
  match QuoteMark.ofChar? c with
  | some q => if escaped then .code false else .opened q
  | none => .code (escapes escaped c)

/-- The mode after one more character. -/
def Mode.next : Mode → Char → Mode
  | .code escaped, c => codeNext escaped c
  | .opened q, c => if c = q.char then .emptied q else .inside q (escapes false c)
  | .emptied q, c => if c = q.char then .insideTriple q false 0 else codeNext false c
  | .inside q escaped, c =>
    if c = q.char && !escaped then .code false else .inside q (escapes escaped c)
  | .insideTriple q escaped marks, c =>
    if c = q.char && !escaped then
      if marks = 2 then .code false else .insideTriple q false (marks + 1)
    else .insideTriple q (escapes escaped c) 0

/-- Whether no literal is open. -/
def Mode.inCode : Mode → Bool
  | .code _ | .emptied _ => true
  | _ => false

/-- What a character of code adds to the depth. -/
def braceWeight (c : Char) : Int := if c = '\x7b' then 1 else if c = '\x7d' then -1 else 0

theorem braceWeight_char (q : QuoteMark) : braceWeight q.char = 0 := by cases q <;> rfl

/-- The mode that a text is read in, and the number of its left braces less that of right ones. -/
structure Reading where
  mode : Mode
  depth : Int
  deriving DecidableEq

def Reading.next (r : Reading) (c : Char) : Reading :=
  ⟨r.mode.next c, r.depth + if r.mode.inCode then braceWeight c else 0⟩

/-- Reads a text. -/
def Reading.after (r : Reading) (cs : List Char) : Reading := cs.foldl Reading.next r

@[simp] theorem Reading.after_nil (r : Reading) : r.after [] = r := rfl

@[simp] theorem Reading.after_cons (r : Reading) (c : Char) (cs : List Char) :
    r.after (c :: cs) = (r.next c).after cs := rfl

theorem Reading.after_append (r : Reading) (cs ds : List Char) :
    r.after (cs ++ ds) = (r.after cs).after ds := List.foldl_append

/-- What a reading shows at the end of a text. -/
def Reading.outcome (r : Reading) : Bool × Int := (r.mode.inCode, r.depth)

/-- Whether a token, before which comes a backslash that escapes it or none, is a literal that
nothing closes: such a literal is other text. -/
def Token.isOpen (escaped : Bool) (t : Token) : Bool :=
  t.kind = .other && !escaped && (t.text.head?.bind QuoteMark.ofChar?).isSome

/-- Whether every literal among the tokens of a text is closed. -/
def closedFrom (escaped : Bool) : List Token → Bool
  | [] => true
  | t :: ts => !t.isOpen escaped && closedFrom (escapesAfter escaped t.text) ts

/-- A text that is complete in itself: its scan meets no literal that nothing closes, and has as
many left as right braces. -/
def SelfContained (cs : List Char) : Prop :=
  closedFrom false (scan cs) = true ∧ balance (scan cs) = 0

/-! ### Literals -/

theorem after_inside (q : QuoteMark) (e : Bool) (cs : List Char) (d : Int) :
    (∃ body rest, closeSingle? q.char e cs = some (body, rest) ∧
      Reading.after ⟨.inside q e, d⟩ cs = Reading.after ⟨.code false, d⟩ rest) ∨
    (closeSingle? q.char e cs = none ∧
      ∃ e', Reading.after ⟨.inside q e, d⟩ cs = ⟨.inside q e', d⟩) := by
  induction cs generalizing e with
  | nil => exact .inr ⟨rfl, e, rfl⟩
  | cons c cs ih =>
    by_cases hc : (decide (c = q.char) && !e) = true
    · refine .inl ⟨[c], cs, by rw [closeSingle?, if_pos hc], ?_⟩
      simp [Reading.next, Mode.next, Mode.inCode, hc]
    · have hnext : Reading.next ⟨.inside q e, d⟩ c = ⟨.inside q (escapes e c), d⟩ := by
        simp [Reading.next, Mode.next, Mode.inCode, hc]
      rw [closeSingle?, if_neg hc, Reading.after_cons, hnext]
      obtain ⟨body, rest, hclose, hafter⟩ | ⟨hclose, hafter⟩ := ih (escapes e c)
      · exact .inl ⟨c :: body, rest, by rw [hclose]; rfl, hafter⟩
      · exact .inr ⟨by rw [hclose]; rfl, hafter⟩

theorem startsTriple_replicate {q c : Char} (h : c ≠ q) {k : Nat} (hk : k ≤ 2) (cs : List Char) :
    startsTriple q (List.replicate k q ++ c :: cs) = false := by
  obtain rfl | rfl | rfl : k = 0 ∨ k = 1 ∨ k = 2 := by omega
  · rcases cs with _ | ⟨_, _ | ⟨_, cs⟩⟩ <;> simp [startsTriple, h]
  · cases cs <;> simp [startsTriple, h]
  · simp [List.replicate, startsTriple, h]

/-- Marks right before a character that is no mark close nothing if they are fewer than three. -/
theorem closeTriple?_replicate {q : QuoteMark} {c : Char} (h : c ≠ q.char) {k : Nat} (hk : k ≤ 2)
    (cs : List Char) :
    closeTriple? q.char false (List.replicate k q.char ++ c :: cs) =
      (closeTriple? q.char (escapes false c) cs).map
        fun r => (List.replicate k q.char ++ c :: r.1, r.2) := by
  induction k with
  | zero =>
    have hs := startsTriple_replicate h hk cs
    rw [List.replicate_zero, List.nil_append] at hs ⊢
    rw [closeTriple?, hs, if_neg (by simp)]
    rfl
  | succ k ih =>
    have hs := startsTriple_replicate h hk cs
    have hq : escapes false q.char = false := by cases q <;> rfl
    rw [List.replicate_succ, List.cons_append] at hs ⊢
    rw [closeTriple?, hs, if_neg (by simp), hq, ih (by omega), Option.map_map]
    rfl

/-- Inside a literal of three marks: `k` of them have come right before. -/
theorem after_insideTriple {q : QuoteMark} {e : Bool} {k : Nat} (hk : k ≤ 2)
    (he : k = 0 ∨ e = false) (cs : List Char) (d : Int) :
    (∃ body rest, closeTriple? q.char e (List.replicate k q.char ++ cs) = some (body, rest) ∧
      Reading.after ⟨.insideTriple q e k, d⟩ cs = Reading.after ⟨.code false, d⟩ rest) ∨
    (closeTriple? q.char e (List.replicate k q.char ++ cs) = none ∧
      ∃ e' k', Reading.after ⟨.insideTriple q e k, d⟩ cs = ⟨.insideTriple q e' k', d⟩) := by
  -- `closeTriple?` looks ahead for three marks where the modes count those behind, so the marks
  -- that were counted are put back before what is left of the text.
  induction cs generalizing e k with
  | nil =>
    refine .inr ⟨?_, e, k, rfl⟩
    obtain rfl | rfl | rfl : k = 0 ∨ k = 1 ∨ k = 2 := by omega
    all_goals simp [List.replicate, closeTriple?, startsTriple]
  | cons c cs ih =>
    by_cases hc : c = q.char ∧ e = false
    · obtain ⟨rfl, rfl⟩ := hc
      by_cases hlast : k = 2
      · subst hlast
        refine .inl ⟨List.replicate 3 q.char, cs, ?_, ?_⟩
        · simp [List.replicate, closeTriple?, startsTriple]
        · simp [Reading.next, Mode.next, Mode.inCode]
      · have hnext : Reading.next ⟨.insideTriple q false k, d⟩ q.char =
            ⟨.insideTriple q false (k + 1), d⟩ := by
          simp [Reading.next, Mode.next, Mode.inCode, hlast]
        have hmarks : List.replicate k q.char ++ q.char :: cs =
            List.replicate (k + 1) q.char ++ cs := by
          rw [List.replicate_succ', List.append_assoc]
          rfl
        rw [hmarks, Reading.after_cons, hnext]
        exact ih (by omega) (.inr rfl)
    · have hnext : Reading.next ⟨.insideTriple q e k, d⟩ c =
          ⟨.insideTriple q (escapes e c) 0, d⟩ := by
        simp only [Reading.next, Mode.next, Mode.inCode]
        rw [if_neg (by simpa using hc)]
        simp
      have hclose : closeTriple? q.char e (List.replicate k q.char ++ c :: cs) =
          (closeTriple? q.char (escapes e c) cs).map
            fun r => (List.replicate k q.char ++ c :: r.1, r.2) := by
        cases e with
        | false => exact closeTriple?_replicate (fun h => hc ⟨h, rfl⟩) hk cs
        | true =>
          obtain rfl := he.resolve_right (by simp)
          simp [closeTriple?]
      rw [hclose, Reading.after_cons, hnext]
      obtain ⟨body, rest, hsome, hafter⟩ | ⟨hnone, hafter⟩ :=
        ih (e := escapes e c) (k := 0) (by omega) (.inl rfl)
      · exact .inl ⟨_, rest, by rw [List.replicate_zero, List.nil_append] at hsome; rw [hsome]; rfl,
          hafter⟩
      · exact .inr ⟨by rw [List.replicate_zero, List.nil_append] at hnone; rw [hnone]; rfl, hafter⟩

/-- A literal of two marks is read as code is, unless a third one follows. -/
theorem outcome_after_emptied {q : QuoteMark} {cs : List Char} (h : cs.head? ≠ some q.char)
    (d : Int) : (Reading.after ⟨.emptied q, d⟩ cs).outcome =
      (Reading.after ⟨.code false, d⟩ cs).outcome := by
  cases cs with
  | nil => rfl
  | cons c cs =>
    have hc : c ≠ q.char := by simpa using h
    simp [Reading.next, Mode.next, Mode.inCode, hc]

/-- A literal is read to its end, or to the end of the text if nothing closes it. -/
theorem outcome_literalToken (q : QuoteMark) (cs : List Char) (d : Int) :
    (∃ triple text rest, literalToken q q.char cs = (⟨.literal q triple, text⟩, rest) ∧
      (Reading.after ⟨.opened q, d⟩ cs).outcome = (Reading.after ⟨.code false, d⟩ rest).outcome) ∨
    (literalToken q q.char cs = (⟨.other, q.char :: cs⟩, []) ∧
      (Reading.after ⟨.opened q, d⟩ cs).outcome = (false, d)) := by
  rw [literalToken]
  cases hs : startsTriple q.char (q.char :: cs) with
  | true =>
    rcases cs with _ | ⟨a, _ | ⟨b, cs⟩⟩
    · simp [startsTriple] at hs
    · simp [startsTriple] at hs
    · obtain ⟨rfl, rfl⟩ : a = q.char ∧ b = q.char := by simpa [startsTriple] using hs
      have hopen : Reading.after ⟨.opened q, d⟩ (q.char :: q.char :: cs) =
          Reading.after ⟨.insideTriple q false 0, d⟩ cs := by
        simp [Reading.next, Mode.next, Mode.inCode, braceWeight_char]
      rw [if_pos rfl, hopen, List.drop_succ_cons, List.drop_succ_cons, List.drop_zero]
      obtain ⟨body, rest, hclose, hafter⟩ | ⟨hclose, e, k, hafter⟩ :=
        after_insideTriple (q := q) (e := false) (by omega) (.inl rfl) cs d
      · rw [List.replicate_zero, List.nil_append] at hclose
        rw [hclose, hafter]
        exact .inl ⟨_, _, rest, rfl, rfl⟩
      · rw [List.replicate_zero, List.nil_append] at hclose
        rw [hclose, hafter]
        exact .inr ⟨rfl, rfl⟩
  | false =>
    rw [if_neg (by simp)]
    cases cs with
    | nil => exact .inr ⟨rfl, rfl⟩
    | cons c cs =>
      by_cases hc : c = q.char
      · subst hc
        have hhead : cs.head? ≠ some q.char := by
          intro hh
          obtain ⟨cs, rfl⟩ := List.head?_eq_some_iff.mp hh
          simp [startsTriple] at hs
        refine .inl ⟨false, [q.char, q.char], cs, by simp [closeSingle?], ?_⟩
        have hempty : Reading.after ⟨.opened q, d⟩ (q.char :: cs) =
            Reading.after ⟨.emptied q, d⟩ cs := by
          simp [Reading.next, Mode.next, Mode.inCode]
        rw [hempty, outcome_after_emptied hhead]
      · have hopen : Reading.after ⟨.opened q, d⟩ (c :: cs) =
            Reading.after ⟨.inside q false, d⟩ (c :: cs) := by
          simp [Reading.next, Mode.next, Mode.inCode, hc]
        rw [hopen]
        obtain ⟨body, rest, hclose, hafter⟩ | ⟨hclose, e, hafter⟩ :=
          after_inside q false (c :: cs) d
        · rw [hclose, hafter]
          exact .inl ⟨_, _, rest, rfl, rfl⟩
        · rw [hclose, hafter]
          exact .inr ⟨rfl, rfl⟩

/-! ### Tokens -/

theorem after_plain {e : Bool} {c : Char} (h : Plain e c) (d : Int) :
    Reading.next ⟨.code e, d⟩ c = ⟨.code (escapes e c), d⟩ := by
  have hweight : braceWeight c = 0 := by
    have hs := h.1
    simp only [structural?] at hs
    split at hs
    · cases hs
    · split at hs
      · cases hs
      · simp [braceWeight, *]
  have hmode : codeNext e c = .code (escapes e c) := by
    rw [codeNext]
    cases hq : QuoteMark.ofChar? c with
    | none => rfl
    | some q =>
      obtain rfl : e = true := h.2.resolve_left (by simp [hq])
      rw [escapes_eq_false (ne_backslash_of_mark hq)]
      rfl
  simp [Reading.next, Mode.next, Mode.inCode, hweight, hmode]

theorem after_of_not_stop {cs : List Char} (h : ∀ c ∈ cs, isStop c = false) (e : Bool) (d : Int) :
    Reading.after ⟨.code e, d⟩ cs = ⟨.code (escapesAfter e cs), d⟩ := by
  induction cs generalizing e with
  | nil => rfl
  | cons c cs ih =>
    rw [Reading.after_cons, after_plain (.of_not_stop (h c List.mem_cons_self)),
      ih fun a ha => h a (List.mem_cons_of_mem _ ha), escapesAfter_cons]

theorem after_structural {c : Char} {k : TokenKind} (h : structural? c = some k) (e : Bool)
    (d : Int) : Reading.next ⟨.code e, d⟩ c = ⟨.code false, d + balance [⟨k, [c]⟩]⟩ := by
  obtain ⟨rfl, rfl⟩ | ⟨rfl, rfl⟩ | ⟨rfl, rfl⟩ := structural?_eq_some h <;> rfl

theorem outcome_otherToken {e : Bool} {c : Char} (h : Plain e c) (cs : List Char) (d : Int) :
    (otherToken c cs).1.isOpen e = false ∧
      Reading.after ⟨.code e, d⟩ (c :: cs) = Reading.after
        ⟨.code (escapesAfter e (otherToken c cs).1.text), d + balance [(otherToken c cs).1]⟩
        (otherToken c cs).2 := by
  constructor
  · obtain ⟨-, hq | rfl⟩ := h
    · simp [otherToken, Token.isOpen, hq]
    · simp [otherToken, Token.isOpen]
  · have hstop : ∀ a ∈ cs.takeWhile (!isStop ·), isStop a = false := fun a ha => by
      simpa using List.all_eq_true.mp List.all_takeWhile a ha
    have hcs : c :: cs = (c :: cs.takeWhile (!isStop ·)) ++ cs.dropWhile (!isStop ·) := by
      rw [List.cons_append, List.takeWhile_append_dropWhile]
    rw [hcs, Reading.after_append, Reading.after_cons, after_plain h, after_of_not_stop hstop,
      otherToken, balance_of_joinsOther rfl, Int.add_zero, escapesAfter_cons]

/-- A token and the text after it are read one after the other, where a literal that nothing closes
is the last token of a text. -/
theorem outcome_nextToken (e : Bool) (c : Char) (cs : List Char) (d : Int) :
    ((nextToken e c cs).1.isOpen e = false ∧ (Reading.after ⟨.code e, d⟩ (c :: cs)).outcome =
      (Reading.after ⟨.code (escapesAfter e (nextToken e c cs).1.text),
        d + balance [(nextToken e c cs).1]⟩ (nextToken e c cs).2).outcome) ∨
    ((nextToken e c cs).1.isOpen e = true ∧ (nextToken e c cs).2 = [] ∧
      balance [(nextToken e c cs).1] = 0 ∧
      (Reading.after ⟨.code e, d⟩ (c :: cs)).outcome = (false, d)) := by
  rw [nextToken]
  cases hs : structural? c with
  | some k =>
    have hk : k ≠ .other := by
      obtain ⟨-, rfl⟩ | ⟨-, rfl⟩ | ⟨-, rfl⟩ := structural?_eq_some hs <;> simp
    refine .inl ⟨by simp [Token.isOpen, hk], ?_⟩
    rw [Reading.after_cons, after_structural hs]
    simp [escapesAfter, escapes_eq_false (structural?_ne_backslash hs)]
  | none =>
    cases hq : QuoteMark.ofChar? c with
    | none =>
      have h := outcome_otherToken (e := e) ⟨hs, .inl hq⟩ cs d
      exact .inl ⟨h.1, congrArg Reading.outcome h.2⟩
    | some q =>
      cases e with
      | true =>
        have h := outcome_otherToken (e := true) ⟨hs, .inr rfl⟩ cs d
        exact .inl ⟨h.1, congrArg Reading.outcome h.2⟩
      | false =>
        obtain rfl := QuoteMark.ofChar?_eq_some.mp hq
        have hopen : Reading.after ⟨.code false, d⟩ (q.char :: cs) =
            Reading.after ⟨.opened q, d⟩ cs := by
          simp [Reading.next, Mode.next, Mode.inCode, codeNext, hq, braceWeight_char]
        simp only [Bool.false_eq_true, if_false, hopen]
        obtain ⟨triple, text, rest, hl, hafter⟩ | ⟨hl, hafter⟩ := outcome_literalToken q cs d
        · rw [hl, hafter, Inline.escapesAfter_literal hq hl, balance_of_joinsOther rfl,
            Int.add_zero]
          exact .inl ⟨rfl, rfl⟩
        · rw [hl]
          exact .inr ⟨by simp [Token.isOpen, hq], rfl, rfl, hafter⟩

/-- A text read character by character ends in code if and only if the scan meets no literal that
nothing closes, and at the depth that its tokens give. -/
theorem read_scan (e : Bool) (cs : List Char) (d : Int) :
    (Reading.after ⟨.code e, d⟩ cs).outcome =
      (closedFrom e (scanFrom e cs), d + balance (scanFrom e cs)) := by
  fun_induction scanFrom e cs generalizing d with
  | case1 e => simp [closedFrom, balance, Reading.outcome, Mode.inCode]
  | case2 e c cs _ r ih =>
    rw [closedFrom, balance_cons]
    obtain ⟨hopen, hafter⟩ | ⟨hopen, hrest, hbalance, hafter⟩ := outcome_nextToken e c cs d
    · rw [hafter, ih, hopen, Int.add_assoc]
      simp [r]
    · rw [hafter, hopen, hrest, hbalance, scanFrom_nil]
      simp [balance]

theorem selfContained_iff {cs : List Char} :
    SelfContained cs ↔ (Reading.after ⟨.code false, 0⟩ cs).outcome = (true, 0) := by
  rw [read_scan, SelfContained, scan, Prod.mk.injEq, Int.zero_add]

instance (cs : List Char) : Decidable (SelfContained cs) := decidable_of_iff' _ selfContained_iff

end Jenkinsfile.Script
