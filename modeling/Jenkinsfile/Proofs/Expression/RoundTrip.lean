import Jenkinsfile.Proofs.Expression.Written
import Jenkinsfile.Proofs.Failure
import Jenkinsfile.Proofs.Text.Separator

/-! Expressions written as text and evaluated.  An expression is cut at its bars, at the parentheses
of its calls and at the commas between their arguments, each time anew; `evaluate_cut` says that
all cuts fall where they were meant. -/

namespace Jenkinsfile.Expression

open Text
open Script (QuoteMark)

/-- An expression: the segments of its path with dots between them, and a bar before each call. -/
def write (path : List (List Char)) (calls : List WrittenCall) : String :=
  .ofList (['.'].intercalate path ++ calls.flatMap fun c => ' ' :: '|' :: ' ' :: c.chars)

/-- An expression whose path leads nowhere has no value. -/
def undefined (expr : String) (path : List (List Char)) : Except Failure Value :=
  .error (.error (.render ("undefined variable in template: " ++ .ofList (['.'].intercalate path))
    [("expression", .value (.str expr))]))

/-! ### Bars -/

/-- A text without a bar outside of quotes, and with all of its quotes closed. -/
def Unbarred (cs : List Char) : Prop :=
  ∀ part rest,
    partsFrom none false part (cs ++ rest) = partsFrom none false (cs.reverse ++ part) rest

theorem Unbarred.append {cs ds : List Char} (hc : Unbarred cs) (hd : Unbarred ds) :
    Unbarred (cs ++ ds) := by
  intro part rest
  rw [List.append_assoc, hc, hd, List.reverse_append, List.append_assoc]

theorem unbarred_of_all {cs : List Char} (h : cs.all (fun c => !isQuote c && c != '|') = true) :
    Unbarred cs := by
  intro part rest
  induction cs generalizing part with
  | nil => rfl
  | cons c cs ih =>
    rw [List.all_cons, Bool.and_eq_true] at h
    obtain ⟨hquote, hbar⟩ : isQuote c = false ∧ c ≠ '|' := by simpa using h.1
    rw [List.cons_append, partsFrom]
    simp [hquote, hbar, ih h.2]

theorem unbarred_of_forall {cs : List Char} (h : ∀ c ∈ cs, isQuote c = false ∧ c ≠ '|') :
    Unbarred cs :=
  unbarred_of_all (List.all_eq_true.mpr fun c hc => by simp [h c hc])

theorem Unbarred.intercalate {texts : List (List Char)} (h : ∀ t ∈ texts, Unbarred t)
    {between : List Char} (hb : Unbarred between) : Unbarred (between.intercalate texts) := by
  induction texts with
  | nil => exact unbarred_of_all rfl
  | cons t texts ih =>
    have ht := h t List.mem_cons_self
    cases texts with
    | nil => simpa using ht
    | cons t' texts =>
      rw [List.intercalate_cons_cons]
      exact (ht.append hb).append (ih fun u hu => h u (List.mem_cons_of_mem _ hu))

/-- Inside quotes an escaped character is passed over, so only the last quote closes them. -/
theorem unbarred_quoted (q : QuoteMark) (cs : List Char) :
    Unbarred (q.char :: cs.flatMap (escapeFor q) ++ [q.char]) := by
  have hinside (part rest : List Char) :
      partsFrom (some q.char) false part (cs.flatMap (escapeFor q) ++ q.char :: rest) =
        partsFrom none false (q.char :: ((cs.flatMap (escapeFor q)).reverse ++ part)) rest := by
    induction cs generalizing part with
    | nil => simp [partsFrom, char_ne_backslash]
    | cons c cs ih =>
      rw [List.flatMap_cons, escapeFor]
      split
      · simp [partsFrom, ih]
      · rename_i hc
        obtain ⟨hb, hq⟩ : c ≠ '\\' ∧ c ≠ q.char := by simpa using hc
        simp [partsFrom, hb, hq, ih]
  intro part rest
  have hopen : partsFrom none false part (q.char :: (cs.flatMap (escapeFor q) ++ q.char :: rest)) =
      partsFrom (some q.char) false (q.char :: part)
        (cs.flatMap (escapeFor q) ++ q.char :: rest) := by
    rw [partsFrom]
    simp [isQuote_char]
  have hcs : q.char :: cs.flatMap (escapeFor q) ++ [q.char] ++ rest =
      q.char :: (cs.flatMap (escapeFor q) ++ q.char :: rest) := by simp
  rw [hcs, hopen, hinside]
  simp

theorem WrittenLiteral.unbarred (a : WrittenLiteral) : Unbarred a.chars := by
  cases a with
  | text q s => exact unbarred_quoted q s.toList
  | int n =>
    have hdigits : Unbarred (Nat.toDigits 10 n.natAbs) := unbarred_of_forall fun c hc => by
      obtain ⟨hdigit, hquote, -⟩ := digit_spec hc
      refine ⟨hquote, ?_⟩
      rintro rfl
      cases hdigit
    rw [WrittenLiteral.chars, toList_toString_int]
    have hminus : Unbarred ['-'] := unbarred_of_all rfl
    split
    · exact hminus.append hdigits
    · exact hdigits

theorem WrittenCall.unbarred (c : WrittenCall) : Unbarred c.chars := by
  have hname : Unbarred c.function.name.toList :=
    unbarred_of_all (by cases c.function <;> rfl)
  rw [WrittenCall.chars, WrittenCall.parens]
  refine hname.append ?_
  split
  · exact unbarred_of_all rfl
  · have hopen : Unbarred ['('] := unbarred_of_all rfl
    have hclose : Unbarred [')'] := unbarred_of_all rfl
    have hargs : ∀ t ∈ c.args.map WrittenLiteral.chars, Unbarred t := fun t ht => by
      obtain ⟨a, -, rfl⟩ := List.mem_map.mp ht
      exact a.unbarred
    exact (hopen.append (.intercalate hargs (unbarred_of_all rfl))).append hclose

/-- The parts of calls: what comes before the first one, and a part for each call. -/
theorem partsFrom_calls (expr : String) {calls : List WrittenCall}
    (h : ∀ c ∈ calls, ∀ a ∈ c.args, a.Short) (part : List Char) :
    ∃ after rest, partsFrom none false part (calls.flatMap fun c => ' ' :: '|' :: ' ' :: c.chars) =
        some ((part.reverse ++ after) :: rest) ∧ (∀ a ∈ after, isBlank a = true) ∧
      rest.map (readCall expr) = calls.map fun c => .ok c.call := by
  -- The blank before a bar goes to the part before it and the one after it to the call, so each call
  -- is read with the blanks around it.
  induction calls generalizing part with
  | nil => exact ⟨[], [], by simp [partsFrom], by simp, rfl⟩
  | cons c calls ih =>
    obtain ⟨after, rest, hparts, ha, hcalls⟩ :=
      ih (fun d hd => h d (List.mem_cons_of_mem _ hd)) (c.chars.reverse ++ [' '])
    have hbar : partsFrom none false part (' ' :: '|' :: ' ' :: (c.chars ++
        calls.flatMap fun c => ' ' :: '|' :: ' ' :: c.chars)) =
        (partsFrom none false [' '] (c.chars ++
          calls.flatMap fun c => ' ' :: '|' :: ' ' :: c.chars)).map
            ((' ' :: part).reverse :: ·) := by
      simp [partsFrom, isQuote]
    have hread := readCall_chars expr (h c List.mem_cons_self) [' '] (by simp; rfl) ha
    refine ⟨[' '], ([' '] ++ (c.chars ++ after)) :: rest, ?_, by simp; rfl, ?_⟩
    · rw [List.flatMap_cons]
      simp only [List.cons_append]
      rw [hbar, c.unbarred, hparts]
      simp
    · rw [List.map_cons, hread, hcalls, List.map_cons]

/-! ### Paths -/

theorem not_isBlank_of_isNamePart {c : Char} (h : isNamePart c = true) : isBlank c = false := by
  simp only [isNamePart, isNameStart, Bool.or_eq_true, Bool.and_eq_true, decide_eq_true_eq,
    beq_iff_eq, Char.le_def, UInt32.le_iff_toNat_le] at h
  have hcode : (48 ≤ c.toNat ∧ c.toNat ≤ 57) ∨ (65 ≤ c.toNat ∧ c.toNat ≤ 90) ∨ c.toNat = 95 ∨
      (97 ≤ c.toNat ∧ c.toNat ≤ 122) ∨ c.toNat = 45 := by
    rcases h with (((h | h) | rfl) | h) | rfl
    · exact .inr (.inl h)
    · exact .inr (.inr (.inr (.inl h)))
    · exact .inr (.inr (.inl rfl))
    · exact .inl h
    · exact .inr (.inr (.inr (.inr rfl)))
  simp only [isBlank, Bool.or_eq_false_iff, Bool.and_eq_false_iff, decide_eq_false_iff_not,
    beq_eq_false_iff_ne]
  omega

theorem isNamePart_or_isDigit {s : List Char} (h : isSegment s = true) :
    ∀ c ∈ s, isNamePart c = true ∨ isDigit c = true := by
  intro c hc
  cases s with
  | nil => cases hc
  | cons a s =>
    rw [isSegment, Bool.or_eq_true, Bool.and_eq_true, List.all_eq_true, List.all_eq_true] at h
    rcases h with ⟨ha, hs⟩ | h
    · refine .inl ((List.mem_cons.mp hc).elim (fun hca => ?_) (hs c))
      rw [hca, isNamePart, ha]
      rfl
    · exact .inr (h c hc)

/-- The characters of a segment have no meaning outside of it. -/
theorem isSegment_spec {s : List Char} (h : isSegment s = true) :
    Firm s ∧ ∀ c ∈ s, isQuote c = false ∧ c ≠ '|' ∧ c ≠ '.' := by
  have hchar := isNamePart_or_isDigit h
  have hblank : ∀ c ∈ s, isBlank c = false := fun c hc =>
    (hchar c hc).elim not_isBlank_of_isNamePart not_isBlank_of_isDigit
  refine ⟨⟨?_, fun c hc => hblank c (List.mem_of_mem_head? hc),
    fun c hc => hblank c (List.mem_of_mem_getLast? hc)⟩, fun c hc => ?_⟩
  · rintro rfl
    cases h
  · have hne (d : Char) (hd : isNamePart d = false) (hd' : isDigit d = false) : c ≠ d := by
      rintro rfl
      rcases hchar c hc with h | h
      · rw [hd] at h
        cases h
      · rw [hd'] at h
        cases h
    refine ⟨?_, hne '|' rfl rfl, hne '.' rfl rfl⟩
    simp [isQuote, hne '"' rfl rfl, hne '\'' rfl rfl]

section Path

variable {path : List (List Char)} (hp : ∀ s ∈ path, isSegment s = true) (hne : path ≠ [])

include hp in
theorem unbarred_path : Unbarred (['.'].intercalate path) := by
  refine .intercalate (fun s hs => unbarred_of_forall fun c hc => ?_) (unbarred_of_all rfl)
  obtain ⟨hquote, hbar, -⟩ := (isSegment_spec (hp s hs)).2 c hc
  exact ⟨hquote, hbar⟩

include hp hne in
/-- A path is read as its segments, with or without blanks after it. -/
theorem readPath_path (expr : String) {after : List Char} (ha : ∀ a ∈ after, isBlank a = true) :
    dropAround isBlank (['.'].intercalate path ++ after) = ['.'].intercalate path ∧
      readPath expr (['.'].intercalate path ++ after) = .ok path := by
  have hfirm : Firm (['.'].intercalate path) :=
    .intercalate (fun s hs => (isSegment_spec (hp s hs)).1) hne _
  have hdrop := hfirm.dropAround_append ha
  have hdots : ∀ s ∈ path, '.' ∉ s := fun s hs hdot =>
    ((isSegment_spec (hp s hs)).2 '.' hdot).2.2 rfl
  have hbad : badSegment? path = none := by
    rw [badSegment?, List.find?_eq_none]
    intro s hs
    simp [hp s hs]
  refine ⟨hdrop, ?_⟩
  rw [readPath, hdrop, splitOn_intercalate hdots hne]
  simp only [hbad]

end Path

/-- A written expression is cut into the segments of its path and the very calls that were written. -/
theorem evaluate_cut {path : List (List Char)} {calls : List WrittenCall} (hne : path ≠ [])
    (hp : ∀ s ∈ path, isSegment s = true) (hcalls : ∀ c ∈ calls, ∀ a ∈ c.args, a.Short)
    (context : Table Value) :
    evaluate (write path calls) context = (do
      let v ← Failure.ofFault (follow (.map context) path)
      match ← runCalls (write path calls) v ((calls.map WrittenCall.call).map .ok) with
      | some v => pure v
      | none => undefined (write path calls) path) := by
  obtain ⟨after, rest, hparts, hafter, hread⟩ :=
    partsFrom_calls (write path calls) hcalls (['.'].intercalate path).reverse
  obtain ⟨hdrop, hpath⟩ := readPath_path hp hne (write path calls) hafter
  have hparts' : parts? (write path calls).toList =
      some ((['.'].intercalate path ++ after) :: rest) := by
    rw [parts?, write, String.toList_ofList, unbarred_path hp, List.append_nil, hparts,
      List.reverse_reverse]
  have hcalls : rest.map (readCall (write path calls)) = (calls.map WrittenCall.call).map .ok := by
    rw [hread, List.map_map]
    rfl
  rw [evaluate, hparts']
  simp only [hpath, hcalls, hdrop, undefined]
  rfl

end Jenkinsfile.Expression
