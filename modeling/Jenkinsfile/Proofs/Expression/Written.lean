import Jenkinsfile.Expression.Evaluate
import Jenkinsfile.Proofs.Text.Digit
import Jenkinsfile.Proofs.Text.Trim
import Jenkinsfile.Script.Token

/-! Calls as they are written, and read back.  A text in quotes may hold all that has a meaning
outside of them, as long as backslashes and the quote itself are escaped; `readCall_chars` says that
a call is read as the call that was written. -/

namespace Jenkinsfile.Expression

open Text
open Script (QuoteMark)

/-- An argument as it is written: a text between marks of one kind, or a number. -/
inductive WrittenLiteral where
  | text (q : QuoteMark) (s : String)
  | int (n : Int)

/-- A call as it is written. -/
structure WrittenCall where
  function : Function
  args : List WrittenLiteral

/-- `c` between two marks `q`. -/
def escapeFor (q : QuoteMark) (c : Char) : List Char :=
  if c = '\\' || c = q.char then ['\\', c] else [c]

namespace WrittenLiteral

def literal : WrittenLiteral → Literal
  | text _ s => .text s
  | int n => .int n

def chars : WrittenLiteral → List Char
  | text q s => q.char :: s.toList.flatMap (escapeFor q) ++ [q.char]
  | int n => (toString n).toList

/-- A number that is short enough to be read. -/
def Short : WrittenLiteral → Prop
  | text _ _ => True
  | int n => (Nat.toDigits 10 n.natAbs).length ≤ Decimal.maxDigits

end WrittenLiteral

namespace WrittenCall

def call (c : WrittenCall) : Call := ⟨c.function, c.args.map WrittenLiteral.literal⟩

/-- The arguments of a call with commas between them. -/
def inside (c : WrittenCall) : List Char := [',', ' '].intercalate (c.args.map WrittenLiteral.chars)

/-- The arguments in parentheses, which are left out if there are no arguments. -/
def parens (c : WrittenCall) : List Char :=
  if c.args.isEmpty then [] else '(' :: c.inside ++ [')']

def chars (c : WrittenCall) : List Char := c.function.name.toList ++ c.parens

end WrittenCall

/-! ### Arguments -/

section Quoted

variable {q : QuoteMark} {cs rest : List Char}

theorem char_ne_backslash (q : QuoteMark) : q.char ≠ '\\' := by cases q <;> decide

theorem closeQuote?_cons {c : Char} (hb : c ≠ '\\') (hq : c ≠ q.char) (cs : List Char) :
    closeQuote? q.char (c :: cs) = (closeQuote? q.char cs).map fun r => (c :: r.1, r.2) := by
  rw [closeQuote?, if_neg hq, if_neg hb]
  rintro _ _ rfl
  exact absurd rfl hb

/-- The quote that ends a text in quotes is the first one that is not escaped. -/
theorem closeQuote?_escapeFor (q : QuoteMark) (cs rest : List Char) :
    closeQuote? q.char (cs.flatMap (escapeFor q) ++ q.char :: rest) =
      some (cs.flatMap (escapeFor q), rest) := by
  induction cs with
  | nil => cases q <;> simp [closeQuote?, QuoteMark.char]
  | cons c cs ih =>
    rw [List.flatMap_cons, escapeFor]
    split
    · simp [closeQuote?, ih]
    · rename_i hc
      obtain ⟨hb, hq⟩ : c ≠ '\\' ∧ c ≠ q.char := by simpa using hc
      rw [List.append_assoc, List.singleton_append, closeQuote?_cons hb hq, ih]
      rfl

theorem unescape_cons {c : Char} (hb : c ≠ '\\') (cs : List Char) :
    unescape (c :: cs) = c :: unescape cs := by
  rw [unescape]
  rintro _ _ rfl
  exact absurd rfl hb

theorem unescape_escapeFor (q : QuoteMark) (cs : List Char) :
    unescape (cs.flatMap (escapeFor q)) = cs := by
  induction cs with
  | nil => rfl
  | cons c cs ih =>
    rw [List.flatMap_cons, escapeFor]
    split
    · rename_i hc
      have hvalue : c ≠ '\n' ∧ escapeValue c = c := by
        rcases (by simpa using hc : c = '\\' ∨ c = q.char) with rfl | rfl
        · decide
        · cases q <;> decide
      simp [unescape, hvalue, ih]
    · rename_i hc
      have hb : c ≠ '\\' := fun h => hc (by simp [h])
      rw [List.singleton_append, unescape_cons hb, ih]

end Quoted

theorem isQuote_char (q : QuoteMark) : isQuote q.char = true := by cases q <;> rfl

theorem isBlank_char (q : QuoteMark) : isBlank q.char = false := by cases q <;> rfl

theorem digit_spec {c : Char} {n : Nat} (h : c ∈ Nat.toDigits 10 n) :
    isDigit c = true ∧ isQuote c = false ∧ c ≠ '-' := by
  have hc := Nat.isDigit_of_mem_toDigits (by omega) (by omega) h
  refine ⟨by rw [isDigit, digitValue?_of_isDigit hc]; rfl, ?_, ?_⟩
  · cases hq : isQuote c with
    | false => rfl
    | true =>
      simp only [isQuote, Bool.or_eq_true, decide_eq_true_eq] at hq
      rcases hq with rfl | rfl <;> cases hc
  · rintro rfl
    cases hc

theorem not_isBlank_of_isDigit {c : Char} (h : isDigit c = true) : isBlank c = false := by
  cases hb : isBlank c with
  | false => rfl
  | true =>
    rw [not_isDigit_of_isBlank hb] at h
    cases h

/-- The text of a number without its sign. -/
theorem argument?_digits {n : Nat} (h : (Nat.toDigits 10 n).length ≤ Decimal.maxDigits)
    {rest : List Char} (hr : ∀ c ∈ rest.head?, isDigit c = false) (negative : Bool) :
    let number := Nat.toDigits 10 n ++ rest
    (number.takeWhile isDigit).isEmpty = false ∧
      readInt negative (number.takeWhile isDigit) = .ok (.int (if negative then -n else n)) ∧
      number.dropWhile isDigit = rest := by
  intro number
  have hall : ∀ c ∈ Nat.toDigits 10 n, isDigit c = true := fun c hc => (digit_spec hc).1
  have hnumber : number.takeWhile isDigit = Nat.toDigits 10 n := by
    rw [List.takeWhile_append_of_pos hall, takeWhile_eq_nil hr, List.append_nil]
  refine ⟨?_, ?_, ?_⟩
  · rw [hnumber]
    simp
  · rw [hnumber, readInt, if_neg (by omega), ofDigits_toDigits]
    rfl
  · rw [List.dropWhile_append_of_pos hall, dropWhile_eq_self hr]

/-- An argument is read, whatever comes after it but a digit. -/
theorem argument?_chars {a : WrittenLiteral} (h : a.Short) {before : List Char}
    (hb : ∀ c ∈ before, isBlank c = true) (rest : List Char)
    (hr : ∀ c ∈ rest.head?, isDigit c = false) :
    argument? (before ++ (a.chars ++ rest)) = some (.ok a.literal, rest) := by
  rw [argument?, List.dropWhile_append_of_pos hb]
  cases a with
  | text q s =>
    have hdrop : (WrittenLiteral.chars (.text q s) ++ rest).dropWhile isBlank =
        q.char :: (s.toList.flatMap (escapeFor q) ++ q.char :: rest) := by
      simp [WrittenLiteral.chars, isBlank_char]
    rw [hdrop]
    simp [isQuote_char, closeQuote?_escapeFor, unescape_escapeFor, WrittenLiteral.literal]
  | int n =>
    rw [WrittenLiteral.chars, toList_toString_int]
    by_cases hn : n < 0
    · obtain ⟨hsome, hread, hdrop⟩ := argument?_digits h hr true
      have hvalue : -(n.natAbs : Int) = n := by omega
      rw [if_pos rfl, hvalue] at hread
      rw [if_pos hn, List.cons_append, List.dropWhile_cons_of_neg (by decide)]
      simp [isQuote, hsome, hread, hdrop, WrittenLiteral.literal]
    · obtain ⟨hsome, hread, hdrop⟩ := argument?_digits h hr false
      have hvalue : (n.natAbs : Int) = n := by omega
      rw [if_neg (by simp), hvalue] at hread
      obtain ⟨d, ds, hd⟩ := List.exists_cons_of_ne_nil
        (Nat.toDigits_ne_nil (n := n.natAbs) (b := 10))
      obtain ⟨hdigit, hquote, hminus⟩ := digit_spec (c := d) (n := n.natAbs) (by simp [hd])
      rw [if_neg hn]
      rw [hd] at hsome hread hdrop ⊢
      rw [List.cons_append] at hsome hread hdrop ⊢
      rw [List.dropWhile_cons_of_neg (by simp [not_isBlank_of_isDigit hdigit])]
      simp [hquote, hminus, hsome, hread, hdrop, WrittenLiteral.literal]

theorem WrittenLiteral.firm (a : WrittenLiteral) : Firm a.chars := by
  cases a with
  | text q s =>
    have hq : Firm [q.char] := firm_singleton (isBlank_char q)
    exact hq.append hq (s.toList.flatMap (escapeFor q))
  | int n =>
    have hdigits : Firm (Nat.toDigits 10 n.natAbs) := by
      refine ⟨Nat.toDigits_ne_nil, fun c hc => ?_, fun c hc => ?_⟩
      · exact not_isBlank_of_isDigit (digit_spec (List.mem_of_mem_head? hc)).1
      · exact not_isBlank_of_isDigit (digit_spec (List.mem_of_mem_getLast? hc)).1
    rw [WrittenLiteral.chars, toList_toString_int]
    split
    · exact (firm_singleton (c := '-') rfl).append hdigits []
    · exact hdigits

theorem readArgumentsFrom_cons {expr : String} {fuel : Nat} {cs rest more : List Char}
    {a : Literal} (ha : argument? cs = some (.ok a, rest))
    (hafter : afterArgument? rest = some more) :
    readArgumentsFrom expr (fuel + 1) cs =
      (readArgumentsFrom expr fuel more).map (a :: ·) := by
  cases cs with
  | nil => cases ha
  | cons c cs =>
    simp only [readArgumentsFrom, ha, hafter]
    cases readArgumentsFrom expr fuel more <;> rfl

theorem readArgumentsFrom_chars (expr : String) {args : List WrittenLiteral}
    (h : ∀ a ∈ args, a.Short) (hne : args ≠ []) (before : List Char)
    (hb : ∀ c ∈ before, isBlank c = true) {fuel : Nat} (hf : args.length ≤ fuel) :
    readArgumentsFrom expr fuel (before ++ [',', ' '].intercalate (args.map WrittenLiteral.chars)) =
      .ok (args.map WrittenLiteral.literal) := by
  -- The blank after a comma is read with the argument that follows, so `before` changes.
  induction args generalizing before fuel with
  | nil => exact absurd rfl hne
  | cons a args ih =>
    rw [List.length_cons] at hf
    obtain ⟨fuel, rfl⟩ : ∃ f, fuel = f + 1 := ⟨fuel - 1, by omega⟩
    have ha := h a List.mem_cons_self
    cases args with
    | nil =>
      have hread := argument?_chars ha hb [] (by simp)
      rw [List.append_nil] at hread
      rw [List.map_singleton, List.intercalate_singleton, readArgumentsFrom_cons hread rfl]
      cases fuel <;> rfl
    | cons a' args =>
      have hread := argument?_chars ha hb
        (',' :: ([' '] ++ [',', ' '].intercalate ((a' :: args).map WrittenLiteral.chars)))
        (by simp; rfl)
      have hcomma (cs : List Char) : a.chars ++ [',', ' '] ++ cs = a.chars ++ ',' :: ([' '] ++ cs) :=
        List.append_assoc ..
      have hrest := ih (fun b hb => h b (List.mem_cons_of_mem _ hb)) (by simp) [' ']
        (by simp; rfl) (show (a' :: args).length ≤ fuel by omega)
      rw [List.map_cons, List.map_cons, List.intercalate_cons_cons, ← List.map_cons, hcomma,
        readArgumentsFrom_cons hread rfl, hrest]
      rfl

/-! ### Calls -/

theorem length_le_inside (args : List WrittenLiteral) :
    args.length ≤ ([',', ' '].intercalate (args.map WrittenLiteral.chars)).length := by
  induction args with
  | nil => exact Nat.zero_le _
  | cons a args ih =>
    have ha := List.length_pos_iff.mpr a.firm.1
    cases args with
    | nil =>
      rw [List.map_singleton, List.intercalate_singleton]
      exact ha
    | cons a' args =>
      rw [List.map_cons, List.map_cons, List.intercalate_cons_cons, ← List.map_cons,
        List.length_append, List.length_append, List.length_cons]
      omega

theorem readArguments_inside (expr : String) {c : WrittenCall} (h : ∀ a ∈ c.args, a.Short) :
    readArguments expr c.inside = .ok (c.args.map WrittenLiteral.literal) := by
  by_cases hne : c.args = []
  · rw [WrittenCall.inside, hne]
    rfl
  · have hfirm : Firm c.inside := .intercalate (fun t ht => by
      obtain ⟨a, -, rfl⟩ := List.mem_map.mp ht
      exact a.firm) (by simpa using hne) _
    rw [readArguments, hfirm.dropAround_eq]
    exact readArgumentsFrom_chars expr h hne [] (by simp) (length_le_inside c.args)

theorem not_isBlank_of_isFunctionChar {c : Char} (h : isFunctionChar c = true) :
    isBlank c = false := by
  simp only [isFunctionChar, Bool.and_eq_true, decide_eq_true_eq, Char.le_def,
    UInt32.le_iff_toNat_le] at h
  change 97 ≤ c.toNat ∧ c.toNat ≤ 122 at h
  simp only [isBlank, Bool.or_eq_false_iff, Bool.and_eq_false_iff, decide_eq_false_iff_not,
    beq_eq_false_iff_ne]
  omega

theorem Function.name_spec (f : Function) :
    (∀ c ∈ f.name.toList, isFunctionChar c = true) ∧ Firm f.name.toList ∧
      Function.ofName? (.ofList f.name.toList) = some f := by
  have hall : f.name.toList.all isFunctionChar = true := by cases f <;> rfl
  have hchar := List.all_eq_true.mp hall
  refine ⟨hchar, ⟨?_, fun c hc => ?_, fun c hc => ?_⟩, by cases f <;> rfl⟩
  · cases f <;> exact List.cons_ne_nil _ _
  · exact not_isBlank_of_isFunctionChar (hchar c (List.mem_of_mem_head? hc))
  · exact not_isBlank_of_isFunctionChar (hchar c (List.mem_of_mem_getLast? hc))

theorem betweenParens?_parens (c : WrittenCall) {after : List Char}
    (ha : ∀ a ∈ after, isBlank a = true) : betweenParens? (c.parens ++ after) = some c.inside := by
  rw [WrittenCall.parens]
  split
  · rename_i hempty
    have hinside : c.inside = [] := by
      rw [WrittenCall.inside, List.isEmpty_iff.mp hempty]
      rfl
    have hdrop : dropAround isBlank after = [] := by
      rw [dropAround, List.dropWhile_eq_nil_iff.mpr ha]
      rfl
    rw [betweenParens?, List.nil_append, hdrop, hinside]
  · have hfirm : Firm ('(' :: c.inside ++ [')']) :=
      (firm_singleton (c := '(') rfl).append (firm_singleton (c := ')') rfl) c.inside
    rw [betweenParens?, hfirm.dropAround_append ha]
    simp

/-- The name of a function ends where its arguments or blanks come. -/
theorem head?_parens (c : WrittenCall) {after : List Char} (ha : ∀ a ∈ after, isBlank a = true) :
    ∀ a ∈ (c.parens ++ after).head?, isFunctionChar a = false := by
  intro a h
  rw [WrittenCall.parens] at h
  split at h
  · cases hfun : isFunctionChar a with
    | false => rfl
    | true =>
      have hblank := ha a (List.mem_of_mem_head? h)
      rw [not_isBlank_of_isFunctionChar hfun] at hblank
      cases hblank
  · obtain rfl : '(' = a := by simpa using h
    rfl

/-- A call among blanks is read as the call that was written. -/
theorem readCall_chars (expr : String) {c : WrittenCall} (h : ∀ a ∈ c.args, a.Short)
    (before : List Char) (hb : ∀ a ∈ before, isBlank a = true) {after : List Char}
    (ha : ∀ a ∈ after, isBlank a = true) :
    readCall expr (before ++ (c.chars ++ after)) = .ok c.call := by
  obtain ⟨hname, hfirm, hof⟩ := Function.name_spec c.function
  have hstop := head?_parens c ha
  have hdrop : (before ++ (c.chars ++ after)).dropWhile isBlank =
      c.function.name.toList ++ (c.parens ++ after) := by
    rw [List.dropWhile_append_of_pos hb, WrittenCall.chars, List.append_assoc, dropWhile_eq_self]
    rw [List.head?_append_of_ne_nil _ hfirm.1]
    exact hfirm.2.1
  have hparts : callParts? (before ++ (c.chars ++ after)) =
      some (c.function.name.toList, c.inside) := by
    rw [callParts?, hdrop, List.takeWhile_append_of_pos hname, takeWhile_eq_nil hstop,
      List.append_nil, List.dropWhile_append_of_pos hname, dropWhile_eq_self hstop,
      betweenParens?_parens c ha]
    simp [hfirm.1]
  rw [readCall, hparts]
  simp only [hof]
  rw [readArguments_inside expr h]
  rfl

end Jenkinsfile.Expression
