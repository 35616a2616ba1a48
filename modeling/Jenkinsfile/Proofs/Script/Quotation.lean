import Jenkinsfile.Proofs.Script.Escape
import Jenkinsfile.Proofs.Script.Scan

/-! Values between double quotes.  `scan_quotation` says that such a value is read as one literal,
which denotes its text, and that what stands before and after it is read as if it stood alone. -/

namespace Jenkinsfile.Script

/-- A text between double quotes. -/
def quotation (text : String) : List Char := '"' :: (escape text).toList ++ ['"']

/-- What the inside of a literal stands for: a backslash and the character after it stand for that
character. -/
def unescaped : List Char → List Char
  | [] => []
  | [c] => [c]
  | c :: d :: cs => if c = '\\' then d :: unescaped cs else c :: unescaped (d :: cs)

/-- What a literal of one mark stands for. -/
def denoted (literal : List Char) : List Char := unescaped literal.tail.dropLast

theorem unescaped_cons {c : Char} (h : c ≠ '\\') (cs : List Char) :
    unescaped (c :: cs) = c :: unescaped cs := by
  cases cs with
  | nil => rfl
  | cons d cs => rw [unescaped, if_neg h]

theorem unescaped_escapeLiteral (cs : List Char) :
    unescaped (cs.flatMap escapeLiteral) = cs := by
  induction cs with
  | nil => rfl
  | cons c cs ih =>
    rw [List.flatMap_cons]
    obtain ⟨hc, -⟩ | ⟨hc, hb, -⟩ := escapeLiteral_cases c
    · simp [hc, unescaped, ih]
    · rw [hc, List.singleton_append, unescaped_cons hb, ih]

/-- What is escaped holds no mark that closes the literal. -/
theorem closeSingle?_escapeLiteral (cs after : List Char) :
    closeSingle? '"' false (cs.flatMap escapeLiteral ++ '"' :: after) =
      some (cs.flatMap escapeLiteral ++ ['"'], after) := by
  induction cs with
  | nil => rfl
  | cons c cs ih =>
    rw [List.flatMap_cons]
    obtain ⟨hc, -⟩ | ⟨hc, hb, hq⟩ := escapeLiteral_cases c
    · simp [hc, closeSingle?, escapes, ih]
    · simp [hc, closeSingle?, hq, escapes_eq_false hb, ih]

theorem denoted_quotation (text : String) : denoted (quotation text) = text.toList := by
  rw [denoted, quotation, List.cons_append, List.tail_cons, List.dropLast_concat, toList_escape,
    unescaped_escapeLiteral]

theorem startsTriple_quotation (text : String) {after : List Char} (h : after.head? ≠ some '"') :
    startsTriple '"' ('"' :: ((escape text).toList ++ '"' :: after)) = false := by
  rw [toList_escape]
  cases text.toList with
  | nil =>
    -- the quotation of an empty text is two marks, which a third must not follow
    match after, h with
    | [], _ => rfl
    | a :: after, h => simpa [startsTriple] using h
  | cons c cs =>
    rw [List.flatMap_cons]
    obtain ⟨hc, -⟩ | ⟨hc, -, hq⟩ := escapeLiteral_cases c
    · simp [hc, startsTriple]
    · cases cs.flatMap escapeLiteral <;> simp [hc, startsTriple, hq]

theorem literalToken_quotation (text : String) {after : List Char} (h : after.head? ≠ some '"') :
    literalToken .double '"' ((escape text).toList ++ '"' :: after) =
      (⟨.literal .double false, quotation text⟩, after) := by
  have hclose : closeSingle? '"' false ((escape text).toList ++ '"' :: after) =
      some ((escape text).toList ++ ['"'], after) := by
    rw [toList_escape, closeSingle?_escapeLiteral]
  rw [literalToken, startsTriple_quotation text h, if_neg Bool.false_ne_true, hclose]
  rfl

theorem scan_quotation_append (text : String) {after : List Char} (h : after.head? ≠ some '"') :
    scan (quotation text ++ after) = ⟨.literal .double false, quotation text⟩ :: scan after := by
  have hsplit : quotation text ++ after = '"' :: ((escape text).toList ++ '"' :: after) := by
    simp [quotation]
  rw [hsplit, scanFrom_literal rfl (literalToken_quotation text h)]

/-- A text before a mark that it neither escapes nor repeats is read as if it stood alone. -/
theorem Inline.scan_append_mark {before : List Char} {literals : List Token}
    (h : Inline false before literals true) (hopen : escapesAfter false before = false)
    (hlast : ¬ ['"'] <:+ before) (cs : List Char) :
    scan (before ++ '"' :: cs) = scan before ++ scan ('"' :: cs) := by
  rw [scan, h.scanFrom_append_stop rfl (absurd · hlast), hopen, scan, scan]

theorem Inline.scan_append_quotation {before after : List Char} {literals : List Token}
    (h : Inline false before literals true) (hopen : escapesAfter false before = false)
    (hlast : ¬ ['"'] <:+ before) (text : String) (hafter : after.head? ≠ some '"') :
    scan (before ++ (quotation text ++ after)) =
      scan before ++ ⟨.literal .double false, quotation text⟩ :: scan after := by
  have hmark : quotation text ++ after = '"' :: ((escape text).toList ++ ['"'] ++ after) := rfl
  rw [← scan_quotation_append text hafter, hmark, h.scan_append_mark hopen hlast]

/-- A value between double quotes is read as one literal that denotes the text of the value, so it
neither ends early nor takes in what comes after it.  That holds too after other text on its line, as
long as this text leaves no literal open and does not end in a mark or in a backslash that escapes
the next one.  Only a value without a text cannot be put between quotes. -/
theorem scan_quotation (v : Value) :
    ((∃ q, literalText v = .ok q) ↔ v.HasScriptText) ∧
      ∀ q, literalText v = .ok q →
        v.scriptText = .ok (.ofList (denoted ('"' :: q.toList ++ ['"']))) ∧
        ∀ after : List Char, after.head? ≠ some '"' →
          scan ('"' :: q.toList ++ ['"'] ++ after) =
            ⟨.literal .double false, '"' :: q.toList ++ ['"']⟩ :: scan after ∧
          ∀ before literals, Inline false before literals true →
            escapesAfter false before = false → ¬ ['"'] <:+ before →
            scan (before ++ ('"' :: q.toList ++ ['"'] ++ after)) =
              scan before ++ ⟨.literal .double false, '"' :: q.toList ++ ['"']⟩ :: scan after := by
  constructor
  · rw [← v.tells_scriptText.exists_iff]
    constructor
    · rintro ⟨q, hq⟩
      obtain ⟨text, htext, -⟩ := literalText_eq_ok_iff.mp hq
      exact ⟨text, htext⟩
    · rintro ⟨text, htext⟩
      exact ⟨_, literalText_eq_ok_iff.mpr ⟨text, htext, rfl⟩⟩
  · intro q hq
    obtain ⟨text, htext, rfl⟩ := literalText_eq_ok_iff.mp hq
    refine ⟨?_, fun after hafter => ⟨scan_quotation_append text hafter, ?_⟩⟩
    · rw [htext, ← quotation, denoted_quotation, String.ofList_toList]
    · intro before literals hbefore hopen hlast
      exact hbefore.scan_append_quotation hopen hlast text hafter

/-- The name of a stage that starts with a mark, holds a brace and ends in a backslash. -/
theorem scan_quotation_stageName :
    literalText (.str "\"\x7b\\") = .ok "\\\"\x7b\\\\" ∧
      denoted "\"\\\"\x7b\\\\\"".toList = "\"\x7b\\".toList ∧
      scan ("stage(".toList ++ ("\"\\\"\x7b\\\\\"".toList ++ [')', '\x7b'])) =
        scan "stage(".toList ++
          ⟨.literal .double false, "\"\\\"\x7b\\\\\"".toList⟩ :: scan [')', '\x7b'] := by
  have hq : literalText (.str "\"\x7b\\") = .ok "\\\"\x7b\\\\" := by cbv
  obtain ⟨hdenoted, hscan⟩ := (scan_quotation (.str "\"\x7b\\")).2 _ hq
  have hbefore : Inline false "stage(".toList [] true := .of_not_stop (by simp; decide)
  refine ⟨hq, ?_, (hscan [')', '\x7b'] (by decide)).2 _ _ hbefore rfl (by decide)⟩
  have htext := congrArg String.toList (Except.ok.inj hdenoted)
  rw [String.toList_ofList] at htext
  exact htext.symm

end Jenkinsfile.Script
