import Jenkinsfile.Pipeline.Agent
import Jenkinsfile.Proofs.Script.Preservation
import Jenkinsfile.Proofs.Script.Quotation

/-! The label of an agent that is a map.  It is put between double quotes as it is, without the
escapes that other values get there: `clause_keepsLabel_iff` says which labels this keeps. -/

namespace Jenkinsfile.Script

theorem length_unescaped_le (cs : List Char) : (unescaped cs).length ≤ cs.length := by
  fun_induction unescaped cs with
  | case1 | case2 => simp
  | case3 d cs ih =>
    simp only [List.length_cons]
    omega
  | case4 c d cs hc ih =>
    simp only [List.length_cons] at ih ⊢
    omega

/-- A text that a mark closes and no other, and that stands for itself, has neither marks nor
backslashes. -/
theorem plain_of_closeSingle? {cs : List Char}
    (hclose : closeSingle? '"' false (cs ++ ['"']) = some (cs ++ ['"'], []))
    (hself : unescaped cs = cs) : ∀ c ∈ cs, c ≠ '"' ∧ c ≠ '\\' := by
  induction cs with
  | nil => simp
  | cons c cs ih =>
    rw [List.cons_append, closeSingle?] at hclose
    split at hclose
    · -- the mark would close the literal here
      simp at hclose
    · rename_i hmark
      have hq : c ≠ '"' := by simpa using hmark
      obtain ⟨⟨body, rest⟩, hrest, heq⟩ := Option.map_eq_some_iff.mp hclose
      simp only [Prod.mk.injEq, List.cons.injEq, true_and] at heq
      obtain ⟨rfl, rfl⟩ := heq
      by_cases hb : c = '\\'
      · subst hb
        cases cs with
        | nil => simp [escapes, closeSingle?] at hrest
        | cons d cs =>
          -- the two characters stand for one
          have hshort := length_unescaped_le cs
          have hlength := congrArg List.length hself
          simp only [unescaped, if_true, List.length_cons] at hlength
          omega
      · rw [unescaped_cons hb, List.cons.injEq] at hself
        rw [escapes_eq_false hb] at hrest
        exact List.forall_mem_cons.mpr ⟨⟨hq, hb⟩, ih hrest hself.2⟩

theorem closeSingle?_of_scan {cs : List Char}
    (h : scan ('"' :: cs) = [⟨.literal .double false, '"' :: cs⟩]) :
    closeSingle? '"' false cs = some (cs, []) := by
  obtain ⟨triple, text, rest, hl⟩ | hl := literalToken_cases .double '"' cs
  · rw [scanFrom_literal rfl hl] at h
    simp only [List.cons.injEq, Token.mk.injEq, TokenKind.literal.injEq, true_and] at h
    obtain ⟨⟨rfl, rfl⟩, -⟩ := h
    rw [literalToken] at hl
    split at hl
    · split at hl <;> simp at hl
    · split at hl
      · rename_i body after hclose
        obtain rfl : body = cs := by simpa using congrArg (·.1.text) hl
        have hafter := closeSingle?_append hclose
        obtain rfl : after = [] := by simpa using hafter
        exact hclose
      · simp at hl
  · rw [scanFrom_cut rfl hl] at h
    simp at h

theorem quotation_of_plain {s : String} (h : ∀ c ∈ s.toList, c ≠ '"' ∧ c ≠ '\\') :
    quotation s = '"' :: s.toList ++ ['"'] := by
  have hchars : s.toList.flatMap escapeLiteral = s.toList.flatMap fun c => [c] :=
    List.flatMap_congr fun c hc => by simp [escapeLiteral, h c hc]
  rw [quotation, toList_escape, hchars, List.flatMap_singleton']

end Jenkinsfile.Script

namespace Jenkinsfile.Agent

open Script

/-- The tokens of a clause that keeps a label in one literal: other text, a brace, other text that
ends in a literal, which denotes the label, and a brace. -/
def KeepsLabel (ts : List Token) (label : List Char) : Prop :=
  ∃ before inside literal,
    ts = [⟨.other, before⟩, ⟨.leftBrace, ['\x7b']⟩, ⟨.other, inside ++ literal⟩,
      ⟨.rightBrace, ['\x7d']⟩] ∧
    scan (inside ++ literal) = [⟨.other, inside⟩, ⟨.literal .double false, literal⟩] ∧
    denoted literal = label

theorem scan_before_label (cs : List Char) :
    scan ("label ".toList ++ '"' :: cs) = ⟨.other, "label ".toList⟩ :: scan ('"' :: cs) := by
  have hplain : ∀ c ∈ "label ".toList, isStop c = false := by simp; decide
  have hinline : Inline false "label ".toList [] true := .of_not_stop hplain
  rw [hinline.scan_append_mark rfl (by decide), scan_of_not_stop hplain]
  rfl

theorem tokens_clause (cs : List Char) :
    tokens ("agent ".toList ++ '\x7b' :: ("label ".toList ++ '"' :: cs)) =
      ⟨.other, "agent ".toList⟩ :: ⟨.leftBrace, ['\x7b']⟩ ::
        joinOnto ⟨.other, "label ".toList⟩ (scan ('"' :: cs)) := by
  have hplain : ∀ c ∈ "agent ".toList, isStop c = false := by simp; decide
  have hinline : Inline false "agent ".toList [] true := .of_not_stop hplain
  rw [tokens, scan, hinline.scanFrom_append rfl, ← scan, scan_of_not_stop hplain, scan_before_label]
  simp [joinOthers, joinOnto, TokenKind.joinsOther, TokenKind.isLiteral]

/-- The clause of a map with a label keeps the label exactly if there is nothing in it to escape. -/
theorem keepsLabel_iff (s : String) :
    KeepsLabel (tokens ("agent \x7blabel \"" ++ s ++ "\"\x7d").toList) s.toList ↔
      ∀ c ∈ s.toList, c ≠ '"' ∧ c ≠ '\\' := by
  have htext : ("agent \x7blabel \"" ++ s ++ "\"\x7d").toList =
      "agent ".toList ++ '\x7b' :: ("label ".toList ++ '"' :: (s.toList ++ ['"', '\x7d'])) := by
    simp
  rw [htext, tokens_clause]
  constructor
  · rintro ⟨before, inside, literal, htokens, hscan, hdenoted⟩
    simp only [List.cons.injEq, Token.mk.injEq, true_and] at htokens
    have hjoined := congrArg (List.flatMap Token.text) htokens.2
    rw [flatMap_text_joinOnto, scan, scanFrom_flatMap_text] at hjoined
    have hinside : inside ++ literal = "label ".toList ++ '"' :: (s.toList ++ ['"']) := by
      have hclosed : inside ++ literal ++ ['\x7d'] =
          "label ".toList ++ '"' :: (s.toList ++ ['"']) ++ ['\x7d'] := by
        simpa using hjoined.symm
      exact List.append_cancel_right hclosed
    have hliteral := hinside
    rw [hinside, scan_before_label] at hscan
    simp only [List.cons.injEq, Token.mk.injEq, true_and] at hscan
    obtain ⟨rfl, hscan⟩ := hscan
    obtain rfl := List.append_cancel_left hliteral
    refine plain_of_closeSingle? (closeSingle?_of_scan hscan) ?_
    rwa [denoted, List.tail_cons, List.dropLast_concat] at hdenoted
  · intro h
    have hafter : scan ('"' :: (s.toList ++ ['"', '\x7d'])) =
        [⟨.literal .double false, quotation s⟩, ⟨.rightBrace, ['\x7d']⟩] := by
      have hmark : '"' :: (s.toList ++ ['"', '\x7d']) = quotation s ++ ['\x7d'] := by
        simp [quotation_of_plain h]
      rw [hmark, scan_quotation_append _ (by decide), scan, scanFrom_structural rfl, scan,
        scanFrom_nil]
    refine ⟨"agent ".toList, "label ".toList, quotation s, ?_, ?_, denoted_quotation _⟩
    · rw [hafter]
      simp [joinOnto, TokenKind.joinsOther, TokenKind.isLiteral]
    · have halone := scan_quotation_append s (show ([] : List Char).head? ≠ some '"' by simp)
      rw [List.append_nil, show scan [] = [] from scanFrom_nil false] at halone
      have hmark : quotation s = '"' :: (s.toList ++ ['"']) := quotation_of_plain h
      rw [hmark, scan_before_label, ← hmark, halone]

/-- The clause of an agent with a text for its label puts this text between double quotes.  It is
kept in one literal exactly if there is neither a mark nor a backslash in it. -/
theorem clause_keepsLabel_iff {entries : List (String × Value)} {s : String}
    (h : label? entries = some (.str s)) (hs : s ≠ "") (fallback : String) :
    ∃ text, clause (.map entries) fallback = .ok text ∧
      (KeepsLabel (tokens text.toList) s.toList ↔ ∀ c ∈ s.toList, c ≠ '"' ∧ c ≠ '\\') := by
  refine ⟨"agent \x7blabel \"" ++ s ++ "\"\x7d", ?_, keepsLabel_iff s⟩
  rw [clause]
  simp [h, Value.truthy, hs, Value.text, Failure.ofText, bind, Except.bind, pure, Except.pure]

/-- A label with a brace in it, under a key in capitals and before another label. -/
theorem clause_keepsLabel_iff_braced :
    label? [("LABEL", .str "a\x7b"), ("label", .str "b")] = some (.str "a\x7b") ∧
      "a\x7b" ≠ "" ∧
      ∃ text, clause (.map [("LABEL", .str "a\x7b"), ("label", .str "b")]) "agent any" = .ok text ∧
        KeepsLabel (tokens text.toList) "a\x7b".toList := by
  have hlabel : label? [("LABEL", .str "a\x7b"), ("label", .str "b")] = some (.str "a\x7b") := by
    rfl
  have hne : "a\x7b" ≠ "" := by decide
  obtain ⟨text, htext, hiff⟩ := clause_keepsLabel_iff hlabel hne "agent any"
  exact ⟨hlabel, hne, text, htext, hiff.mpr (by simp)⟩

/-- A mark in the label ends the literal, so that what comes after it is read as code. -/
theorem not_keepsLabel_mark :
    ∃ text, clause (.map [("label", .str "q\"uote")]) "agent any" = .ok text ∧
      ¬ KeepsLabel (tokens text.toList) "q\"uote".toList := by
  refine ⟨"agent \x7blabel \"" ++ "q\"uote" ++ "\"\x7d", rfl, ?_⟩
  rw [keepsLabel_iff]
  simp

end Jenkinsfile.Agent
