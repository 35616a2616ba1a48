import Jenkinsfile.Proofs.Script.Piece

/-! Texts put together.  After a line end or a brace that is a token of its own the scan starts
anew: no escape reaches over it and no literal does, so what follows is read as if nothing stood
before it. -/

namespace Jenkinsfile.Script

/-- The kinds that come from one character: braces and line ends. -/
def TokenKind.isStructural : TokenKind → Bool
  | .leftBrace | .rightBrace | .lineEnd => true
  | .literal _ _ | .other => false

theorem TokenKind.isStructural_eq (k : TokenKind) : k.isStructural = !k.joinsOther := by
  cases k <;> rfl

/-- A text whose last token is a line end or a brace, before any other text: its tokens are those of
the two, one after the other. -/
theorem scan_append_of_isStructural {cs : List Char} {t : Token} (h : (scan cs).getLast? = some t)
    (ht : t.kind.isStructural = true) (ds : List Char) : scan (cs ++ ds) = scan cs ++ scan ds := by
  induction cs using stretch_induction with
  | last cs literals closed hs =>
    -- a stretch alone has no such token
    have hj := hs.scanFrom_tokens.1 t (List.mem_of_getLast? h)
    rw [t.kind.isStructural_eq, hj] at ht
    cases ht
  | mark as s k rest literals hs hk ih =>
    have hscan (bs : List Char) : scan (as ++ s :: bs) = scan as ++ ⟨k, [s]⟩ :: scan bs :=
      hs.scanFrom_append hk bs
    rw [List.append_assoc, List.cons_append, hscan, hscan, List.append_assoc, List.cons_append]
    cases rest with
    | nil =>
      have hnil : scan [] = [] := scanFrom_nil false
      rw [hnil, List.nil_append, List.nil_append]
    | cons c rest =>
      have hrest : scan (c :: rest) ≠ [] := by
        rw [scan, scanFrom]
        simp
      rw [hscan, List.getLast?_append_of_ne_nil _ (by simp), ← List.singleton_append,
        List.getLast?_append_of_ne_nil _ hrest] at h
      rw [ih h]

/-- A line end after an escaped mark, and after it a mark that would close a literal. -/
theorem scan_append_escapedMark :
    (scan "a\\'\n".toList).getLast? = some ⟨.lineEnd, ['\n']⟩ ∧
      TokenKind.lineEnd.isStructural = true ∧
      scan ("a\\'\n".toList ++ "'b'".toList) = scan "a\\'\n".toList ++ scan "'b'".toList := by
  have h : (scan "a\\'\n".toList).getLast? = some ⟨.lineEnd, ['\n']⟩ := by decide +kernel
  exact ⟨h, rfl, scan_append_of_isStructural h rfl _⟩

end Jenkinsfile.Script
