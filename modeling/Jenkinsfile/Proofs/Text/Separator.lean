import Jenkinsfile.Text.Separator
import Mathlib.Data.List.Basic

/-! Pieces joined with a separator of one character, split again, and the pieces of a split text
joined again. -/

namespace Jenkinsfile.Text

theorem splitFrom_cons (s : Char) (piece : List Char) (c : Char) (cs : List Char) :
    splitFrom s [] piece (c :: cs) =
      if c = s then piece.reverse :: splitFrom s [] [] cs else splitFrom s [] (c :: piece) cs := by
  rw [splitFrom]
  split
  · rfl
  · rfl

theorem splitFrom_append {s : Char} {cs : List Char} (h : s ∉ cs) (piece rest : List Char) :
    splitFrom s [] piece (cs ++ rest) = splitFrom s [] (cs.reverse ++ piece) rest := by
  induction cs generalizing piece with
  | nil => rfl
  | cons c cs ih =>
    rw [List.mem_cons, not_or] at h
    rw [List.cons_append, splitFrom_cons, if_neg (Ne.symm h.1), ih h.2, List.reverse_cons,
      List.append_assoc]
    rfl

theorem splitOn_intercalate {s : Char} {pieces : List (List Char)} (h : ∀ p ∈ pieces, s ∉ p)
    (hne : pieces ≠ []) : splitOn [s] ([s].intercalate pieces) = pieces := by
  induction pieces with
  | nil => exact absurd rfl hne
  | cons p pieces ih =>
    have hp := h p List.mem_cons_self
    cases pieces with
    | nil =>
      have hsplit := splitFrom_append hp [] []
      rw [List.append_nil, List.append_nil, splitFrom, List.reverse_reverse] at hsplit
      rwa [List.intercalate_singleton]
    | cons p' pieces =>
      have ih := ih (fun q hq => h q (List.mem_cons_of_mem _ hq)) (by simp)
      rw [List.intercalate_cons_cons, List.append_assoc, splitOn, splitFrom_append hp,
        List.singleton_append, splitFrom_cons, if_pos rfl, List.append_nil, List.reverse_reverse]
      exact congrArg (p :: ·) ih

theorem splitFrom_ne_nil (s : Char) (piece cs : List Char) : splitFrom s [] piece cs ≠ [] := by
  induction cs generalizing piece with
  | nil => simp [splitFrom]
  | cons c cs ih =>
    rw [splitFrom_cons]
    split
    · simp
    · exact ih (c :: piece)

theorem joinWith_cons {sep piece : List Char} {pieces : List (List Char)} (h : pieces ≠ []) :
    joinWith sep (piece :: pieces) = piece ++ (sep ++ joinWith sep pieces) := by
  obtain ⟨p, ps, rfl⟩ := List.exists_cons_of_ne_nil h
  rw [joinWith, List.append_assoc]
  simp

theorem joinWith_splitFrom (s : Char) (sep piece cs : List Char) :
    joinWith sep (splitFrom s [] piece cs) =
      piece.reverse ++ cs.flatMap fun c => if c = s then sep else [c] := by
  induction cs generalizing piece with
  | nil => simp [splitFrom, joinWith]
  | cons c cs ih =>
    rw [splitFrom_cons, List.flatMap_cons]
    split
    · rw [joinWith_cons (splitFrom_ne_nil s [] cs), ih]
      rfl
    · rw [ih, List.reverse_cons, List.append_assoc]

/-- The pieces of a text joined again are the text. -/
theorem joinWith_splitOn (s : Char) (cs : List Char) : joinWith [s] (splitOn [s] cs) = cs := by
  have hchars : (cs.flatMap fun c => if c = s then [s] else [c]) = cs.flatMap fun c => [c] :=
    List.flatMap_congr fun c _ => by split <;> simp_all
  rw [splitOn, joinWith_splitFrom, hchars, List.flatMap_singleton']
  rfl

/-- Replacing one character goes character by character. -/
theorem replaceAll_singleton (s : Char) (new cs : List Char) :
    replaceAll [s] new cs = cs.flatMap fun c => if c = s then new else [c] :=
  joinWith_splitFrom s new [] cs

theorem not_mem_of_mem_splitFrom {s : Char} {piece cs : List Char} (hpiece : s ∉ piece) :
    ∀ p ∈ splitFrom s [] piece cs, s ∉ p := by
  induction cs generalizing piece with
  | nil =>
    intro p hp
    rw [splitFrom, List.mem_singleton] at hp
    rwa [hp, List.mem_reverse]
  | cons c cs ih =>
    intro p hp
    rw [splitFrom_cons] at hp
    split at hp
    · rcases List.mem_cons.mp hp with rfl | hp
      · rwa [List.mem_reverse]
      · exact ih (by simp) p hp
    · rename_i hc
      refine ih ?_ p hp
      rw [List.mem_cons, not_or]
      exact ⟨Ne.symm hc, hpiece⟩

/-- No piece of a text holds the separator. -/
theorem not_mem_of_mem_splitOn {s : Char} {cs : List Char} : ∀ p ∈ splitOn [s] cs, s ∉ p :=
  not_mem_of_mem_splitFrom (by simp)

theorem infix_of_mem_splitFrom {s : Char} {piece cs : List Char} :
    ∀ p ∈ splitFrom s [] piece cs, p <:+: piece.reverse ++ cs := by
  induction cs generalizing piece with
  | nil =>
    intro p hp
    rw [splitFrom, List.mem_singleton] at hp
    rw [hp]
    exact (List.prefix_append ..).isInfix
  | cons c cs ih =>
    intro p hp
    rw [splitFrom_cons] at hp
    split at hp
    · rcases List.mem_cons.mp hp with rfl | hp
      · exact (List.prefix_append ..).isInfix
      · exact (ih p hp).trans (List.suffix_append_of_suffix (List.suffix_cons c cs)).isInfix
    · simpa using ih p hp

/-- Every piece of a text stands in it. -/
theorem infix_of_mem_splitOn {s : Char} {cs : List Char} : ∀ p ∈ splitOn [s] cs, p <:+: cs :=
  infix_of_mem_splitFrom

end Jenkinsfile.Text
