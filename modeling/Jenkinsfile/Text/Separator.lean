/-! Splitting a text at a separator, joining texts with one, and replacing one text by another. -/

namespace Jenkinsfile.Text

/-- What follows `sep` in a text that starts with `sep`. -/
def afterPrefix? : (sep cs : List Char) → Option (List Char)
  | [], cs => some cs
  | _ :: _, [] => none
  | s :: sep, c :: cs => if s = c then afterPrefix? sep cs else none

theorem eq_append_of_afterPrefix? {sep cs rest : List Char} (h : afterPrefix? sep cs = some rest) :
    cs = sep ++ rest := by
  induction sep generalizing cs with
  | nil => simpa [afterPrefix?] using h
  | cons s sep ih =>
    cases cs with
    | nil => simp [afterPrefix?] at h
    | cons c cs =>
      by_cases hs : s = c
      · subst hs
        simp only [afterPrefix?, if_true] at h
        rw [ih h, List.cons_append]
      · simp [afterPrefix?, hs] at h

theorem length_of_afterPrefix? {sep cs rest : List Char} (h : afterPrefix? sep cs = some rest) :
    rest.length ≤ cs.length := by
  rw [eq_append_of_afterPrefix? h, List.length_append]
  omega

/-- The pieces of a text between the occurrences of the separator `s :: sep`, read from the left.
`piece` holds the characters of the piece being read, last first. -/
def splitFrom (s : Char) (sep piece : List Char) : List Char → List (List Char)
  | [] => [piece.reverse]
  | c :: cs =>
    if c = s then
      match h : afterPrefix? sep cs with
      | some rest =>
        have := length_of_afterPrefix? h
        piece.reverse :: splitFrom s sep [] rest
      | none => splitFrom s sep (c :: piece) cs
    else splitFrom s sep (c :: piece) cs
termination_by cs => cs.length

/-- The pieces of `cs` between the occurrences of `sep`, read from the left; a text without the
separator, and any text when the separator is empty, is one piece. -/
def splitOn (sep cs : List Char) : List (List Char) :=
  match sep with
  | [] => [cs]
  | s :: sep => splitFrom s sep [] cs

/-- `pieces` one after the other with `sep` between them. -/
def joinWith (sep : List Char) : List (List Char) → List Char
  | [] => []
  | [piece] => piece
  | piece :: pieces => piece ++ sep ++ joinWith sep pieces

/-- `cs` with every occurrence of `old`, read from the left, replaced by `new`.  The empty text
occurs before every character and at the end. -/
def replaceAll (old new cs : List Char) : List Char :=
  match old with
  | [] => new ++ cs.flatMap fun c => c :: new
  | _ :: _ => joinWith new (splitOn old cs)

end Jenkinsfile.Text
