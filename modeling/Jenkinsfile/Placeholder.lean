import Jenkinsfile.Expression.Evaluate

/-! Placeholders in script bodies.  A body is literal text with expressions in it, each between
`$` with two opening braces and two closing braces; everything else is kept as it is, and what is
put in place of an expression is not looked at again. -/

namespace Jenkinsfile.Placeholder

/-- One character of literal text, or the text of an expression. -/
inductive Piece where
  | literal (c : Char)
  | expression (expr : List Char)

/-- What follows the closing braces, if only blanks come before them. -/
def closing? (cs : List Char) : Option (List Char) :=
  match cs.dropWhile Text.isBlank with
  | '\x7d' :: '\x7d' :: rest => some rest
  | _ => none

/-- The text up to the first place, after at least one character, where blanks and closing braces
follow; with what comes after these. -/
def upToClosing? : List Char → Option (List Char × List Char)
  | [] => none
  | c :: cs =>
    match closing? cs with
    | some rest => some ([c], rest)
    | none => (upToClosing? cs).map fun r => (c :: r.1, r.2)

/-- The expression of a placeholder whose opening braces come right before `cs`, with what follows
the placeholder.  The blanks around the expression do not belong to it, except the last one of a
placeholder that has nothing else. -/
def inside? (cs : List Char) : Option (List Char × List Char) :=
  let body := cs.dropWhile Text.isBlank
  match upToClosing? body with
  | some r => some r
  | none =>
    match (cs.takeWhile Text.isBlank).getLast?, closing? body with
    | some blank, some rest => some ([blank], rest)
    | _, _ => none

theorem length_of_closing? {cs rest : List Char} (h : closing? cs = some rest) :
    rest.length < cs.length := by
  have hd : (cs.dropWhile Text.isBlank).length ≤ cs.length :=
    (List.dropWhile_sublist _).length_le
  unfold closing? at h
  split at h
  · rename_i rest' heq
    rw [heq] at hd
    simp only [List.length_cons, Option.some.injEq] at hd h
    subst h
    omega
  · simp at h

theorem length_of_upToClosing? {cs expr rest : List Char}
    (h : upToClosing? cs = some (expr, rest)) : rest.length < cs.length := by
  induction cs generalizing expr with
  | nil => simp [upToClosing?] at h
  | cons c cs ih =>
    rw [upToClosing?] at h
    split at h
    · rename_i rest' hc
      simp only [Option.some.injEq, Prod.mk.injEq] at h
      have := length_of_closing? hc
      rw [← h.2, List.length_cons]
      omega
    · simp only [Option.map_eq_some_iff, Prod.mk.injEq] at h
      obtain ⟨r, hr, _, rfl⟩ := h
      have := ih hr
      rw [List.length_cons]
      omega

theorem length_of_inside? {cs expr rest : List Char} (h : inside? cs = some (expr, rest)) :
    rest.length < cs.length := by
  have hd : (cs.dropWhile Text.isBlank).length ≤ cs.length :=
    (List.dropWhile_sublist _).length_le
  unfold inside? at h
  simp only at h
  split at h
  · rename_i r hr
    simp only [Option.some.injEq] at h
    subst h
    have := length_of_upToClosing? hr
    omega
  · split at h
    · rename_i hc
      simp only [Option.some.injEq, Prod.mk.injEq] at h
      have := length_of_closing? hc
      rw [← h.2]
      omega
    · simp at h

/-- What follows an opening at the start of a text. -/
def afterOpening? : List Char → Option (List Char)
  | '$' :: '\x7b' :: '\x7b' :: cs => some cs
  | _ => none

theorem length_of_afterOpening? {cs rest : List Char} (h : afterOpening? cs = some rest) :
    rest.length < cs.length := by
  unfold afterOpening? at h
  split at h
  · simp only [Option.some.injEq] at h
    subst h
    simp only [List.length_cons]
    omega
  · simp at h

/-- The pieces of a body, read from the left. -/
def pieces : List Char → List Piece
  | [] => []
  | c :: cs =>
    match ho : afterOpening? (c :: cs) with
    | none => .literal c :: pieces cs
    | some body =>
      match hi : inside? body with
      | none => .literal c :: pieces cs
      | some (expr, rest) =>
        have := length_of_afterOpening? ho
        have := length_of_inside? hi
        .expression expr :: pieces rest
termination_by cs => cs.length
decreasing_by all_goals simp_all <;> omega

/-- The text of an expression's value among named values. -/
def valueText (context : Table Value) (expr : String) : Except Failure String := do
  let v ← Expression.evaluate expr context
  Failure.ofText v.scriptText

/-- The text of a piece among named values. -/
def Piece.fill (context : Table Value) : Piece → Except Failure (List Char)
  | .literal c => .ok [c]
  | .expression expr => String.toList <$> valueText context (.ofList expr)

/-- The text of pieces one after the other, or the first failure. -/
def fillAll (context : Table Value) : List Piece → Except Failure (List Char)
  | [] => .ok []
  | p :: ps => do
    let text ← p.fill context
    pure (text ++ (← fillAll context ps))

/-- A body with every placeholder replaced by the text of its expression's value. -/
def interpolate (body : String) (context : Table Value) : Except Failure String := do
  pure (.ofList (← fillAll context (pieces body.toList)))

end Jenkinsfile.Placeholder
