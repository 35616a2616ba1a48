import Jenkinsfile.Text.Blank

/-! Tokens of script text.  Only braces, line ends and quoted literals matter to the layout of a
script; everything else is one kind of token.  Braces and line ends inside a literal belong to it.
The tokens of a text, put together again, are the text. -/

namespace Jenkinsfile.Script

/-- The two marks that open and close literals. -/
inductive QuoteMark where
  | single
  | double
  deriving DecidableEq

/-- The character of a mark. -/
def QuoteMark.char : QuoteMark → Char
  | .single => '\''
  | .double => '"'

/-- The mark of a character. -/
def QuoteMark.ofChar? (c : Char) : Option QuoteMark :=
  if c = '\'' then some .single else if c = '"' then some .double else none

/-- The kinds of tokens; a triple literal has three marks at either end. -/
inductive TokenKind where
  | leftBrace
  | rightBrace
  | lineEnd
  | literal (q : QuoteMark) (triple : Bool)
  | other
  deriving DecidableEq

/-- Whether a kind is one of the literals. -/
def TokenKind.isLiteral : TokenKind → Bool
  | .literal _ _ => true
  | _ => false

/-- A stretch of script text. -/
structure Token where
  kind : TokenKind
  text : List Char
  deriving DecidableEq

/-- Whether a token shows nothing. -/
def Token.isBlank (t : Token) : Bool := t.kind = .other && t.text.all Text.isBlank

/-- The kind of a token that is one character. -/
def structural? (c : Char) : Option TokenKind :=
  if c = '\x7b' then some .leftBrace
  else if c = '\x7d' then some .rightBrace
  else if c = '\n' then some .lineEnd
  else none

/-- Whether `c` ends a stretch of other text. -/
def isStop (c : Char) : Bool := (structural? c).isSome || (QuoteMark.ofChar? c).isSome

/-- Whether the character after `c` is escaped, given whether `c` is: it is when an odd number of
backslashes comes right before it. -/
def escapes (escaped : Bool) (c : Char) : Bool := c == '\\' && !escaped

/-- Whether the character after `cs` is escaped, given whether the first one of `cs` is. -/
def escapesAfter (escaped : Bool) (cs : List Char) : Bool := cs.foldl escapes escaped

/-- Whether three marks stand at the start of `cs`. -/
def startsTriple (q : Char) : List Char → Bool
  | a :: b :: c :: _ => a = q && b = q && c = q
  | _ => false

/-- The text up to the closing mark, which is not escaped, with the text after it. -/
def closeSingle? (q : Char) (escaped : Bool) : List Char → Option (List Char × List Char)
  | [] => none
  | c :: cs =>
    if c = q && !escaped then some ([c], cs)
    else (closeSingle? q (escapes escaped c) cs).map fun r => (c :: r.1, r.2)

/-- The text up to the three closing marks, the first of which is not escaped, with the text after
them. -/
def closeTriple? (q : Char) (escaped : Bool) : List Char → Option (List Char × List Char)
  | [] => none
  | c :: cs =>
    if startsTriple q (c :: cs) && !escaped then some (c :: cs.take 2, cs.drop 2)
    else (closeTriple? q (escapes escaped c) cs).map fun r => (c :: r.1, r.2)

/-- The other text that starts with `c`, up to the next character that ends it. -/
def otherToken (c : Char) (cs : List Char) : Token × List Char :=
  (⟨.other, c :: cs.takeWhile (!isStop ·)⟩, cs.dropWhile (!isStop ·))

/-- The literal that `c`, of mark `q`, opens.  One that nothing closes runs to the end of the text
as other text. -/
def literalToken (q : QuoteMark) (c : Char) (cs : List Char) : Token × List Char :=
  if startsTriple c (c :: cs) then
    match closeTriple? c false (cs.drop 2) with
    | some (body, rest) => (⟨.literal q true, c :: cs.take 2 ++ body⟩, rest)
    | none => (⟨.other, c :: cs⟩, [])
  else
    match closeSingle? c false cs with
    | some (body, rest) => (⟨.literal q false, c :: body⟩, rest)
    | none => (⟨.other, c :: cs⟩, [])

/-- The first token of the text `c :: cs`, and the text after it.  An escaped mark opens no
literal. -/
def nextToken (escaped : Bool) (c : Char) (cs : List Char) : Token × List Char :=
  match structural? c with
  | some kind => (⟨kind, [c]⟩, cs)
  | none =>
    match QuoteMark.ofChar? c with
    | some q => if escaped then otherToken c cs else literalToken q c cs
    | none => otherToken c cs

theorem closeSingle?_append {q : Char} {escaped : Bool} {cs body rest : List Char}
    (h : closeSingle? q escaped cs = some (body, rest)) : body ++ rest = cs := by
  induction cs generalizing escaped body with
  | nil => simp [closeSingle?] at h
  | cons c cs ih =>
    rw [closeSingle?] at h
    split at h
    · simp only [Option.some.injEq, Prod.mk.injEq] at h
      obtain ⟨rfl, rfl⟩ := h
      rfl
    · simp only [Option.map_eq_some_iff, Prod.mk.injEq] at h
      obtain ⟨⟨body', rest'⟩, h', rfl, rfl⟩ := h
      simp [ih h']

theorem closeTriple?_append {q : Char} {escaped : Bool} {cs body rest : List Char}
    (h : closeTriple? q escaped cs = some (body, rest)) : body ++ rest = cs := by
  induction cs generalizing escaped body with
  | nil => simp [closeTriple?] at h
  | cons c cs ih =>
    rw [closeTriple?] at h
    split at h
    · simp only [Option.some.injEq, Prod.mk.injEq] at h
      obtain ⟨rfl, rfl⟩ := h
      simp
    · simp only [Option.map_eq_some_iff, Prod.mk.injEq] at h
      obtain ⟨⟨body', rest'⟩, h', rfl, rfl⟩ := h
      simp [ih h']

theorem otherToken_append (c : Char) (cs : List Char) :
    (otherToken c cs).1.text ++ (otherToken c cs).2 = c :: cs := by
  simp [otherToken, List.takeWhile_append_dropWhile]

theorem literalToken_append (q : QuoteMark) (c : Char) (cs : List Char) :
    (literalToken q c cs).1.text ++ (literalToken q c cs).2 = c :: cs := by
  unfold literalToken
  split
  · split
    · rename_i body rest h
      simp [closeTriple?_append h]
    · simp
  · split
    · rename_i body rest h
      simp [closeSingle?_append h]
    · simp

/-- A token and the text after it are the whole text. -/
theorem nextToken_append (escaped : Bool) (c : Char) (cs : List Char) :
    (nextToken escaped c cs).1.text ++ (nextToken escaped c cs).2 = c :: cs := by
  unfold nextToken
  split
  · rfl
  · split
    · split
      · exact otherToken_append c cs
      · exact literalToken_append _ c cs
    · exact otherToken_append c cs

theorem literalToken_text_ne_nil (q : QuoteMark) (c : Char) (cs : List Char) :
    (literalToken q c cs).1.text ≠ [] := by
  unfold literalToken
  split <;> split <;> simp

/-- A token is never empty. -/
theorem nextToken_text_ne_nil (escaped : Bool) (c : Char) (cs : List Char) :
    (nextToken escaped c cs).1.text ≠ [] := by
  unfold nextToken
  split
  · simp
  · split
    · split
      · simp [otherToken]
      · exact literalToken_text_ne_nil _ c cs
    · simp [otherToken]

theorem nextToken_rest_length (escaped : Bool) (c : Char) (cs : List Char) :
    (nextToken escaped c cs).2.length < cs.length + 1 := by
  have h := congrArg List.length (nextToken_append escaped c cs)
  have h' := List.length_pos_iff.mpr (nextToken_text_ne_nil escaped c cs)
  simp only [List.length_append, List.length_cons] at h
  omega

/-- The tokens of a text, given whether its first character is escaped. -/
def scanFrom (escaped : Bool) : List Char → List Token
  | [] => []
  | c :: cs =>
    have := nextToken_rest_length escaped c cs
    let r := nextToken escaped c cs
    r.1 :: scanFrom (escapesAfter escaped r.1.text) r.2
termination_by cs => cs.length

/-- The tokens of a text. -/
def scan (cs : List Char) : List Token := scanFrom false cs

/-- Whether a token after other text is made part of it. -/
def TokenKind.joinsOther (k : TokenKind) : Bool := k = .other || k.isLiteral

/-- Joins to `t`, as long as it is other text, the other text and the literals that follow it. -/
def joinOnto (t : Token) : List Token → List Token
  | [] => [t]
  | u :: us =>
    if t.kind = .other && u.kind.joinsOther then joinOnto ⟨.other, t.text ++ u.text⟩ us
    else t :: joinOnto u us

/-- Makes one token of other text and all other text and literals that follow it. -/
def joinOthers : List Token → List Token
  | [] => []
  | t :: ts => joinOnto t ts

/-- The tokens of a text for its layout: a literal is a token of its own only where no other text
comes right before it. -/
def tokens (cs : List Char) : List Token := joinOthers (scan cs)

end Jenkinsfile.Script
