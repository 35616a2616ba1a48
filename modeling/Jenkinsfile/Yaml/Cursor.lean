/-! A place in a YAML text and the ways to move on from it.  The end of the text reads as the null
character, which no readable text holds. -/

namespace Jenkinsfile.Yaml

/-- The characters that end a line. -/
def isBreak (c : Char) : Bool :=
  c == '\n' || c == '\r' || c == '\x85' || c == '\u2028' || c == '\u2029'

/-- Whether `c` is what the end of the text reads as. -/
def isEnd (c : Char) : Bool := c == '\x00'

/-- Whether a line ends at `c`. -/
def endsLine (c : Char) : Bool := isEnd c || isBreak c

/-- A space or a tab. -/
def isSpace (c : Char) : Bool := c == ' ' || c == '\t'

/-- Whether a word ends at `c`. -/
def endsWord (c : Char) : Bool := isSpace c || endsLine c

/-- Whether `c` may stand in the names of anchors and directives. -/
def isNameChar (c : Char) : Bool :=
  ('0' ≤ c && c ≤ '9') || ('A' ≤ c && c ≤ 'Z') || ('a' ≤ c && c ≤ 'z') || c == '-' || c == '_'

/-- A place: the text after it, how many characters come before it, its line and its column. -/
structure Cursor where
  rest : List Char
  index : Nat
  line : Nat
  column : Nat

namespace Cursor

/-- The start of a text. -/
def start (cs : List Char) : Cursor := ⟨cs, 0, 0, 0⟩

/-- The character that is `i` places further on. -/
def peek (p : Cursor) (i : Nat := 0) : Char := p.rest.getD i '\x00'

/-- The place after the next character.  A carriage return and the line feed after it end one line,
and a byte order mark takes no column. -/
def next (p : Cursor) : Cursor :=
  match p.rest with
  | [] => p
  | c :: rest =>
    if isBreak c && !(c == '\r' && rest.head? == some '\n') then
      ⟨rest, p.index + 1, p.line + 1, 0⟩
    else if c == '\ufeff' then ⟨rest, p.index + 1, p.line, p.column⟩
    else ⟨rest, p.index + 1, p.line, p.column + 1⟩

/-- The place `n` characters further on. -/
def skip (p : Cursor) : Nat → Cursor
  | 0 => p
  | n + 1 => p.next.skip n

/-- The characters from here on that satisfy `f`, and the place after them. -/
def span (p : Cursor) (f : Char → Bool) : List Char × Cursor :=
  let taken := p.rest.takeWhile f
  (taken, p.skip taken.length)

/-- The place of the next character that does not satisfy `f`. -/
def dropWhile (p : Cursor) (f : Char → Bool) : Cursor := (p.span f).2

/-- What the line end at this place stands for, and the place after it: the separators of Unicode
stand for themselves and all other line ends for a line feed. -/
def lineBreak (p : Cursor) : List Char × Cursor :=
  let c := p.peek
  if c == '\u2028' || c == '\u2029' then ([c], p.next)
  else if c == '\r' && p.peek 1 == '\n' then (['\n'], p.skip 2)
  else if isBreak c then (['\n'], p.next)
  else ([], p)

/-- Whether three marks `c` are the next word. -/
def atTriple (p : Cursor) (c : Char) : Bool :=
  p.peek == c && p.peek 1 == c && p.peek 2 == c && endsWord (p.peek 3)

/-- Whether the next word separates documents. -/
def atSeparator (p : Cursor) : Bool := p.atTriple '-' || p.atTriple '.'

/-- The place at the end of the line, where only a comment may come before it. -/
def endOfLine? (p : Cursor) : Option Cursor :=
  let p := p.dropWhile (· == ' ')
  let p := if p.peek == '#' then p.dropWhile (!endsLine ·) else p
  if endsLine p.peek then some p.lineBreak.2 else none

end Cursor

/-- The text between two pieces that stand on different lines, the first of which ends with
`ending`: one line end alone is read as a space, and of several the first is left out. -/
def joint (ending breaks : List Char) : List Char :=
  if ending != ['\n'] then ending ++ breaks else if breaks.isEmpty then [' '] else breaks

end Jenkinsfile.Yaml
