import Jenkinsfile.Yaml.Cursor

/-! Block scalars: texts that keep their lines, or fold them, until the indentation ends. -/

namespace Jenkinsfile.Yaml

/-- What becomes of the line ends after the last line: all go, the first stays, or all stay. -/
inductive Chomping where
  | strip
  | clip
  | keep
  deriving DecidableEq

/-- The first line of a block scalar: what becomes of the last line ends, and how much further in
the text is, if that is given. -/
structure BlockHeader where
  chomping : Chomping
  indent : Option Nat

/-- The mark for the last line ends at a place. -/
def chomping? (p : Cursor) : Option Chomping :=
  if p.peek == '+' then some .keep else if p.peek == '-' then some .strip else none

/-- The digit at a place. -/
def indentDigit? (p : Cursor) : Option Nat :=
  let c := p.peek
  if '0' ≤ c && c ≤ '9' then some (c.toNat - '0'.toNat) else none

/-- The marks after the one that opens a block scalar, in either order, and the place after them. -/
def blockHeader (p : Cursor) : BlockHeader × Cursor :=
  match chomping? p with
  | some chomping =>
    match indentDigit? p.next with
    | some n => (⟨chomping, some n⟩, p.skip 2)
    | none => (⟨chomping, none⟩, p.next)
  | none =>
    match indentDigit? p with
    | some n =>
      match chomping? p.next with
      | some chomping => (⟨chomping, some n⟩, p.skip 2)
      | none => (⟨.clip, some n⟩, p.next)
    | none => (⟨.clip, none⟩, p)

/-- The place after the spaces here, at the column `indent` at most. -/
def skipIndent (indent : Nat) (p : Cursor) : Cursor :=
  p.skip ((p.rest.take (indent - p.column)).takeWhile (· == ' ')).length

/-- The line ends of the empty lines from a place on, and the place of the next text. -/
def blockBreaks (indent : Nat) : (fuel : Nat) → Cursor → List Char × Cursor
  | 0, p => ([], p)
  | fuel + 1, p =>
    let p := skipIndent indent p
    if isBreak p.peek then
      let (ending, p) := p.lineBreak
      let (breaks, p) := blockBreaks indent fuel p
      (ending ++ breaks, p)
    else ([], p)

/-- The line ends of the empty lines from a place on, the place of the next text, and the greatest
column reached by their spaces and those before the text. -/
def blockStart (widest : Nat) : (fuel : Nat) → Cursor → List Char × Nat × Cursor
  | 0, p => ([], widest, p)
  | fuel + 1, p =>
    if p.peek == ' ' then blockStart (max widest p.next.column) fuel p.next
    else if isBreak p.peek then
      let (ending, p) := p.lineBreak
      let (breaks, widest, p) := blockStart widest fuel p
      (ending ++ breaks, widest, p)
    else ([], widest, p)

/-- The lines of a block scalar up to its last: their text, the end of the last, the line ends of
the empty lines after it, and the place after those. -/
structure BlockBody where
  text : List Char
  ending : List Char
  breaks : List Char
  after : Cursor

/-- The lines of a block scalar from a place on, after empty lines with the line ends `breaks`.
When lines are folded, two that both start without a space are joined. -/
def blockLines (folded : Bool) (indent : Nat) : (fuel : Nat) → (breaks : List Char) → Cursor →
    BlockBody
  | 0, breaks, p => ⟨[], [], breaks, p⟩
  | fuel + 1, breaks, p =>
    if p.column != indent || isEnd p.peek then ⟨[], [], breaks, p⟩
    else
      let (line, after) := p.span (!endsLine ·)
      let (ending, after) := after.lineBreak
      let (following, after) := blockBreaks indent (after.rest.length + 1) after
      if after.column != indent || isEnd after.peek then ⟨breaks ++ line, ending, following, after⟩
      else
        let between :=
          if folded && ending == ['\n'] && !isSpace p.peek && !isSpace after.peek then
            if following.isEmpty then [' '] else []
          else ending
        let body := blockLines folded indent fuel following after
        { body with text := breaks ++ line ++ between ++ body.text }

/-- The block scalar whose opening mark is at a place, inside a collection at the column `outer`,
which is negative outside of all. -/
def blockScalar (outer : Int) (p : Cursor) : Option (List Char × Cursor) := do
  let (header, start) := blockHeader p.next
  if header.indent == some 0 then none
  if !(start.peek == ' ' || endsLine start.peek) then none
  let start ← start.endOfLine?
  let least := (max (outer + 1) 1).toNat
  let fuel := start.rest.length + 1
  let (indent, breaks, start) := match header.indent with
    | some n =>
      let indent := least + n - 1
      let (breaks, start) := blockBreaks indent fuel start
      (indent, breaks, start)
    | none =>
      let (breaks, widest, start) := blockStart 0 fuel start
      (max least widest, breaks, start)
  let body := blockLines (p.peek == '>') indent fuel breaks start
  let last := match header.chomping with
    | .strip => []
    | .clip => body.ending
    | .keep => body.ending ++ body.breaks
  some (body.text ++ last, body.after)

end Jenkinsfile.Yaml
