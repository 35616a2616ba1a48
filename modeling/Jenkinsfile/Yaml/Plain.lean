import Jenkinsfile.Yaml.Cursor

/-! Plain scalars: texts without quotes, which may go on over several lines. -/

namespace Jenkinsfile.Yaml

/-- The marks of collections in brackets. -/
def isFlowMark (c : Char) : Bool :=
  c == ',' || c == '[' || c == ']' || c == '\x7b' || c == '\x7d'

/-- Whether a plain scalar stops before `c`, which `next` follows; `flow` tells whether it stands
in brackets. -/
def stopsPlain (flow : Bool) (c next : Char) : Bool :=
  endsWord c || (c == ':' && (endsWord next || (flow && isFlowMark next))) ||
    (flow && (isFlowMark c || c == '?'))

/-- The characters of a plain scalar up to the next blank or the end of the scalar. -/
def plainWord (flow : Bool) : List Char → List Char
  | [] => []
  | c :: cs => if stopsPlain flow c (cs.headD '\x00') then [] else c :: plainWord flow cs

/-- Whether a plain scalar may start at a place. -/
def startsPlain (flow : Bool) (p : Cursor) : Bool :=
  let c := p.peek
  !(endsWord c || isFlowMark c || "-?:#&*!|>'\"%@`".toList.contains c) ||
    (!endsWord (p.peek 1) && (c == '-' || (!flow && (c == '?' || c == ':'))))

/-- A stretch between two words: what it stands for, whether a line ends in it, and the place after
it. -/
structure Gap where
  text : List Char
  crossesLine : Bool
  after : Cursor

/-- The line ends of the empty lines from a place on, unless a separator of documents follows one of
them. -/
def emptyLines : (fuel : Nat) → Cursor → Option (List Char) × Cursor
  | 0, p => (some [], p)
  | fuel + 1, p =>
    if p.peek == ' ' then emptyLines fuel p.next
    else if isBreak p.peek then
      let (ending, p) := p.lineBreak
      if p.atSeparator then (none, p)
      else
        let (breaks, p) := emptyLines fuel p
        (breaks.map (ending ++ ·), p)
    else (some [], p)

/-- The gap at a place; it stands for nothing when the scalar ends with it. -/
def gap (p : Cursor) : Gap :=
  let (spaces, p) := p.span (· == ' ')
  if isBreak p.peek then
    let (ending, p) := p.lineBreak
    if p.atSeparator then ⟨[], true, p⟩
    else
      let (breaks, p) := emptyLines (p.rest.length + 1) p
      match breaks with
      | some breaks => ⟨joint ending breaks, true, p⟩
      | none => ⟨[], true, p⟩
  else ⟨spaces, false, p⟩

/-- The words of a plain scalar with the gaps between them.  `before` is the gap before the next
word, and a word on a later line has to stand at the column `least` or further right. -/
def plainWords (flow : Bool) (least : Int) : (fuel : Nat) → (before : Gap) → Gap
  | 0, before => { before with text := [] }
  | fuel + 1, before =>
    let p := before.after
    let word := plainWord flow p.rest
    if p.peek == '#' || word.isEmpty then { before with text := [] }
    else
      let g := gap (p.skip word.length)
      if g.text.isEmpty || g.after.peek == '#' || (!flow && g.after.column < least) then
        { g with text := before.text ++ word }
      else
        let more := plainWords flow least fuel g
        { more with text := before.text ++ word ++ more.text }

/-- The plain scalar at a place: its text, whether a line ends after it, and the place after it. -/
def plain (flow : Bool) (least : Int) (p : Cursor) : Gap :=
  plainWords flow least (p.rest.length + 1) ⟨[], false, p⟩

end Jenkinsfile.Yaml
