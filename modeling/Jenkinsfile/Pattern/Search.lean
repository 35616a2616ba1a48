import Jenkinsfile.Pattern.Basic

/-! Searching a text for a pattern.  The branches of a choice are tried in order, and a loop is
tried with more rounds first, or with fewer if it is reluctant.  A match is told as the place where
it ends, with what the groups have matched on the way. -/

namespace Jenkinsfile.Pattern

/-- A place in a text: the characters before it, last first, those after it, and what the groups
have matched. -/
structure Cursor where
  before : List Char
  after : List Char
  groups : List (Nat × List Char)

namespace Cursor

/-- The place after the next character. -/
def advance (s : Cursor) (c : Char) (cs : List Char) : Cursor :=
  { s with before := c :: s.before, after := cs }

/-- The place `n` characters before, if there are so many. -/
def back? (s : Cursor) : Nat → Option Cursor
  | 0 => some s
  | n + 1 =>
    match s.before with
    | c :: cs => { s with before := cs, after := c :: s.after }.back? n
    | [] => none

/-- Whether a word starts or ends here. -/
def atBoundary (ascii : Bool) (s : Cursor) : Bool :=
  let isWord (c : Char) : Bool := CharClass.word.holds ascii c
  s.before.head?.any isWord != s.after.head?.any isWord

/-- Whether the place is of this sort; no text is inside of nothing. -/
def isAt (flags : Flags) (s : Cursor) : Anchor → Bool
  | .start => s.before.isEmpty
  | .finish => s.after.isEmpty
  | .lineStart => s.before.isEmpty || (flags.multiline && s.before.head? == some '\n')
  | .lineFinish =>
    s.after.isEmpty || s.after == ['\n'] || (flags.multiline && s.after.head? == some '\n')
  | .boundary => s.atBoundary flags.ascii
  | .inside => !(s.before.isEmpty && s.after.isEmpty) && !s.atBoundary flags.ascii

/-- Notes that group `number` has matched the text between `opening` and here. -/
def capture (s : Cursor) (number : Nat) (opening : Cursor) : Cursor :=
  let matched := opening.after.take (opening.after.length - s.after.length)
  { s with groups := (number, matched) :: s.groups }

/-- Whether two characters count as one in what a group has matched. -/
def sameAgain (flags : Flags) (c d : Char) : Bool :=
  c = d || (flags.ignoreCase && lowerCode flags.ascii c.toNat = lowerCode flags.ascii d.toNat)

/-- The place after the text `cs`, if it comes next. -/
def skip? (flags : Flags) (s : Cursor) : List Char → Option Cursor
  | [] => some s
  | c :: cs =>
    match s.after with
    | d :: ds => if sameAgain flags c d then (s.advance d ds).skip? flags cs else none
    | [] => none

end Cursor

/-- What matches from a place on, for the rest of the pattern that `rest` stands for. -/
abbrev Matcher := Cursor → (rest : Cursor → Option Cursor) → Option Cursor

/-- The first match, without a second thought when the rest of the pattern fails. -/
def committed (m : Matcher) : Matcher := fun s rest => (m s some).bind rest

/-- Rounds of a loop from the round after the first `count` on, then the rest of the pattern.  A
round that does not advance is the last one; `fuel` bounds the rounds. -/
def rounds (body : Matcher) (least : Nat) (most : Option Nat) (greedy : Bool)
    (rest : Cursor → Option Cursor) :
    (fuel count : Nat) → (stalled : Bool) → Cursor → Option Cursor
  | 0, _, _, s => rest s
  | fuel + 1, count, stalled, s =>
    let more (_ : Unit) : Option Cursor :=
      body s fun s' =>
        let stalled := count ≥ least && s'.after.length == s.after.length
        rounds body least most greedy rest fuel (count + 1) stalled s'
    if count < least then more ()
    else if stalled || !most.all (count < ·) then rest s
    else if greedy then (more ()).or (rest s)
    else (rest s).or (more ())

/-- All rounds of a loop, with fuel for as many as can advance. -/
def allRounds (greedy : Bool) (body : Matcher) (least : Nat) (most : Option Nat) : Matcher :=
  fun s rest => rounds body least most greedy rest (least + s.after.length + 2) 0 false s

/-- A loop of any style. -/
def loopOf (style : LoopStyle) (body : Matcher) (least : Nat) (most : Option Nat) : Matcher :=
  match style with
  | .greedy => allRounds true body least most
  | .reluctant => allRounds false body least most
  | .possessive => committed (allRounds true (committed body) least most)

/-- What a look at the text from `place?` on means for the place `s`: what its groups match is kept,
unless there should be no match. -/
def lookFrom (body : Matcher) (negated : Bool) (place? : Option Cursor) (s : Cursor)
    (rest : Cursor → Option Cursor) : Option Cursor :=
  match place?.bind (body · some) with
  | some s' => if negated then none else rest { s with groups := s'.groups }
  | none => if negated then rest s else none

mutual

/-- The match of a pattern at a place, if `rest` finds one for what comes after it. -/
def Node.run (flags : Flags) : Node → Matcher
  | .atom a, s, rest =>
    match s.after with
    | c :: cs => if a.holds flags c then rest (s.advance c cs) else none
    | [] => none
  | .anchor a, s, rest => if s.isAt flags a then rest s else none
  | .plain body, s, rest => body.run flags s rest
  | .group number body, s, rest => body.run flags s fun s' => rest (s'.capture number s)
  | .scoped flags body, s, rest => body.run flags s rest
  | .atomic body, s, rest => committed (body.run flags) s rest
  | .look false negated body, s, rest => lookFrom (body.run flags) negated (some s) s rest
  | .look true negated body, s, rest =>
    lookFrom (body.run flags) negated (s.back? body.width.least) s rest
  | .sequence items, s, rest => runAll flags items s rest
  | .choice branches, s, rest => runAny flags branches s rest
  | .loop least most style body, s, rest => loopOf style (body.run flags) least most s rest
  | .again number _, s, rest => ((s.groups.lookup number).bind (s.skip? flags)).bind rest
  | .ifMatched number yes no, s, rest =>
    if (s.groups.lookup number).isSome then yes.run flags s rest else no.run flags s rest

/-- The match of patterns one after the other. -/
def runAll (flags : Flags) : List Node → Matcher
  | [], s, rest => rest s
  | n :: items, s, rest => n.run flags s fun s' => runAll flags items s' rest

/-- The match of the first of several patterns that has one. -/
def runAny (flags : Flags) : List Node → Matcher
  | [], _, _ => none
  | n :: branches, s, rest => (n.run flags s rest).or (runAny flags branches s rest)

end

/-- Whether the pattern matches at the start of a text. -/
def Expr.startsText (e : Expr) (s : String) : Bool :=
  (e.node.run e.flags ⟨[], s.toList, []⟩ some).isSome

/-- Whether the pattern matches somewhere in the text from a place on. -/
def searchFrom (e : Expr) (before : List Char) : List Char → Bool
  | [] => (e.node.run e.flags ⟨before, [], []⟩ some).isSome
  | c :: cs =>
    (e.node.run e.flags ⟨before, c :: cs, []⟩ some).isSome || searchFrom e (c :: before) cs

/-- Whether the pattern matches somewhere in a text. -/
def Expr.search (e : Expr) (s : String) : Bool := searchFrom e [] s.toList

end Jenkinsfile.Pattern
