import Jenkinsfile.Text.Digit
import Jenkinsfile.Yaml.Block
import Jenkinsfile.Yaml.Plain
import Jenkinsfile.Yaml.Quoted

/-! Tokens of a YAML text.  Indentation shows as tokens that open and close block collections, and
every key is marked by a token before it; for a key without a question mark, that token is put in
once the colon after the key is found, which has to come within 1024 characters on the same line.
Tags start no token. -/

namespace Jenkinsfile.Yaml

/-- One token.  A directive has its main version number if it is about the version of YAML, and
`broken` stands where no further token can be read. -/
inductive Token where
  | directive (version : Option Nat)
  | documentStart
  | documentEnd
  | blockSequence
  | blockMapping
  | blockEnd
  | openSequence
  | closeSequence
  | openMapping
  | closeMapping
  | entry
  | comma
  | key
  | value
  | alias (name : String)
  | anchor (name : String)
  | scalar (text : String) (plain : Bool)
  | broken
  deriving DecidableEq

/-- Something that turns out to be a key if a colon follows it: how many brackets are open around
it, how many tokens come before it, whether nothing but a key may stand there, and its place. -/
structure KeyPlace where
  depth : Nat
  token : Nat
  required : Bool
  place : Cursor

/-- How far a text has been read: the place, the tokens before it, the number of open brackets, the
column of the innermost block collection and those of the others around it, whether a key may come
next, and what may still turn out to be a key. -/
structure Progress where
  place : Cursor
  tokens : List Token
  depth : Nat
  indent : Int
  outer : List Int
  keyAllowed : Bool
  keys : List KeyPlace

namespace Progress

/-- Nothing read yet. -/
def start (cs : List Char) : Progress := ⟨Cursor.start cs, [], 0, -1, [], true, []⟩

/-- Adds a token, with the place after it. -/
def push (s : Progress) (t : Token) (place : Cursor) : Progress :=
  { s with tokens := s.tokens ++ [t], place }

/-- Whether it is too late for a colon after `k`. -/
def isStale (s : Progress) (k : KeyPlace) : Bool :=
  k.place.line != s.place.line || s.place.index - k.place.index > 1024

/-- Gives up what can no longer be a key. -/
def dropStale (s : Progress) : Option Progress :=
  if s.keys.any fun k => s.isStale k && k.required then none
  else some { s with keys := s.keys.filter fun k => !s.isStale k }

/-- Gives up what could be a key inside the innermost brackets. -/
def forgetKey (s : Progress) : Option Progress :=
  if s.keys.any fun k => k.depth == s.depth && k.required then none
  else some { s with keys := s.keys.filter (·.depth != s.depth) }

/-- Notes that a key may start here. -/
def noteKey (s : Progress) : Option Progress :=
  if s.keyAllowed then do
    let required := s.depth == 0 && s.indent == s.place.column
    let s ← s.forgetKey
    some { s with keys := s.keys ++ [⟨s.depth, s.tokens.length, required, s.place⟩] }
  else some s

/-- Closes the block collections, the innermost first, that are further in than `column`. -/
def closeBlocks (column : Int) (indent : Int) (tokens : List Token) : List Int → Progress → Progress
  | [], s => { s with indent, tokens, outer := [] }
  | i :: outer, s =>
    if column < indent then closeBlocks column i (tokens ++ [.blockEnd]) outer s
    else { s with indent, tokens, outer := i :: outer }

/-- Closes the block collections that are further in than `column`, except inside brackets. -/
def unwind (s : Progress) (column : Int) : Progress :=
  if s.depth != 0 then s else closeBlocks column s.indent s.tokens s.outer s

/-- Puts `t` before the token at position `i`. -/
def insertToken (s : Progress) (i : Nat) (t : Token) : Progress :=
  { s with tokens := s.tokens.take i ++ t :: s.tokens.drop i }

/-- Opens a block collection with the token `t` at position `i`, unless one is open that is as far
in as `column`. -/
def openBlock (s : Progress) (column i : Nat) (t : Token) : Progress :=
  if s.indent < column then
    { s.insertToken i t with indent := column, outer := s.indent :: s.outer }
  else s

/-- The place of the next token: after spaces, comments and line ends. -/
def skipBlank (s : Progress) : (fuel : Nat) → Progress
  | 0 => s
  | fuel + 1 =>
    let p := s.place.dropWhile (· == ' ')
    let p := if p.peek == '#' then p.dropWhile (!endsLine ·) else p
    if isBreak p.peek then
      skipBlank { s with place := p.lineBreak.2, keyAllowed := s.keyAllowed || s.depth == 0 } fuel
    else { s with place := p }

/-- A directive. -/
def directive (s : Progress) : Option Progress := do
  let s ← (s.unwind (-1)).forgetKey
  let (name, p) := s.place.next.span isNameChar
  if name.isEmpty || !(p.peek == ' ' || endsLine p.peek) then none
  if name == "YAML".toList then
    let digit (c : Char) : Bool := '0' ≤ c && c ≤ '9'
    let (major, p) := (p.dropWhile (· == ' ')).span digit
    let (minor, after) := p.next.span digit
    if major.isEmpty || minor.isEmpty || p.peek != '.' then none
    if !(after.peek == ' ' || endsLine after.peek) then none
    let after ← after.endOfLine?
    some ({ s with keyAllowed := false }.push (.directive (some (Text.ofDigits major))) after)
  else
    let after ← (p.dropWhile (!endsLine ·)).endOfLine?
    some ({ s with keyAllowed := false }.push (.directive none) after)

/-- A mark that starts or ends a document. -/
def separator (s : Progress) (t : Token) : Option Progress := do
  let s ← (s.unwind (-1)).forgetKey
  some ({ s with keyAllowed := false }.push t (s.place.skip 3))

/-- An opening bracket. -/
def openBracket (s : Progress) (t : Token) : Option Progress := do
  let s ← s.noteKey
  some ({ s with depth := s.depth + 1, keyAllowed := true }.push t s.place.next)

/-- A closing bracket. -/
def closeBracket (s : Progress) (t : Token) : Option Progress := do
  let s ← s.forgetKey
  some ({ s with depth := s.depth - 1, keyAllowed := false }.push t s.place.next)

/-- A comma between brackets. -/
def comma (s : Progress) : Option Progress := do
  let s ← s.forgetKey
  some ({ s with keyAllowed := true }.push .comma s.place.next)

/-- The dash of an entry. -/
def entry (s : Progress) : Option Progress := do
  if s.depth == 0 && !s.keyAllowed then none
  let s := if s.depth == 0 then s.openBlock s.place.column s.tokens.length .blockSequence else s
  let s ← s.forgetKey
  some ({ s with keyAllowed := true }.push .entry s.place.next)

/-- The question mark of a key. -/
def key (s : Progress) : Option Progress := do
  if s.depth == 0 && !s.keyAllowed then none
  let s := if s.depth == 0 then s.openBlock s.place.column s.tokens.length .blockMapping else s
  let s ← s.forgetKey
  some ({ s with keyAllowed := s.depth == 0 }.push .key s.place.next)

/-- The colon of a value.  If something before it can be its key, the key gets its token now. -/
def value (s : Progress) : Option Progress :=
  match s.keys.find? (·.depth == s.depth) with
  | some k =>
    let s := { s with keys := s.keys.filter (·.depth != s.depth) }.insertToken k.token .key
    let s := if s.depth == 0 then s.openBlock k.place.column k.token .blockMapping else s
    some ({ s with keyAllowed := false }.push .value s.place.next)
  | none => do
    if s.depth == 0 && !s.keyAllowed then none
    let s := if s.depth == 0 then s.openBlock s.place.column s.tokens.length .blockMapping else s
    let s ← s.forgetKey
    some ({ s with keyAllowed := s.depth == 0 }.push .value s.place.next)

/-- An alias or an anchor, which `token` makes from its name. -/
def name (s : Progress) (token : String → Token) : Option Progress := do
  let s ← s.noteKey
  let (name, p) := s.place.next.span isNameChar
  if name.isEmpty || !(endsWord p.peek || "?:,]\x7d%@\x60".toList.contains p.peek) then none
  some ({ s with keyAllowed := false }.push (token (.ofList name)) p)

/-- A block scalar. -/
def block (s : Progress) : Option Progress := do
  let s ← s.forgetKey
  let (text, p) ← blockScalar s.indent s.place
  some ({ s with keyAllowed := true }.push (.scalar (.ofList text) false) p)

/-- A scalar in quotes. -/
def quotedScalar (s : Progress) : Option Progress := do
  let s ← s.noteKey
  let (text, p) ← quoted s.place
  some ({ s with keyAllowed := false }.push (.scalar (.ofList text) false) p)

/-- A plain scalar. -/
def plainScalar (s : Progress) : Option Progress := do
  let s ← s.noteKey
  let g := plain (s.depth != 0) (s.indent + 1) s.place
  some ({ s with keyAllowed := g.crossesLine }.push (.scalar (.ofList g.text) true) g.after)

/-- The token that starts at the place. -/
def token (s : Progress) : Option Progress :=
  let p := s.place
  let c := p.peek
  let flow := s.depth != 0
  let atWordEnd := endsWord (p.peek 1)
  if c == '%' && p.column == 0 then s.directive
  else if p.column == 0 && p.atTriple '-' then s.separator .documentStart
  else if p.column == 0 && p.atTriple '.' then s.separator .documentEnd
  else if c == '[' then s.openBracket .openSequence
  else if c == '\x7b' then s.openBracket .openMapping
  else if c == ']' then s.closeBracket .closeSequence
  else if c == '\x7d' then s.closeBracket .closeMapping
  else if c == ',' then s.comma
  else if c == '-' && atWordEnd then s.entry
  else if c == '?' && (flow || atWordEnd) then s.key
  else if c == ':' && (flow || atWordEnd) then s.value
  else if c == '*' then s.name .alias
  else if c == '&' then s.name .anchor
  else if (c == '|' || c == '>') && !flow then s.block
  else if c == '\'' || c == '"' then s.quotedScalar
  else if startsPlain flow p then s.plainScalar
  else none

/-- Reads one token further, with the ends of the blocks before it; at the end of the text, closes
all blocks. -/
def step (s : Progress) : Option Progress := do
  let s ← (s.skipBlank (s.place.rest.length + 1)).dropStale
  let s := s.unwind s.place.column
  if isEnd s.place.peek then (s.unwind (-1)).forgetKey
  else (← s.token).dropStale

/-- The tokens that stay as they are whatever follows: those before the first that may still turn
out to be a key. -/
def settled (s : Progress) : List Token :=
  s.tokens.take (s.keys.foldl (fun n k => min n k.token) s.tokens.length)

/-- The tokens of the whole text, of which `s` has been read.  Where no token can be read, only
those before it are given that are settled. -/
def finish (s : Progress) : (fuel : Nat) → List Token
  | 0 => s.tokens
  | fuel + 1 =>
    match s.step with
    | none => s.settled ++ [.broken]
    | some after => if isEnd s.place.peek then after.tokens else after.finish fuel

end Progress

/-- The tokens of a text; a byte order mark at its start is left out. -/
def tokens (cs : List Char) : List Token :=
  let s := Progress.start cs
  let s := if s.place.peek == '\ufeff' then { s with place := s.place.next } else s
  s.finish (cs.length + 2)

end Jenkinsfile.Yaml
