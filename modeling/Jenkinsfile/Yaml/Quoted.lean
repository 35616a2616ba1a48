import Jenkinsfile.Json.Reader
import Jenkinsfile.Yaml.Cursor

/-! Scalars in quotes.  In single quotes a quote is written twice and nothing else is special; in
double quotes a backslash starts an escape. -/

namespace Jenkinsfile.Yaml

/-- The character of an escape letter. -/
def escapeValue? : Char → Option Char
  | '0' => some '\x00'
  | 'a' => some '\x07'
  | 'b' => some '\x08'
  | 't' | '\t' => some '\t'
  | 'n' => some '\n'
  | 'v' => some '\x0b'
  | 'f' => some '\x0c'
  | 'r' => some '\r'
  | 'e' => some '\x1b'
  | ' ' => some ' '
  | '"' => some '"'
  | '\\' => some '\\'
  | '/' => some '/'
  | 'N' => some '\x85'
  | '_' => some '\xa0'
  | 'L' => some '\u2028'
  | 'P' => some '\u2029'
  | _ => none

/-- How many hexadecimal digits follow an escape letter. -/
def escapeWidth? : Char → Option Nat
  | 'x' => some 2
  | 'u' => some 4
  | 'U' => some 8
  | _ => none

/-- The character with the number that the next `width` digits write. -/
def escapedPoint? (width : Nat) (p : Cursor) : Option Char :=
  let digits := p.rest.take width
  if digits.length = width then (Json.hexNumber? digits).map .ofNat else none

/-- The line ends of the empty lines from a place on; a separator of documents may not come here. -/
def quotedBreaks : (fuel : Nat) → Cursor → Option (List Char × Cursor)
  | 0, _ => none
  | fuel + 1, p =>
    if p.atSeparator then none
    else
      let p := p.dropWhile isSpace
      if isBreak p.peek then
        let (ending, p) := p.lineBreak
        (quotedBreaks fuel p).map fun r => (ending ++ r.1, r.2)
      else some ([], p)

/-- What the spaces and line ends at a place stand for. -/
def quotedGap (p : Cursor) : Option (List Char × Cursor) :=
  let (spaces, p) := p.span isSpace
  if isBreak p.peek then
    let (ending, p) := p.lineBreak
    (quotedBreaks (p.rest.length + 1) p).map fun r => (joint ending r.1, r.2)
  else some (spaces, p)

/-- What the escape at a place, after its backslash, stands for; a line end stands for nothing. -/
def escape (p : Cursor) : Option (List Char × Cursor) :=
  let c := p.peek
  if isBreak c then
    let p := p.lineBreak.2
    quotedBreaks (p.rest.length + 1) p
  else
    match escapeValue? c, escapeWidth? c with
    | some v, _ => some ([v], p.next)
    | none, some width => (escapedPoint? width p.next).map fun v => ([v], p.next.skip width)
    | none, none => none

/-- The rest of a scalar in quotes, and the place after its closing quote. -/
def quotedFrom (double : Bool) : (fuel : Nat) → Cursor → Option (List Char × Cursor)
  | 0, _ => none
  | fuel + 1, p =>
    let c := p.peek
    let piece : Option (Option (List Char × Cursor)) :=
      if isEnd c then some none
      else if !double && c == '\'' then
        if p.peek 1 == '\'' then some (some (['\''], p.skip 2)) else none
      else if double && c == '"' then none
      else if double && c == '\\' then some (escape p.next)
      else if isSpace c || isBreak c then some (quotedGap p)
      else some (some ([c], p.next))
    match piece with
    | none => some ([], p.next)
    | some none => none
    | some (some (text, p)) => (quotedFrom double fuel p).map fun r => (text ++ r.1, r.2)

/-- The scalar in quotes at a place, and the place after it. -/
def quoted (p : Cursor) : Option (List Char × Cursor) :=
  quotedFrom (p.peek == '"') (p.rest.length + 1) p.next

end Jenkinsfile.Yaml
