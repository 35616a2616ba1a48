import Jenkinsfile.Text.Alphanumeric
import Jenkinsfile.Text.Blank
import Jenkinsfile.Text.Case
import Jenkinsfile.Text.Digit

/-! Patterns that texts are searched for, and the characters that they match.  Characters of a
pattern are code points: a pattern may name one that no text holds. -/

namespace Jenkinsfile.Pattern

/-- The choices under which a part of a pattern is matched. -/
structure Flags where
  ignoreCase : Bool
  multiline : Bool
  dotAll : Bool
  verbose : Bool
  ascii : Bool
  deriving DecidableEq

/-- No choice made. -/
def Flags.none : Flags := ⟨false, false, false, false, false⟩

/-- The named classes of characters. -/
inductive CharClass where
  | digit
  | blank
  | word
  deriving DecidableEq

/-- Whether a code point is that of a letter of ASCII. -/
def isAsciiLetter (n : Nat) : Bool := (65 ≤ n && n ≤ 90) || (97 ≤ n && n ≤ 122)

/-- Whether a character belongs to a class, or to the part of it in ASCII. -/
def CharClass.holds (ascii : Bool) (c : Char) : CharClass → Bool
  | .digit => if ascii then '0' ≤ c && c ≤ '9' else Text.isDigit c
  | .blank => if ascii then c == ' ' || ('\t' ≤ c && c ≤ '\r') else Text.isBlank c
  | .word =>
    if ascii then isAsciiLetter c.toNat || ('0' ≤ c && c ≤ '9') || c == '_' else Text.isWordChar c

/-- A part of a set of characters. -/
inductive SetItem where
  | one (code : Nat)
  | range (first last : Nat)
  | cls (k : CharClass) (negated : Bool)
  deriving DecidableEq

/-- One character of a pattern. -/
inductive Atom where
  | any
  | one (code : Nat) (negated : Bool)
  | set (negated : Bool) (items : List SetItem)
  deriving DecidableEq

/-- A place in a text. -/
inductive Anchor where
  | start
  | finish
  | lineStart
  | lineFinish
  | boundary
  | inside
  deriving DecidableEq

/-- How a loop goes round: as often as it can, as seldom as it can, or as often as it can without a
second thought. -/
inductive LoopStyle where
  | greedy
  | reluctant
  | possessive
  deriving DecidableEq

/-- The least and the greatest number of characters that a pattern takes. -/
structure Width where
  least : Nat
  most : Nat

/-- A pattern. -/
inductive Node where
  | atom (a : Atom)
  | anchor (a : Anchor)
  | plain (body : Node)
  | group (number : Nat) (body : Node)
  | scoped (flags : Flags) (body : Node)
  | atomic (body : Node)
  | look (behind negated : Bool) (body : Node)
  | sequence (items : List Node)
  | choice (branches : List Node)
  | loop (least : Nat) (most : Option Nat) (style : LoopStyle) (body : Node)
  | again (number : Nat) (width : Width)
  | ifMatched (number : Nat) (yes no : Node)

/-- A pattern with the choices that hold for all of it. -/
structure Expr where
  flags : Flags
  node : Node

/-! ### Characters -/

/-- The lower case of a code point, of all letters or of those of ASCII. -/
def lowerCode (ascii : Bool) (n : Nat) : Nat :=
  if ascii then (if 65 ≤ n && n ≤ 90 then n + 32 else n)
  else if n.isValidChar then (Text.lowerChar (.ofNat n)).toNat
  else n

/-- The upper case of a code point, of which only the first character counts. -/
def upperCode (n : Nat) : Nat :=
  if n.isValidChar then ((Text.upperChar (.ofNat n)).headD (.ofNat n)).toNat else n

/-- Whether a code point is that of a letter with two cases. -/
def isCased (ascii : Bool) (n : Nat) : Bool :=
  if ascii then isAsciiLetter n else lowerCode false n != n || upperCode n != n

/-- The small letters that have one capital letter, where they are several. -/
def sharedCapitals : List (List Nat) :=
  [[0x69, 0x131], [0x73, 0x17f], [0xb5, 0x3bc], [0x345, 0x3b9, 0x1fbe], [0x390, 0x1fd3],
    [0x3b0, 0x1fe3], [0x3b2, 0x3d0], [0x3b5, 0x3f5], [0x3b8, 0x3d1], [0x3ba, 0x3f0],
    [0x3c0, 0x3d6], [0x3c1, 0x3f1], [0x3c2, 0x3c3], [0x3c6, 0x3d5], [0x432, 0x1c80],
    [0x434, 0x1c81], [0x43e, 0x1c82], [0x441, 0x1c83], [0x442, 0x1c84, 0x1c85], [0x44a, 0x1c86],
    [0x463, 0x1c87], [0x1c88, 0xa64b], [0x1e61, 0x1e9b], [0xfb05, 0xfb06]]

/-- Whether two small letters count as one. -/
def sameLetter (ascii : Bool) (m n : Nat) : Bool :=
  m == n || (!ascii && sharedCapitals.any fun codes => codes.contains m && codes.contains n)

/-- The code points of a range. -/
def codesOf (first last : Nat) : List Nat := List.range' first (last + 1 - first)

/-- The code points from which on sets keep no table of their characters. -/
def beyondTable (n : Nat) : Bool := 0x10000 ≤ n

namespace SetItem

/-- Whether a part of a set holds a character as it is. -/
def holds (ascii : Bool) (c : Char) : SetItem → Bool
  | .one code => c.toNat == code
  | .range first last => first ≤ c.toNat && c.toNat ≤ last
  | .cls k negated => k.holds ascii c != negated

/-- Whether the case of letters makes a difference to a part of a set. -/
def isCased (ascii : Bool) : SetItem → Bool
  | .one code => Pattern.isCased ascii code || beyondTable code
  | .range first last => beyondTable last || (codesOf first last).any (Pattern.isCased ascii)
  | .cls _ _ => false

/-- Whether a part of a set holds a character in lower case.  Single characters outside of the table
are held against it as they stand, and ranges in upper case too. -/
def holdsLowered (ascii : Bool) (c : Char) : SetItem → Bool
  | .one code =>
    if beyondTable code then c.toNat == code else sameLetter ascii c.toNat (lowerCode ascii code)
  | .range first last =>
    ((codesOf first (min last 0xffff)).any fun n => sameLetter ascii c.toNat (lowerCode ascii n)) ||
      (beyondTable last && ((first ≤ c.toNat && c.toNat ≤ last) ||
        (first ≤ upperCode c.toNat && upperCode c.toNat ≤ last)))
  | .cls k negated => k.holds ascii c != negated

end SetItem

/-- Whether an atom matches a character; any character does not include a line end unless it is asked
to. -/
def Atom.holds (flags : Flags) (c : Char) : Atom → Bool
  | .any => flags.dotAll || c != '\n'
  | .one code negated =>
    (if flags.ignoreCase && isCased flags.ascii code then
      sameLetter flags.ascii (lowerCode flags.ascii c.toNat) (lowerCode flags.ascii code)
    else c.toNat == code) != negated
  | .set negated items =>
    (if flags.ignoreCase && items.any (·.isCased flags.ascii) then
      items.any (·.holdsLowered flags.ascii (.ofNat (lowerCode flags.ascii c.toNat)))
    else items.any (·.holds flags.ascii c)) != negated

/-! ### Widths -/

/-- The width of one pattern after the other. -/
def Width.add (a b : Width) : Width := ⟨a.least + b.least, a.most + b.most⟩

/-- The width of one pattern or the other. -/
def Width.or (a b : Width) : Width := ⟨min a.least b.least, max a.most b.most⟩

/-- The width that stands for no bound. -/
def unboundedWidth : Nat := 18446744073709551616

mutual

/-- The width of a pattern. -/
def Node.width : Node → Width
  | .atom _ => ⟨1, 1⟩
  | .anchor _ | .look _ _ _ => ⟨0, 0⟩
  | .plain body | .group _ body | .scoped _ body | .atomic body => body.width
  | .sequence items => widthOfAll items
  | .choice branches => widthOfAny branches
  | .loop least most _ body =>
    let round := body.width
    ⟨round.least * least,
      match most with
      | some most => round.most * most
      | none => if round.most = 0 then 0 else unboundedWidth⟩
  | .again _ width => width
  | .ifMatched _ yes no => yes.width.or no.width

/-- The width of patterns one after the other. -/
def widthOfAll : List Node → Width
  | [] => ⟨0, 0⟩
  | n :: items => n.width.add (widthOfAll items)

/-- The width of one of several patterns. -/
def widthOfAny : List Node → Width
  | [] => ⟨0, 0⟩
  | [n] => n.width
  | n :: branches => n.width.or (widthOfAny branches)

end

end Jenkinsfile.Pattern
