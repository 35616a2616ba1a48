import Jenkinsfile.Decimal.Reader
import Jenkinsfile.Shape.Reading
import Jenkinsfile.Text.Separator

/-! Whole numbers and truth values read with some tolerance: from each other, from floating-point
numbers without a fraction, and from texts. -/

namespace Jenkinsfile.Shape

open Reading

/-- The characters that may surround a number in a text. -/
def isPadding (c : Char) : Bool := Text.isBlank c && !(0x1c ≤ c.toNat && c.toNat ≤ 0x1f)

/-- Whether `c` is one of the ten digits. -/
def isDecimal (c : Char) : Bool := '0' ≤ c && c ≤ '9'

/-- The number of a text of digits, with a minus sign or without, and without needless zeros. -/
def plainInt? (cs : List Char) : Option Int :=
  let size (cs : List Char) : Option Int :=
    match cs with
    | ['0'] => some 0
    | c :: _ =>
      if c != '0' && cs.all isDecimal then
        some (cs.foldl (fun n c => 10 * n + Int.ofNat (c.toNat - '0'.toNat)) 0)
      else none
    | [] => none
  match cs with
  | '-' :: cs => (size cs).map (-·)
  | cs => size cs

/-- The text from the first digit other than zero on.  `last` is the last zero or underscore before
`cs`, which a point keeps and which stands for the number when nothing follows. -/
def skipZeros? (last : Char) : List Char → Option (List Char)
  | [] => some [last]
  | c :: cs =>
    if c = '0' || c = '_' then skipZeros? c cs
    else if isDecimal c then some (c :: cs)
    else if c = '.' then some (last :: c :: cs)
    else none

/-- A text without the zeros before its number; only a digit or a minus sign may begin it. -/
def withoutZeros? : List Char → Option (List Char)
  | '0' :: cs => skipZeros? '0' cs
  | '-' :: cs => some ('-' :: cs)
  | c :: cs => if isDecimal c then some (c :: cs) else none
  | [] => none

/-- A text without its fraction, if that is zero. -/
def withoutFraction (cs : List Char) : List Char :=
  match cs.dropWhile (· != '.') with
  | '.' :: fraction => if fraction.all (· == '0') then cs.takeWhile (· != '.') else cs
  | _ => cs

/-- A text without its underscores, if each stands between two other characters. -/
def withoutUnderscores (cs : List Char) : List Char :=
  if cs.head? == some '_' || cs.getLast? == some '_' ||
      (Text.splitOn ['_', '_'] cs).length > 1 then cs
  else cs.filter (· != '_')

/-- The whole number that a text gives: a plus sign, needless zeros, single underscores between
digits and a fraction of zero may be part of it. -/
def intOfText? (cs : List Char) : Option Int :=
  let cs := Text.dropAround isPadding cs
  match plainInt? cs with
  | some n => some n
  | none =>
    let unsigned? := match cs with
      | '+' :: '-' :: _ => none
      | '+' :: cs => some cs
      | cs => some cs
    unsigned?.bind fun cs => (withoutZeros? cs).bind fun cs =>
      plainInt? (withoutUnderscores (withoutFraction cs))

/-- Reads a whole number. -/
def int (v : Value) : Reading Int :=
  match v with
  | .int n => .ok n
  | .bool b => .ok (if b then 1 else 0)
  | .float x =>
    match Decimal.Reading.of x with
    | .finite b =>
      match b.toInt? with
      | some n => if n.natAbs < Nat.pow 2 63 then .ok n else mismatch .fractional v
      | none => mismatch .fractional v
    | _ => mismatch .notFinite v
  | .str s =>
    if s.utf8ByteSize > Decimal.maxDigits then mismatch .tooLongInt v
    else
      match intOfText? s.toList with
      | some n => .ok n
      | none => mismatch .unreadableInt v
  | _ => mismatch .notInt v

/-- Reads a whole number of at least `least`. -/
def intFrom (least : Int) (v : Value) : Reading Int :=
  match int v with
  | .ok n => if least ≤ n then .ok n else mismatch (.belowLeast least) v
  | r => r

/-- The texts that stand for truth values, in lower case. -/
def boolTexts : Table Bool :=
  [("0", false), ("off", false), ("f", false), ("false", false), ("n", false), ("no", false),
    ("1", true), ("on", true), ("t", true), ("true", true), ("y", true), ("yes", true)]

/-- Reads a truth value. -/
def bool (v : Value) : Reading Bool :=
  match v with
  | .bool b => .ok b
  | .int n => if n = 0 then .ok false else if n = 1 then .ok true else mismatch .unreadableBool v
  | .float x => if x == 0 then .ok false else if x == 1 then .ok true else mismatch .notBool v
  | .str s =>
    match boolTexts.get? s.toLower with
    | some b => .ok b
    | none => mismatch .unreadableBool v
  | _ => mismatch .notBool v

end Jenkinsfile.Shape
