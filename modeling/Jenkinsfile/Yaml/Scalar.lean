import Jenkinsfile.Decimal.Reader
import Jenkinsfile.Failure
import Jenkinsfile.Json.Reader
import Jenkinsfile.Text.Digit
import Jenkinsfile.Text.Separator
import Jenkinsfile.Yaml.Timestamp

/-! The values of plain scalars.  A text that has the form of a truth value, of null, of a number or
of a date stands for it, and any other for itself.  Whole numbers are decimal, binary, octal after a zero,
hexadecimal, or in base sixty with colons; a floating-point number has a point in it. -/

namespace Jenkinsfile.Yaml

/-- The texts that stand for themselves and nothing but themselves. -/
def words : Table Value :=
  let spelt (lower capital upper : String) (v : Value) : Table Value :=
    [(lower, v), (capital, v), (upper, v)]
  [("", .null), ("~", .null)] ++ spelt "null" "Null" "NULL" .null ++
    spelt "yes" "Yes" "YES" (.bool true) ++ spelt "no" "No" "NO" (.bool false) ++
    spelt "true" "True" "TRUE" (.bool true) ++ spelt "false" "False" "FALSE" (.bool false) ++
    spelt "on" "On" "ON" (.bool true) ++ spelt "off" "Off" "OFF" (.bool false)

/-- Whether `c` is a digit or an underscore. -/
def isSpacedDecimal (c : Char) : Bool := isDecimal c || c == '_'

/-- The sign before a number, whether it is negative, and the number after it. -/
def signed (cs : List Char) : Bool × List Char :=
  match cs with
  | '-' :: cs => (true, cs)
  | '+' :: cs => (false, cs)
  | cs => (false, cs)

/-- A number's digits without the underscores between them. -/
def digitsOf (cs : List Char) : List Char := cs.filter (· != '_')

/-- Whether `cs` is a part of a number in base sixty, other than the first. -/
def isSixtieth : List Char → Bool
  | [c] => isDecimal c
  | [c, d] => '0' ≤ c && c ≤ '5' && isDecimal d
  | _ => false

/-- Whether `cs` starts with a digit and has nothing but digits and underscores. -/
def isSpacedNumber (cs : List Char) : Bool :=
  match cs with
  | c :: _ => isDecimal c && cs.all isSpacedDecimal
  | [] => false

/-- The parts of a number in base sixty, without the underscores in it: all parts but the first are
below sixty. -/
def sixtieths? (cs : List Char) : Option (List (List Char)) :=
  match Text.splitOn [':'] cs with
  | first :: part :: parts =>
    if isSpacedNumber first && (part :: parts).all isSixtieth then
      some (digitsOf first :: part :: parts)
    else none
  | _ => none

/-- The number that decimal digits write, if they are not too many. -/
def decimal (digits : List Char) : Except Fault Nat :=
  if digits.length > Decimal.maxDigits then .error (.tooManyDigits digits.length)
  else .ok (Text.ofDigits digits)

/-- The number that digits in another base write; there may be nothing but underscores. -/
def inBase (base : Nat) (cs : List Char) : Except Fault Nat :=
  let digits := digitsOf cs
  if digits.isEmpty then .error (.noDigits base)
  else .ok (digits.foldl (fun n c => base * n + (Json.hexValue? c).getD 0) 0)

/-- The number that parts in base sixty write. -/
def inSixties : List (List Char) → Except Fault Nat
  | parts => parts.foldlM (fun n part => do return 60 * n + (← decimal part)) 0

/-- The whole number without a sign that has the form of `cs`. -/
def unsignedInt? (cs : List Char) : Option (Except Fault Nat) :=
  match cs with
  | ['0'] => some (.ok 0)
  | '0' :: 'b' :: c :: digits =>
    if (c :: digits).all fun c => c == '0' || c == '1' || c == '_' then
      some (inBase 2 (c :: digits))
    else none
  | '0' :: 'x' :: c :: digits =>
    if (c :: digits).all fun c => (Json.hexValue? c).isSome || c == '_' then
      some (inBase 16 (c :: digits))
    else none
  | '0' :: digits =>
    if digits.all fun c => ('0' ≤ c && c ≤ '7') || c == '_' then some (inBase 8 cs) else none
  | _ =>
    if isSpacedNumber cs then some (decimal (digitsOf cs))
    else (sixtieths? cs).map inSixties

/-- The power of ten after a fraction, which has a sign, or nothing. -/
def exponent? : List Char → Option Int
  | [] => some 0
  | e :: sign :: d :: digits =>
    if (e == 'e' || e == 'E') && (sign == '-' || sign == '+') && (d :: digits).all isDecimal then
      let n := Int.ofNat (Text.ofDigits (d :: digits))
      some (if sign == '-' then -n else n)
    else none
  | _ => none

/-- The floating-point number that parts in base sixty write, the last of which has the digits
`fraction` after its point. -/
def floatOfSixties (parts : List (List Char)) (fraction : List Char) : Float :=
  let numbers := match parts.reverse with
    | [] => []
    | last :: others =>
      Decimal.ofParts false last fraction 0 ::
        others.map fun part => Decimal.ofParts false part [] 0
  (numbers.zipIdx.map fun e => e.1 * Float.ofNat (Nat.pow 60 e.2)).foldl (· + ·) 0.0

/-- The floating-point number that has the form of `cs`.  One that starts with its point has no
sign. -/
def float? (cs : List Char) : Option Float :=
  let (negative, number) := signed cs
  let (whole, rest) := number.span (· != '.')
  match rest with
  | [] => none
  | _ :: rest =>
    let (fraction, power) := rest.span isSpacedDecimal
    if whole.isEmpty then
      if [".inf".toList, ".Inf".toList, ".INF".toList].contains number then
        some (if negative then -1.0 / 0.0 else 1.0 / 0.0)
      else if [".nan".toList, ".NaN".toList, ".NAN".toList].contains cs then some (0.0 / 0.0)
      else if number == cs && isSpacedNumber fraction then
        (exponent? power).map fun e => Decimal.ofParts false [] (digitsOf fraction) e
      else none
    else if isSpacedNumber whole then
      (exponent? power).map fun e =>
        Decimal.ofParts negative (digitsOf whole) (digitsOf fraction) e
    else if power.isEmpty then
      (sixtieths? whole).map fun parts =>
        let x := floatOfSixties parts (digitsOf fraction)
        if negative then -x else x
    else none

/-- The value of a plain scalar.  The marks of a merge and of a default stand for no value. -/
def plainValue (s : String) : Except Fault Value :=
  let cs := s.toList
  let (negative, number) := signed cs
  match words.get? s, float? cs, unsignedInt? number, timestamp? cs with
  | some v, _, _, _ => .ok v
  | none, some x, _, _ => .ok (.float x)
  | none, none, some n, _ => do
    let n ← n
    return .int (if negative then -Int.ofNat n else Int.ofNat n)
  | none, none, none, some v => v
  | none, none, none, none =>
    if s == "<<" || s == "=" then .error (.data .badValue) else .ok (.str s)

end Jenkinsfile.Yaml
