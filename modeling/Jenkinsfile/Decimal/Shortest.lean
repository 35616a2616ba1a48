import Jenkinsfile.Decimal.Binary

/-! The shortest decimal digits of a floating-point number: the fewest that read back as the same
number and, of those, the nearest to it. -/

namespace Jenkinsfile.Decimal

/-- The positive number `0.d₁d₂… * 10 ^ point`, where `d₁d₂…` are the decimal digits of `digits`. -/
structure Digits where
  digits : Nat
  point : Int

/-- The decimal digits of `n`. -/
def digitChars (n : Nat) : List Char := Nat.toDigits 10 n

/-- The exponent `p` with `10 ^ p ≤ num / den < 10 ^ (p + 1)`, for positive `num` and `den`. -/
def leadingPower (num den : Nat) : Int :=
  if den ≤ num then Int.ofNat (digitChars (num / den)).length - 1
  else -Int.ofNat (digitChars ((den - 1) / num)).length

/-- The part of a factor `base ^ e` that belongs to the numerator. -/
def powerUp (base : Nat) (e : Int) : Nat := base.pow e.toNat

/-- The part of a factor `base ^ e` that belongs to the denominator. -/
def powerDown (base : Nat) (e : Int) : Nat := base.pow (-e).toNat

/-- The real numbers that read as one floating-point number, in units of a quarter of its last
place: all between `low` and `high`, and these two as well when `closed` holds. -/
structure Interval where
  low : Nat
  value : Nat
  high : Nat
  closed : Bool

/-- The interval around `b`: half a last place on both sides, but a quarter below a power of two,
where the numbers below lie closer. -/
def Binary.interval (b : Binary) : Interval where
  low := if b.mantissa == Nat.pow 2 52 && b.exponent != -1074 then 4 * b.mantissa - 1
    else 4 * b.mantissa - 2
  value := 4 * b.mantissa
  high := 4 * b.mantissa + 2
  closed := b.mantissa % 2 == 0

/-- Whether the multiple `n` of the step lies in the interval, both measured in a common unit in
which the interval's unit is `unit` and the step is `step`. -/
def Interval.holds (i : Interval) (unit step n : Nat) : Bool :=
  if i.closed then i.low * unit ≤ n * step && n * step ≤ i.high * unit
  else i.low * unit < n * step && n * step < i.high * unit

/-- The multiple of `10 ^ place` in the interval around `b` that is nearest to `b`, if there is one;
of two equally near ones the even one. -/
def nearestAt? (b : Binary) (place : Int) : Option Nat :=
  let i := b.interval
  let unit := powerUp 2 (b.exponent - 2) * powerDown 10 place
  let step := powerUp 10 place * powerDown 2 (b.exponent - 2)
  let value := i.value * unit
  let below := value / step
  let toBelow := value - below * step
  let toAbove := (below + 1) * step - value
  let nearBelow := toBelow < toAbove || (toBelow == toAbove && below % 2 == 0)
  match i.holds unit step below, i.holds unit step (below + 1) with
  | true, true => some (if nearBelow then below else below + 1)
  | true, false => some below
  | false, true => some (below + 1)
  | false, false => none

/-- Tries `count` digits and then one more, up to `tries` times; `top` is the power of ten of the
first digit. -/
def shortestFrom (b : Binary) (top : Int) : (tries count : Nat) → Digits
  | 0, _ => ⟨b.mantissa, 0⟩
  | tries + 1, count =>
    let place := top - Int.ofNat count + 1
    match nearestAt? b place with
    | some n => ⟨n, place + Int.ofNat (digitChars n).length⟩
    | none => shortestFrom b top tries (count + 1)

/-- The shortest digits of a number other than zero; seventeen always suffice. -/
def Binary.shortest (b : Binary) : Digits :=
  let num := b.mantissa * powerUp 2 b.exponent
  let den := powerDown 2 b.exponent
  shortestFrom b (leadingPower num den) 18 1

end Jenkinsfile.Decimal
