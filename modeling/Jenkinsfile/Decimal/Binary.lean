/-! Floating-point numbers taken apart: a finite one is a whole number times a power of two. -/

namespace Jenkinsfile.Decimal

/-- The number `mantissa * 2 ^ exponent`, negated when `negative` holds. -/
structure Binary where
  negative : Bool
  mantissa : Nat
  exponent : Int

/-- What a 64-bit floating-point number stands for. -/
inductive Reading where
  | nan
  | infinite (negative : Bool)
  | finite (b : Binary)

/-- The reading of 64 bits: one for the sign, eleven for the exponent and 52 for the mantissa, whose
leading one is left out except at the least exponent. -/
def Reading.ofBits (bits : Nat) : Reading :=
  let negative := bits / Nat.pow 2 63 % 2 == 1
  let biased := bits / Nat.pow 2 52 % Nat.pow 2 11
  let fraction := bits % Nat.pow 2 52
  if biased == 2047 then
    if fraction == 0 then .infinite negative else .nan
  else if biased == 0 then .finite ⟨negative, fraction, -1074⟩
  else .finite ⟨negative, fraction + Nat.pow 2 52, Int.ofNat biased - 1075⟩

/-- The reading of a number. -/
def Reading.of (x : Float) : Reading := .ofBits x.toBits.toNat

/-- The whole number that `b` equals, if it is one. -/
def Binary.toInt? (b : Binary) : Option Int :=
  let signed (n : Nat) : Int := if b.negative then -Int.ofNat n else Int.ofNat n
  match b.exponent with
  | .ofNat e => some (signed (b.mantissa * Nat.pow 2 e))
  | .negSucc e =>
    let unit := Nat.pow 2 (e + 1)
    if b.mantissa % unit == 0 then some (signed (b.mantissa / unit)) else none

/-- The whole number that `x` equals, if it is one. -/
def wholeNumber? (x : Float) : Option Int :=
  match Reading.of x with
  | .finite b => b.toInt?
  | _ => none

end Jenkinsfile.Decimal
