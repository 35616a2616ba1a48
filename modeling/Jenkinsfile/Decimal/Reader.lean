/-! Floating-point numbers read from decimal digits, rounded to the nearest. -/

namespace Jenkinsfile.Decimal

/-- The number nearest to `digits * 10 ^ exponent`, negated when `negative` holds.  A number beyond
the largest is infinite, and one that is too small is zero. -/
def nearest (negative : Bool) (digits : Nat) (exponent : Int) : Float :=
  let top := exponent + Int.ofNat (Nat.toDigits 10 digits).length
  let magnitude :=
    if digits == 0 || top < -400 then 0.0
    else if top > 400 then 1.0 / 0.0
    else Float.ofScientific digits (exponent < 0) exponent.natAbs
  if negative then -magnitude else magnitude

/-- A floating-point number in the decimal form: digits, and perhaps a point with digits after it,
and perhaps a power of ten. -/
def ofParts (negative : Bool) (whole fraction : List Char) (exponent : Int) : Float :=
  let digits := whole ++ fraction
  let value := digits.foldl (fun n c => 10 * n + (c.toNat - '0'.toNat)) 0
  nearest negative value (exponent - Int.ofNat fraction.length)

/-- The most decimal digits that a whole number may have in a text, read or written. -/
def maxDigits : Nat := 4300

end Jenkinsfile.Decimal
