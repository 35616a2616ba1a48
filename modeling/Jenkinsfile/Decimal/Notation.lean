import Jenkinsfile.Decimal.Shortest

/-! How numbers are written: where the positional form ends and the scientific one begins, and the
spelling of the numbers that have no digits. -/

namespace Jenkinsfile.Decimal

/-- A way to write floating-point numbers.  A number whose point stands from `leastPoint` to
`greatestPoint` digits right of its first digit is written positionally, any other one with an
exponent of at least two digits and a sign. -/
structure Spelling where
  leastPoint : Int
  greatestPoint : Int
  nan : String
  infinity : String

/-- The spelling in scripts and messages: `0.0001` and `1e+16` are the first and the last of their
kind. -/
def plainSpelling : Spelling := ⟨-3, 16, "nan", "inf"⟩

/-- The spelling in JSON texts, which differs in the numbers without digits only. -/
def jsonSpelling : Spelling := ⟨-3, 16, "NaN", "Infinity"⟩

/-- `cs` without the zeros at its end. -/
def dropZeros (cs : List Char) : List Char := (cs.reverse.dropWhile (· == '0')).reverse

/-- Digits with a point among them or beside them; a whole number keeps one zero after its point. -/
def positional (digits : List Char) (point : Int) : List Char :=
  match point with
  | .ofNat p =>
    if p == 0 then '0' :: '.' :: digits
    else
      let whole := digits.take p ++ List.replicate (p - digits.length) '0'
      let fraction := digits.drop p
      whole ++ '.' :: (if fraction.isEmpty then ['0'] else fraction)
  | .negSucc p => '0' :: '.' :: List.replicate (p + 1) '0' ++ digits

/-- Digits with an exponent; a point follows the first digit when there are more. -/
def scientific (digits : List Char) (point : Int) : List Char :=
  let exponent := point - 1
  let size := digitChars exponent.natAbs
  let mantissa := match digits with
    | [] => []
    | d :: [] => [d]
    | d :: ds => d :: '.' :: ds
  mantissa ++ 'e' :: (if exponent < 0 then '-' else '+') ::
    (if size.length < 2 then '0' :: size else size)

/-- The text of the size of a finite number. -/
def Spelling.size (s : Spelling) (b : Binary) : List Char :=
  if b.mantissa == 0 then ['0', '.', '0']
  else
    let d := b.shortest
    let digits := dropZeros (digitChars d.digits)
    if s.leastPoint ≤ d.point && d.point ≤ s.greatestPoint then positional digits d.point
    else scientific digits d.point

/-- The text of a number; the sign of zero shows. -/
def Spelling.write (s : Spelling) (x : Float) : String :=
  match Reading.of x with
  | .nan => s.nan
  | .infinite negative => if negative then "-" ++ s.infinity else s.infinity
  | .finite b => .ofList (if b.negative then '-' :: s.size b else s.size b)

end Jenkinsfile.Decimal
