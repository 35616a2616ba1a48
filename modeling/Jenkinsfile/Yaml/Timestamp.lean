import Jenkinsfile.Failure
import Jenkinsfile.Text.Digit

/-! Dates and times in plain scalars: a date in digits, with a time of the day after it or without,
which may be told from an offset. -/

namespace Jenkinsfile.Yaml

/-- Whether `c` is one of the ten digits. -/
def isDecimal (c : Char) : Bool := '0' ≤ c && c ≤ '9'

/-- A date, and a time of the day with the digits of its fraction. -/
structure Timestamp where
  year : Nat
  month : Nat
  day : Nat
  time : Option (Nat × Nat × Nat × List Char)
  offset : Option Int

namespace Timestamp

/-- A reader of a part of a timestamp. -/
abbrev PartReader := StateT (List Char) Option

/-- Reads a number of as many digits as there are, but `most` at most and `least` at least. -/
def number (least most : Nat) : PartReader Nat := do
  let cs ← get
  let digits := (cs.take most).takeWhile isDecimal
  if digits.length < least then failure
  set (cs.drop digits.length)
  return Text.ofDigits digits

/-- Reads one of some characters. -/
def mark (marks : List Char) : PartReader Char := do
  match ← get with
  | c :: cs => if marks.contains c then set cs; return c else failure
  | [] => failure

/-- Reads the longest part whose characters all satisfy `p`. -/
def longest (p : Char → Bool) : PartReader (List Char) := do
  let (part, rest) := (← get).span p
  set rest
  return part

/-- Whether nothing is left to read. -/
def atEnd : PartReader Bool := return (← get).isEmpty

/-- Reads how far a time is from that of Greenwich, in minutes. -/
def offsetPart : PartReader Int := do
  let _ ← longest fun c => c == ' ' || c == '\t'
  match ← mark ['Z', '+', '-'] with
  | 'Z' => return 0
  | sign =>
    let hours ← number 1 2
    let minutes ← if ← atEnd then pure 0 else do
      let _ ← mark [':']
      number 2 2
    let size := Int.ofNat (60 * hours + minutes)
    return if sign == '-' then -size else size

/-- Reads a timestamp.  Months, days and hours of one digit are read in front of a time only. -/
def part : PartReader Timestamp := do
  let year ← number 4 4
  let _ ← mark ['-']
  let start := (← get).length
  let month ← number 1 2
  let _ ← mark ['-']
  let day ← number 1 2
  if ← atEnd then
    if start = 5 then return ⟨year, month, day, none, none⟩ else failure
  else
    let separator ← mark ['T', 't', ' ', '\t']
    if separator == ' ' || separator == '\t' then
      let _ ← longest fun c => c == ' ' || c == '\t'
    let hour ← number 1 2
    let _ ← mark [':']
    let minute ← number 2 2
    let _ ← mark [':']
    let second ← number 2 2
    let fraction ← match (← get).head? with
      | some '.' => do
        let _ ← mark ['.']
        longest isDecimal
      | _ => pure []
    let offset ← if ← atEnd then pure none else some <$> offsetPart
    return ⟨year, month, day, some (hour, minute, second, fraction), offset⟩

/-- The timestamp that has the form of `cs`. -/
def ofText? (cs : List Char) : Option Timestamp :=
  match part.run cs with
  | some (t, []) => some t
  | _ => none

/-- The days of a month. -/
def daysOf (year month : Nat) : Nat :=
  if month = 2 then
    if year % 4 = 0 && (year % 100 != 0 || year % 400 = 0) then 29 else 28
  else if [4, 6, 9, 11].contains month then 30
  else 31

/-- What is wrong with a timestamp. -/
def problem? (t : Timestamp) : Option String :=
  let date :=
    if t.year = 0 then some "year 0 is out of range"
    else if t.month = 0 || 12 < t.month then some "month must be in 1..12"
    else if t.day = 0 || daysOf t.year t.month < t.day then some "day is out of range for month"
    else none
  let time := t.time.bind fun (hour, minute, second, _) =>
    if 23 < hour then some "hour must be in 0..23"
    else if 59 < minute then some "minute must be in 0..59"
    else if 59 < second then some "second must be in 0..59"
    else none
  if t.offset.any fun n => 24 * 60 ≤ n.natAbs then
    some "offset must be a timedelta strictly between -timedelta(hours=24) and timedelta(hours=24)"
  else date.or time

/-- A number in at least `width` digits. -/
def padded (width n : Nat) : String :=
  let digits := Nat.toDigits 10 n
  .ofList (List.replicate (width - digits.length) '0' ++ digits)

/-- The text of an offset. -/
def offsetText (n : Int) : String :=
  (if n < 0 then "-" else "+") ++ padded 2 (n.natAbs / 60) ++ ":" ++ padded 2 (n.natAbs % 60)

/-- The literal of an offset. -/
def offsetLiteral (n : Int) : String :=
  if n = 0 then "datetime.timezone.utc"
  else if 0 < n then
    "datetime.timezone(datetime.timedelta(seconds=" ++ toString (60 * n) ++ "))"
  else
    "datetime.timezone(datetime.timedelta(days=-1, seconds=" ++ toString (86400 + 60 * n) ++ "))"

/-- The value of a timestamp. -/
def value (t : Timestamp) : Value :=
  let date := padded 4 t.year ++ "-" ++ padded 2 t.month ++ "-" ++ padded 2 t.day
  let parts := [t.year, t.month, t.day]
  let literal (name : String) (parts : List Nat) (more : List String) : String :=
    "datetime." ++ name ++ "(" ++ ", ".intercalate (parts.map toString ++ more) ++ ")"
  match t.time with
  | none => .other ⟨"date", date, literal "date" parts [], true⟩
  | some (hour, minute, second, fraction) =>
    let micros := Text.ofDigits ((fraction ++ List.replicate 6 '0').take 6)
    let small := if micros != 0 then [second, micros] else if second != 0 then [second] else []
    let text := date ++ " " ++ padded 2 hour ++ ":" ++ padded 2 minute ++ ":" ++ padded 2 second ++
      (if micros = 0 then "" else "." ++ padded 6 micros) ++ (t.offset.map offsetText).getD ""
    .other ⟨"datetime", text, literal "datetime" (parts ++ [hour, minute] ++ small)
      (t.offset.map fun n => "tzinfo=" ++ offsetLiteral n).toList, true⟩

end Timestamp

/-- The value of a text that has the form of a timestamp, if it is one. -/
def timestamp? (cs : List Char) : Option (Except Fault Value) :=
  (Timestamp.ofText? cs).map fun t =>
    match t.problem? with
    | some reason => .error (.noDate reason)
    | none => .ok t.value

end Jenkinsfile.Yaml
