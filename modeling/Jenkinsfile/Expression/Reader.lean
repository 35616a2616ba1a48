import Jenkinsfile.Decimal.Reader
import Jenkinsfile.Expression.Function
import Jenkinsfile.Text.Digit

/-! Expressions read from their text: a dotted path, and calls after bars.  Texts in quotes may hold
bars, commas and parentheses. -/

namespace Jenkinsfile.Expression

/-- One call of a chain. -/
structure Call where
  function : Function
  args : List Literal

/-- Whether `c` opens a text in quotes. -/
def isQuote (c : Char) : Bool := c = '"' || c = '\''

/-- The parts between the bars outside quotes, none if a quote stays open.  `quote` is the open
quote, `escaped` whether a backslash comes right before, and `part` the part being read, last
character first. -/
def partsFrom (quote : Option Char) (escaped : Bool) (part : List Char) :
    List Char → Option (List (List Char))
  | [] => if quote.isSome then none else some [part.reverse]
  | c :: cs =>
    match quote with
    | some q =>
      if escaped then partsFrom quote false (c :: part) cs
      else if c = '\\' then partsFrom quote true (c :: part) cs
      else if c = q then partsFrom none false (c :: part) cs
      else partsFrom quote false (c :: part) cs
    | none =>
      if isQuote c then partsFrom (some c) false (c :: part) cs
      else if c = '|' then (partsFrom none false [] cs).map (part.reverse :: ·)
      else partsFrom none false (c :: part) cs

/-- The parts of an expression between its bars, none if a quote stays open. -/
def parts? (cs : List Char) : Option (List (List Char)) := partsFrom none false [] cs

/-- Whether `c` may start a name. -/
def isNameStart (c : Char) : Bool := ('A' ≤ c && c ≤ 'Z') || ('a' ≤ c && c ≤ 'z') || c == '_'

/-- Whether `c` may stand in a name after its start. -/
def isNamePart (c : Char) : Bool := isNameStart c || ('0' ≤ c && c ≤ '9') || c == '-'

/-- A segment of a path is a name or a run of decimal digits. -/
def isSegment : List Char → Bool
  | [] => false
  | c :: cs => (isNameStart c && cs.all isNamePart) || (c :: cs).all Text.isDigit

/-- An error about the whole expression. -/
def errorIn {α : Type} (message expr : String) : Except Failure α :=
  .error (.error (.render (message ++ " in expression: " ++ expr)))

/-- The first segment that is none. -/
def badSegment? (segments : List (List Char)) : Option (List Char) :=
  segments.find? fun s => !isSegment s

/-- The segments of a path. -/
def readPath (expr : String) (cs : List Char) : Except Failure (List (List Char)) :=
  let segments := Text.splitOn ['.'] (Text.dropAround Text.isBlank cs)
  match badSegment? segments with
  | some s => errorIn ("invalid name `" ++ .ofList s ++ "`") expr
  | none => .ok segments

/-- The text of a quoted argument up to its closing quote, with what follows it. -/
def closeQuote? (q : Char) : List Char → Option (List Char × List Char)
  | [] => none
  | '\\' :: c :: cs => (closeQuote? q cs).map fun r => ('\\' :: c :: r.1, r.2)
  | c :: cs =>
    if c = q then some ([], cs)
    else if c = '\\' then none
    else (closeQuote? q cs).map fun r => (c :: r.1, r.2)

/-- The character that an escaped one stands for. -/
def escapeValue (c : Char) : Char :=
  if c = 'n' then '\n' else if c = 't' then '\t' else if c = 'r' then '\r' else c

/-- The text that the inside of quotes stands for.  A backslash before a line end is kept. -/
def unescape : List Char → List Char
  | [] => []
  | '\\' :: c :: cs =>
    if c = '\n' then '\\' :: '\n' :: unescape cs else escapeValue c :: unescape cs
  | c :: cs => c :: unescape cs

/-- A whole number with its digits. -/
def readInt (negative : Bool) (digits : List Char) : Except Failure Literal :=
  if digits.length > Decimal.maxDigits then .error (.fault (.tooManyDigits digits.length))
  else
    let n := Int.ofNat (Text.ofDigits digits)
    .ok (.int (if negative then -n else n))

/-- The argument at the start of a text with what follows it, none if no argument stands there. -/
def argument? (cs : List Char) : Option (Except Failure Literal × List Char) :=
  match cs.dropWhile Text.isBlank with
  | [] => none
  | c :: cs =>
    if isQuote c then (closeQuote? c cs).map fun r => (.ok (.text (.ofList (unescape r.1))), r.2)
    else
      let negative := c = '-'
      let number := if negative then cs else c :: cs
      let digits := number.takeWhile Text.isDigit
      if digits.isEmpty then none
      else some (readInt negative digits, number.dropWhile Text.isDigit)

/-- What follows the comma after an argument; nothing follows the last one.  None if neither a comma
nor the end comes next. -/
def afterArgument? (cs : List Char) : Option (List Char) :=
  match cs.dropWhile Text.isBlank with
  | [] => some []
  | ',' :: cs => some cs
  | _ => none

/-- The arguments of a call; `fuel` bounds their number. -/
def readArgumentsFrom (expr : String) : (fuel : Nat) → List Char → Except Failure (List Literal)
  | _, [] => .ok []
  | 0, _ => errorIn "invalid function arguments" expr
  | fuel + 1, cs =>
    match argument? cs with
    | none => errorIn "invalid function arguments" expr
    | some (arg, rest) =>
      match afterArgument? rest with
      | none => errorIn "invalid function arguments" expr
      | some rest => do
        let arg ← arg
        pure (arg :: (← readArgumentsFrom expr fuel rest))

/-- The arguments between the parentheses of a call; a comma may follow the last one. -/
def readArguments (expr : String) (cs : List Char) : Except Failure (List Literal) :=
  let cs := Text.dropAround Text.isBlank cs
  readArgumentsFrom expr cs.length cs

/-- Whether `c` may stand in the name of a function. -/
def isFunctionChar (c : Char) : Bool := 'a' ≤ c && c ≤ 'z'

/-- What stands between the parentheses after a function's name: nothing if there are none. -/
def betweenParens? (cs : List Char) : Option (List Char) :=
  match Text.dropAround Text.isBlank cs with
  | [] => some []
  | '(' :: cs =>
    match cs.reverse with
    | ')' :: inside => some inside.reverse
    | _ => none
  | _ => none

/-- The name of a call's function, and what stands between the parentheses after it. -/
def callParts? (cs : List Char) : Option (List Char × List Char) :=
  let cs := cs.dropWhile Text.isBlank
  let name := cs.takeWhile isFunctionChar
  if name.isEmpty then none
  else (betweenParens? (cs.dropWhile isFunctionChar)).map (name, ·)

/-- The call that stands in one part of an expression. -/
def readCall (expr : String) (cs : List Char) : Except Failure Call :=
  match callParts? cs with
  | none =>
    errorIn ("invalid function call `" ++ .ofList (Text.dropAround Text.isBlank cs) ++ "`") expr
  | some (name, inside) =>
    match Function.ofName? (.ofList name) with
    | none => errorIn ("unknown function `" ++ .ofList name ++ "`") expr
    | some f => (readArguments expr inside).map (Call.mk f)

end Jenkinsfile.Expression
