import Jenkinsfile.Expression.Reader

/-! The value of an expression: the value at its path, passed through its calls from left to right.
A path that leads nowhere may still be saved by a fallback as the next call. -/

namespace Jenkinsfile.Expression

/-- The value one segment further; a run of digits is also a position in a list. -/
def step (v : Value) (segment : List Char) : Except Fault (Option Value) :=
  match v with
  | .map entries => .ok (Table.get? entries (.ofList segment))
  | .list items =>
    if segment.all Text.isDigit then
      if segment.length > Decimal.maxDigits then .error (.tooManyDigits segment.length)
      else .ok items[Text.ofDigits segment]?
    else .ok none
  | _ => .ok none

/-- The value at the end of a path, nothing if it leads nowhere. -/
def follow (v : Value) : List (List Char) → Except Fault (Option Value)
  | [] => .ok (some v)
  | segment :: segments => do
    match ← step v segment with
    | some v => follow v segments
    | none => pure none

/-- The value of one call; a misuse names the function and the expression. -/
def Call.run (expr : String) (c : Call) (v : Option Value) : Except Failure Value :=
  let result := match v with
    | some v => c.function.apply v c.args
    | none => Function.applyFallback none c.args
  match result with
  | .ok v => .ok v
  | .error (.misuse message) =>
    .error (.error (.render
      (c.function.name ++ "() failed in expression `" ++ expr ++ "`: " ++ message)))
  | .error (.unanswered message) => .error (.error (.render message))
  | .error (.fault f) => .error (.fault f)

/-- Passes a value through calls.  Without a value the first call that is no fallback ends the
chain, and what comes after it is not read. -/
def runCalls (expr : String) : Option Value → List (Except Failure Call) →
    Except Failure (Option Value)
  | v, [] => .ok v
  | v, call :: calls => do
    let c ← call
    if v.isNone && c.function != .fallback then pure none
    else
      let v ← c.run expr v
      runCalls expr (some v) calls

/-- The value of an expression among named values. -/
def evaluate (expr : String) (context : Table Value) : Except Failure Value :=
  match parts? expr.toList with
  | none => .error (.error (.render ("unterminated string in expression: " ++ expr)))
  | some [] => .ok .null
  | some (path :: calls) => do
    let segments ← readPath expr path
    let v ← Failure.ofFault (follow (.map context) segments)
    match ← runCalls expr v (calls.map (readCall expr)) with
    | some v => pure v
    | none =>
      .error (.error (.render
        ("undefined variable in template: " ++ .ofList (Text.dropAround Text.isBlank path))
        [("expression", .value (.str expr))]))

end Jenkinsfile.Expression
