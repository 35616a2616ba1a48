import Jenkinsfile.Argument.Check

/-! The normal form of a supplied value: the form in which it reaches scripts. -/

namespace Jenkinsfile.Argument

/-- The normal form of a value of a kind; null stands for the declared default. -/
def normalOfKind (a : Argument) (k : ArgumentKind) (v : Value) : Except Failure Value :=
  match k, v with
  | .string, .null => .ok (a.default.orElse (.str ""))
  | .string, v => do pure (.str (Text.strip (← Failure.ofText v.text)))
  | .boolean, .null => .ok (a.default.orElse (.bool false))
  | .boolean, v =>
    match boolOf? v with
    | some b => .ok (.bool b)
    | none => .ok v
  | .int, v => .ok (v.orElse (a.default.orElse (.int 0)))
  | .object, v => .ok (v.orElse (a.default.orElse (.map [])))
  | .array, v => .ok (v.orElse a.default)
  | .record _, .null | .environment, .null => .ok a.default
  | .record _, v | .environment, v => a.decode v

/-- The normal form of a supplied value. -/
def normal (reg : Registry) (a : Argument) (v : Value) : Except Failure Value := do
  a.normalOfKind (← Failure.ofError (a.kind reg)) v

end Jenkinsfile.Argument
