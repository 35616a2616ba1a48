import Jenkinsfile.Shape.Mismatch

/-! Errors of a pass over templates and values.  A pass reports all of its errors together as a
group, which may hold further groups; `leaves` reads an error as the reports in it, in order. -/

namespace Jenkinsfile

/-- What an error is about: the template itself, a supplied value, the rendering of a script, or
none of these. -/
inductive ErrorKind where
  | definition
  | value
  | render
  | general
  deriving DecidableEq

namespace ErrorKind

/-- The name of a kind in messages. -/
def label : ErrorKind → String
  | .definition => "TemplateDefinitionError"
  | .value => "ValidateError"
  | .render => "TemplateRenderError"
  | .general => "PipegenError"

/-- The message of an error that gives none. -/
def defaultMessage : ErrorKind → String
  | .definition => "template format error"
  | .value => "validate error"
  | .render => "template render error"
  | .general => "pipegen error"

/-- Whether errors of kind `other` count as errors of this kind: all are general ones. -/
def covers (kind other : ErrorKind) : Bool := kind == .general || kind == other

end ErrorKind

/-- What an error tells beside its message. -/
inductive Detail where
  | value (v : Value)
  | mismatches (ms : List Shape.Mismatch)

/-- The literal of a detail. -/
def Detail.inspect : Detail → Except TextFault String
  | .value v => v.inspect
  | .mismatches ms => do pure ("[" ++ ", ".intercalate (← Shape.inspectAll ms) ++ "]")

/-- The literals of details under their names. -/
def inspectDetails : Table Detail → Except TextFault (List String)
  | [] => .ok []
  | (name, d) :: data => do
    let literal ← d.inspect
    pure ((Text.quoted name ++ ": " ++ literal) :: (← inspectDetails data))

/-- One error. -/
structure Report where
  kind : ErrorKind
  message : String
  data : Table Detail

/-- The text of a report: its kind, its message and its data if there is any. -/
def Report.text (r : Report) : Except TextFault String :=
  let head := r.kind.label ++ ": " ++ r.message
  if r.data.isEmpty then .ok head
  else do pure (head ++ ", data=\x7b" ++ ", ".intercalate (← inspectDetails r.data) ++ "\x7d")

/-- An error, or several collected in one pass. -/
inductive Error where
  | report (r : Report)
  | group (errors : List Error) (data : Table Detail)

namespace Error

/-- The error with this kind, message and data; an empty message gives way to the kind's own. -/
def of (kind : ErrorKind) (message : String) (data : Table Detail) : Error :=
  .report ⟨kind, if message.isEmpty then kind.defaultMessage else message, data⟩

/-- An error of the template. -/
def definition (message : String) (data : Table Detail := []) : Error :=
  .report ⟨.definition, message, data⟩

/-- An error of a supplied value. -/
def value (message : String) (data : Table Detail := []) : Error := .report ⟨.value, message, data⟩

/-- An error in rendering. -/
def render (message : String) (data : Table Detail := []) : Error :=
  .report ⟨.render, message, data⟩

mutual

/-- The reports in an error, in order. -/
def leaves : Error → List Report
  | .report r => [r]
  | .group errors _ => leavesOf errors

/-- The reports in several errors, in order. -/
def leavesOf : List Error → List Report
  | [] => []
  | e :: errors => e.leaves ++ leavesOf errors

end

mutual

/-- The text of an error; a group lists the texts of its members. -/
def text : Error → Except TextFault String
  | .report r => r.text
  | .group errors _ => do pure ("multiple errors:\n" ++ "\n".intercalate (← textsOf errors))

/-- The lines of a group's members. -/
def textsOf : List Error → Except TextFault (List String)
  | [] => .ok []
  | e :: errors => do
    let text ← e.text
    pure (("  - " ++ text) :: (← textsOf errors))

end

/-- Whether the error is, or has in it, a report of this kind. -/
def contains (e : Error) (kind : ErrorKind) : Bool := e.leaves.any fun r => kind.covers r.kind

/-- Whether the error is, or has in it, an error of the template. -/
def isDefinition (e : Error) : Bool := e.contains .definition

/-- Whether the error is, or has in it, an error of a supplied value. -/
def isValue (e : Error) : Bool := e.contains .value

/-- Whether the error is, or has in it, an error in rendering. -/
def isRender (e : Error) : Bool := e.contains .render

/-- The error with a further detail, unless it has one of that name. -/
def noting (e : Error) (name : String) (v : Value) : Error :=
  match e with
  | .report r => .report { r with data := r.data.insertNew name (.value v) }
  | .group errors data => .group errors (data.insertNew name (.value v))

/-- The errors as a group, if there are any. -/
def raise (errors : List Error) : Except Error Unit :=
  if errors.isEmpty then .ok () else .error (.group errors [])

/-- The errors of those checks that fail, in order. -/
def collect : List (Except Error Unit) → List Error
  | [] => []
  | .ok () :: checks => collect checks
  | .error e :: checks => e :: collect checks

end Error

end Jenkinsfile
