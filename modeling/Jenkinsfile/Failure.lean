import Jenkinsfile.Error

/-! Failures.  Beside the errors that passes collect there are faults, which no pass expects: they
end the whole run at once. -/

namespace Jenkinsfile

/-- Why a text cannot be read as data: a character that no text holds, a place where no token can
start, tokens in a wrong order, an alias or anchor that stands for nothing or for two things, a
document after the first, or a scalar or key that gives no value. -/
inductive DataFault where
  | unreadable
  | badToken
  | badStructure
  | badReference
  | secondDocument
  | badValue
  deriving DecidableEq

/-- The wording of a fault of data. -/
def DataFault.message : DataFault → String
  | .unreadable => "the data has a character that is not allowed"
  | .badToken => "the data cannot be read further than to some place in it"
  | .badStructure => "the data is not put together as it should be"
  | .badReference => "the data has an anchor that is missing or not the only one of its name"
  | .secondDocument => "the data has more than one document"
  | .badValue => "the data has a scalar or a key without a value"

/-- What ends a run without being an error of a template, a value or a script. -/
inductive Fault where
  | joinsWithInteger
  | tooManyDigits (count : Nat)
  | noDigits (base : Nat)
  | noDate (reason : String)
  | text (f : TextFault)
  | endlessItems
  | tooManyRepeats
  | flagsClash
  | notAnAction (v : Value)
  | mismatches (ms : List Shape.Mismatch)
  | data (d : DataFault)
  | noFile
  | isDirectory
  | notDirectory
  | fileExists

/-- The wording of a fault. -/
def Fault.message : Fault → String
  | .joinsWithInteger => "'int' object has no attribute 'join'"
  | .tooManyDigits count =>
    "Exceeds the limit (4300 digits) for integer string conversion: value has " ++ toString count ++
      " digits; use sys.set_int_max_str_digits() to increase the limit"
  | .noDigits base => "invalid literal for int() with base " ++ toString base ++ ": ''"
  | .noDate reason => reason
  | .text f => f.message
  | .endlessItems => "maximum recursion depth exceeded"
  | .tooManyRepeats => "the repetition number is too large"
  | .flagsClash => "ASCII and UNICODE flags are incompatible"
  | .notAnAction v =>
    match v.inspect with
    | .ok literal => literal ++ " is not a valid RelationAction"
    | .error f => f.message
  | .mismatches ms => toString ms.length ++ " error(s)"
  | .data d => d.message
  | .noFile => "there is no such file or directory"
  | .isDirectory => "there is a directory where a file should be"
  | .notDirectory => "there is a file where a directory should be"
  | .fileExists => "there already is a file where a directory should be made"

/-- An error, or a fault. -/
inductive Failure where
  | error (e : Error)
  | fault (f : Fault)

namespace Failure

/-- A check that can only fail with an error, among checks that have faults too. -/
def ofError {α : Type} : Except Error α → Except Failure α
  | .ok a => .ok a
  | .error e => .error (.error e)

/-- A check that can only fail with a fault, among checks that have errors too. -/
def ofFault {α : Type} : Except Fault α → Except Failure α
  | .ok a => .ok a
  | .error f => .error (.fault f)

/-- A text for which a value may lack one, among checks that have errors too. -/
def ofText {α : Type} : Except TextFault α → Except Failure α
  | .ok a => .ok a
  | .error f => .error (.fault (.text f))

/-- The error that tells the text of a value; a value without a text is a fault. -/
def telling (text : Except TextFault String) (e : String → Error) : Failure :=
  match text with
  | .ok s => .error (e s)
  | .error f => .fault (.text f)

/-- The errors of those checks that fail, in order; the first fault, if there is one. -/
def collect : List (Except Failure Unit) → Except Fault (List Error)
  | [] => .ok []
  | .ok () :: checks => collect checks
  | .error (.error e) :: checks => (collect checks).map (e :: ·)
  | .error (.fault f) :: _ => .error f

/-- Fails with the errors of the checks as a group, or with their first fault. -/
def raise (checks : List (Except Failure Unit)) : Except Failure Unit :=
  match collect checks with
  | .ok errors => ofError (Error.raise errors)
  | .error f => .error (.fault f)

/-- Whether the failure is, or has in it, an error of the template. -/
def isDefinition : Failure → Bool
  | .error e => e.isDefinition
  | .fault _ => false

end Failure

end Jenkinsfile
