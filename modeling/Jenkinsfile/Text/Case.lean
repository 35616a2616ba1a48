import Jenkinsfile.Text.CaseTable
import Jenkinsfile.Text.Cased

/-! Upper and lower case of texts, with the mappings that take several characters and the two forms
of the small sigma. -/

namespace Jenkinsfile.Text

/-- The upper case of one character, which may take several. -/
def upperChar (c : Char) : List Char :=
  if c.toNat < 128 then [c.toUpper]
  else
    match upperExpansions.lookup c.toNat with
    | some codes => codes.map Char.ofNat
    | none => [Char.ofNat (CaseRun.map upperRuns c.toNat)]

/-- The lower case of one character on its own, as one character. -/
def lowerChar (c : Char) : Char :=
  if c.toNat < 128 then c.toLower
  else if c.toNat == 0x130 then 'i'
  else Char.ofNat (CaseRun.map lowerRuns c.toNat)

/-- Whether the first character of `cs` that is not passed over is a letter with a case. -/
def nextIsCased (cs : List Char) : Bool :=
  match cs.find? fun c => !caseIgnorableSet.contains c with
  | some c => casedSet.contains c
  | none => false

/-- A sigma at the end of a word has a form of its own: a letter with a case comes before it and
none after it.  `before` is what precedes, last character first. -/
def lowerFrom (before : List Char) : List Char → List Char
  | [] => []
  | c :: cs =>
    let lowered :=
      if c.toNat == 0x3a3 then
        [if nextIsCased before && !nextIsCased cs then Char.ofNat 0x3c2 else Char.ofNat 0x3c3]
      else if c.toNat == 0x130 then ['i', Char.ofNat 0x307]
      else [lowerChar c]
    lowered ++ lowerFrom (c :: before) cs

/-- `s` in upper case. -/
def upper (s : String) : String := .ofList (s.toList.flatMap upperChar)

/-- `s` in lower case. -/
def lower (s : String) : String := .ofList (lowerFrom [] s.toList)

end Jenkinsfile.Text
