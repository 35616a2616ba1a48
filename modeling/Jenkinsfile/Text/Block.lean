import Jenkinsfile.Text.Lines

/-! Blocks: texts of several lines that are put on an indented line. -/

namespace Jenkinsfile.Text

/-- A line of a block after the first: indented, or empty if it shows nothing. -/
def indentLine (width : Nat) (line : List Char) : List Char :=
  if line.all isBlank then [] else List.replicate width ' ' ++ line

/-- Lines, each with a line end before it. -/
def continueLines (width : Nat) (lines : List (List Char)) : List Char :=
  lines.flatMap fun line => '\n' :: indentLine width line

/-- A text without the line feeds around it, and with every line but the first indented. -/
def block (width : Nat) (cs : List Char) : List Char :=
  match lines (dropAround (· == '\n') cs) with
  | [] => []
  | first :: rest => first ++ continueLines width rest

end Jenkinsfile.Text
