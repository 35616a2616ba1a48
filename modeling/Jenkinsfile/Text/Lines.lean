import Jenkinsfile.Text.Blank

/-! Lines of a text.  A line ends at any of the line boundaries of Unicode, and a carriage return
followed by a line feed is one boundary. -/

namespace Jenkinsfile.Text

/-- The characters that end a line. -/
def isLineBreak (c : Char) : Bool :=
  let n := c.toNat
  (10 ≤ n && n ≤ 13) || (0x1c ≤ n && n ≤ 0x1e) || n == 0x85 || n == 0x2028 || n == 0x2029

/-- The lines of `cs` without their ends.  `line` holds the characters of the line being read, last
first, and an empty last line is left out. -/
def linesFrom (line : List Char) : List Char → List (List Char)
  | [] => if line.isEmpty then [] else [line.reverse]
  | '\r' :: '\n' :: cs => line.reverse :: linesFrom [] cs
  | c :: cs => if isLineBreak c then line.reverse :: linesFrom [] cs else linesFrom (c :: line) cs

/-- The lines of a text without their ends; a final line end opens no further line. -/
def lines (cs : List Char) : List (List Char) := linesFrom [] cs

/-- Every carriage return, and every carriage return with the line feed after it, becomes one line
feed. -/
def unixLines : List Char → List Char
  | [] => []
  | '\r' :: '\n' :: cs => '\n' :: unixLines cs
  | c :: cs => (if c = '\r' then '\n' else c) :: unixLines cs

end Jenkinsfile.Text
