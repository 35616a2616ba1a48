/-! Blank characters, and the operations on texts that look at nothing else: stripping and splitting
into words.  Each operation is stated on a list of characters first and then on a string. -/

namespace Jenkinsfile.Text

/-- The white space of Unicode, with the four separators from `\x1c` to `\x1f`; a zero width space
and a byte order mark are not blank. -/
def isBlank (c : Char) : Bool :=
  let n := c.toNat
  (9 ≤ n && n ≤ 13) || (0x1c ≤ n && n ≤ 0x20) || n == 0x85 || n == 0xa0 || n == 0x1680 ||
    (0x2000 ≤ n && n ≤ 0x200a) || n == 0x2028 || n == 0x2029 || n == 0x202f || n == 0x205f ||
    n == 0x3000

/-- `cs` without the characters at its end that satisfy `p`. -/
def dropEnd (p : Char → Bool) (cs : List Char) : List Char :=
  (cs.reverse.dropWhile p).reverse

/-- `cs` without the characters at either end that satisfy `p`. -/
def dropAround (p : Char → Bool) (cs : List Char) : List Char :=
  dropEnd p (cs.dropWhile p)

/-- `s` without the blank characters at either end. -/
def strip (s : String) : String := .ofList (dropAround isBlank s.toList)

/-- Whether every character of `s` is blank. -/
def isAllBlank (s : String) : Bool := s.toList.all isBlank

/-- The words of `cs`: its longest stretches without a blank character.  `word` holds the characters
of the word being read, last first. -/
def wordsFrom (word : List Char) : List Char → List (List Char)
  | [] => if word.isEmpty then [] else [word.reverse]
  | c :: cs =>
    if isBlank c then
      if word.isEmpty then wordsFrom [] cs else word.reverse :: wordsFrom [] cs
    else wordsFrom (c :: word) cs

/-- The words of `s`, without the blanks between them. -/
def words (s : String) : List String := (wordsFrom [] s.toList).map .ofList

end Jenkinsfile.Text
