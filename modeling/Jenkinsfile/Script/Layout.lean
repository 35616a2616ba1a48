import Jenkinsfile.Script.Token

/-! The layout of script text by brace depth.  Every line is indented by the depth at its start, a
brace that opens a block ends its line, one that closes a block starts its own, and lines without
text are dropped. -/

namespace Jenkinsfile.Script

/-- The blanks before a line at this depth; none below depth zero. -/
def indent (width : Nat) (depth : Int) : List Char :=
  List.replicate (depth.toNat * width) ' '

/-- A line end and the blanks of the next line. -/
def lineBreak (width : Nat) (depth : Int) : List Char := '\n' :: indent width depth

/-- The two characters that are dropped where a line starts and ends. -/
def isMargin (c : Char) : Bool := c == ' ' || c == '\t'

/-- Whether a line ends before a token of this kind without further ado: a line end, or a brace that
starts its own line. -/
def TokenKind.endsLine (k : TokenKind) : Bool := k = .lineEnd || k = .rightBrace

/-- Where the layout stands: the depth, whether a line has just been started, and whether anything
has been written. -/
structure Place where
  depth : Int
  atLineStart : Bool
  started : Bool

/-- What to write for one token, and where the layout then stands; `next` is the kind of the token
that follows. -/
def layToken (width : Nat) (p : Place) (t : Token) (next : Option TokenKind) :
    List Char × Place :=
  match t.kind with
  | .leftBrace =>
    let depth := p.depth + 1
    match next with
    | none => (t.text ++ ['\n'], ⟨depth, false, true⟩)
    | some k =>
      if k.endsLine then (t.text, ⟨depth, false, true⟩)
      else (t.text ++ lineBreak width depth, ⟨depth, true, true⟩)
  | .rightBrace =>
    let depth := p.depth - 1
    let brace := (if p.started then ['\n'] else []) ++ indent width depth ++ t.text
    match next with
    | none => (brace ++ ['\n'], ⟨depth, false, true⟩)
    | some k =>
      if k.joinsOther then (brace ++ lineBreak width depth, ⟨depth, true, true⟩)
      else (brace, ⟨depth, false, true⟩)
  | .lineEnd =>
    if !p.started then ([], p)
    else
      match next with
      | none => (['\n'], p)
      | some k =>
        if k.endsLine then ([], p) else (lineBreak width p.depth, ⟨p.depth, true, true⟩)
  | .literal _ _ | .other =>
    let text := if p.atLineStart then t.text.dropWhile isMargin else t.text
    let text := if next.all TokenKind.endsLine then Text.dropEnd isMargin text else text
    let gap := next = some .leftBrace && !(text.getLast?.any Text.isBlank)
    (if gap then text ++ [' '] else text, ⟨p.depth, false, true⟩)

/-- The text of the tokens, and the depth after them. -/
def layFrom (width : Nat) (p : Place) : List Token → List Char × Int
  | [] => ([], p.depth)
  | t :: ts =>
    let (text, p) := layToken width p t (ts.head?.map Token.kind)
    let (rest, depth) := layFrom width p ts
    (text ++ rest, depth)

/-- The tokens that the layout is made of: those that show something. -/
def shownTokens (cs : List Char) : List Token := (tokens cs).filter (!·.isBlank)

/-- A text laid out, and the depth at its end: zero if its braces are balanced. -/
def lay (width : Nat) (cs : List Char) : List Char × Int :=
  layFrom width ⟨0, true, false⟩ (shownTokens cs)

/-- A text laid out, with `width` blanks for each level of depth. -/
def format (width : Nat) (s : String) : String := .ofList (lay width s.toList).1

end Jenkinsfile.Script
