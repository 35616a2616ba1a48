import Jenkinsfile.Json.Reader
import Jenkinsfile.Pattern.Basic
import Jenkinsfile.Text.Identifier
import Jenkinsfile.Text.Quoted

/-! Patterns read from their text.  An error tells the position at which the text goes wrong. -/

namespace Jenkinsfile.Pattern

/-- The characters that have names: patterns can call a character by its name, and which names there
are is a matter of the Unicode version. -/
class CharacterNames where
  named? : String → Option Char

/-- No character has a name. -/
@[reducible] def CharacterNames.unnamed : CharacterNames := ⟨fun _ => none⟩

/-- Why a text is no pattern, and where, if that is one place. -/
structure ReadError where
  message : String
  position : Option Nat

/-- What stops the reading of a pattern: an error in it, a count beyond all bounds or with more
digits than a number may have, or flags that exclude each other. -/
inductive Stop where
  | error (e : ReadError)
  | countTooLarge
  | tooManyDigits (count : Nat)
  | flagsClash

/-- The wording of an error in the pattern `pattern`; in one of several lines the line and the
column are told too. -/
def ReadError.text (pattern : String) (e : ReadError) : String :=
  match e.position with
  | none => e.message
  | some position =>
    let before := pattern.toList.take position
    let head := e.message ++ " at position " ++ toString position
    if pattern.toList.contains '\n' then
      let line := before.count '\n' + 1
      let column := (before.reverse.takeWhile (· != '\n')).length + 1
      head ++ " (line " ++ toString line ++ ", column " ++ toString column ++ ")"
    else head

/-- Where the reading stands: the position and the text from there on; the number of groups opened,
the widths of those that are closed, and their names; the number of groups before the look behind in
which the reading is; the groups that conditions have asked for, and where; the flags in force, and
whether the pattern asks for all scripts or to be a template. -/
structure State where
  position : Nat
  rest : List Char
  groups : Nat
  widths : List (Nat × Width)
  names : List (String × Nat)
  groupsBefore : Option Nat
  awaited : List (Nat × Nat)
  flags : Flags
  unicode : Bool
  template : Bool

/-- A step of reading. -/
abbrev Reader (α : Type) := State → Except Stop (α × State)

/-- The counts from which on a repetition is refused. -/
def countLimit : Nat := 4294967295

/-- The numbers from which on no group can be asked for. -/
def groupLimit : Nat := 1073741823

/-- The widths beyond which no look behind reaches. -/
def behindLimit : Nat := 4294967295

/-- Stops with an error at a position. -/
def stopAt {α : Type} (message : String) (position : Nat) : Except Stop α :=
  .error (.error ⟨message, some position⟩)

namespace State

/-- The state after the next `n` characters, of which the last is not the start of an escape.  A
backslash with nothing after it stops the reading as soon as it comes next. -/
def drop (s : State) (n : Nat) : Except Stop State :=
  let rest := s.rest.drop n
  if rest == ['\\'] then
    stopAt "bad escape (end of pattern)" (s.position + n)
  else .ok { s with position := s.position + n, rest := rest }

/-- What comes next as one: an escape, a single character, or nothing. -/
def token (s : State) : List Char :=
  match s.rest with
  | '\\' :: c :: _ => ['\\', c]
  | c :: _ => [c]
  | [] => []

/-- What comes next as one, and the state after it. -/
def take (s : State) : Except Stop (List Char × State) :=
  (s.drop s.token.length).map (s.token, ·)

/-- Whether the character comes next. -/
def comes (s : State) (c : Char) : Bool := s.rest.head? == some c

/-- The width of a group that is closed. -/
def closed? (s : State) (number : Nat) : Option Width := s.widths.lookup number

/-- The number of the group of a name. -/
def named? (s : State) (name : List Char) : Option Nat := s.names.lookup (.ofList name)

end State

/-! ### Characters -/

/-- The letters of the named classes, each with its class and whether it is negated. -/
def classOf? : Char → Option (CharClass × Bool)
  | 'd' => some (.digit, false)
  | 'D' => some (.digit, true)
  | 's' => some (.blank, false)
  | 'S' => some (.blank, true)
  | 'w' => some (.word, false)
  | 'W' => some (.word, true)
  | _ => none

/-- The letters of the anchors. -/
def anchorOf? : Char → Option Anchor
  | 'A' => some .start
  | 'Z' => some .finish
  | 'b' => some .boundary
  | 'B' => some .inside
  | _ => none

/-- The letters of control characters. -/
def controlOf? : Char → Option Char
  | 'a' => some '\x07'
  | 'f' => some '\x0c'
  | 'n' => some '\n'
  | 'r' => some '\r'
  | 't' => some '\t'
  | 'v' => some '\x0b'
  | '\\' => some '\\'
  | _ => none

/-- Whether `c` is a digit from zero to seven. -/
def isOctal (c : Char) : Bool := '0' ≤ c && c ≤ '7'

/-- Whether `c` is one of the ten digits. -/
def isDecimal (c : Char) : Bool := '0' ≤ c && c ≤ '9'

/-- Whether `c` is one of the characters that a verbose pattern passes over. -/
def isSkipped (c : Char) : Bool := c == ' ' || ('\t' ≤ c && c ≤ '\r')

/-- The number that digits write in a base. -/
def numberOf (base : Nat) (digits : List Char) : Nat :=
  digits.foldl (fun n c => base * n + (Json.hexValue? c).getD 0) 0

/-- The number of hexadecimal digits that an escape letter asks for. -/
def hexWidth? : Char → Option Nat
  | 'x' => some 2
  | 'u' => some 4
  | 'U' => some 8
  | _ => none

/-! ### Names -/

/-- The text up to the character `last` and the state after that; `what` is what the text is. -/
def readUntil (last : Char) (what : String) (start : Nat) :
    (fuel : Nat) → (taken : List Char) → Reader (List Char)
  | 0, taken, s => .ok (taken, s)
  | fuel + 1, taken, s => do
    let (token, s') ← s.take
    if token.isEmpty then
      if taken.isEmpty then stopAt ("missing " ++ what) s.position
      else stopAt ("missing " ++ .singleton last ++ ", unterminated name") start
    else if token == [last] then
      if taken.isEmpty then stopAt ("missing " ++ what) s.position else pure (taken, s')
    else readUntil last what start fuel (taken ++ token) s'

/-- Reads the name of a group up to `last`. -/
def readName (last : Char) : Reader (List Char) := fun s =>
  readUntil last "group name" s.position (s.rest.length + 1) [] s

/-- Refuses the name of a group that starts at a position. -/
def badName {α : Type} (name : List Char) (position : Nat) : Except Stop α :=
  stopAt ("bad character in group name " ++ Text.quoted (.ofList name)) position

/-- Digits with single underscores between them, as digits only. -/
def plainDigits? : List Char → Option (List Char)
  | [] => none
  | [c] => if Text.isDigit c then some [c] else none
  | c :: '_' :: cs => if Text.isDigit c then (plainDigits? cs).map (c :: ·) else none
  | c :: cs => if Text.isDigit c then (plainDigits? cs).map (c :: ·) else none

/-- The number of a group, as whole numbers are read from texts. -/
def groupNumber? (name : List Char) : Option Nat :=
  let (negative, digits) := match Text.dropAround Text.isBlank name with
    | '-' :: cs => (true, cs)
    | '+' :: cs => (false, cs)
    | cs => (false, cs)
  match plainDigits? digits with
  | some digits =>
    let n := Text.ofDigits digits
    if digits.length > Decimal.maxDigits || (negative && n != 0) then none else some n
  | none => none

/-- A group that is referred to inside of a look behind is closed, and has been opened before it. -/
def checkBehind (number : Nat) (s : State) : Except Stop Unit :=
  match s.groupsBefore with
  | none => .ok ()
  | some before =>
    if (s.closed? number).isNone then stopAt "cannot refer to an open group" s.position
    else if number > before then
      stopAt "cannot refer to group defined in the same lookbehind subpattern" s.position
    else .ok ()

/-! ### Escapes -/

/-- Reads a name of a character in braces, after the letter of an escape that starts at
`position`. -/
def readCharacterName [CharacterNames] (position : Nat) : Reader Nat := fun s =>
  if !s.comes '\x7b' then stopAt "missing \x7b" s.position
  else do
    let s ← s.drop 1
    let (name, s) ←
      readUntil '\x7d' "character name" s.position (s.rest.length + 1) [] s
    match CharacterNames.named? (.ofList name) with
    | some c => pure (c.toNat, s)
    | none => stopAt ("undefined character name " ++ Text.quoted (.ofList name)) position

/-- The code point of an escape by its number or by its name, or nothing if the letter starts no such
escape.  `s` is the state after the letter `c`, and the escape starts at `position`. -/
def numbered? [CharacterNames] (c : Char) (position : Nat) (s : State) :
    Option (Except Stop (Nat × State)) :=
  match hexWidth? c with
  | some width =>
    let digits := (s.rest.take width).takeWhile fun d => (Json.hexValue? d).isSome
    let shown := String.ofList ('\\' :: c :: digits)
    some do
      let s ← s.drop digits.length
      let n := numberOf 16 digits
      if digits.length < width then stopAt ("incomplete escape " ++ shown) position
      else if n < 0x110000 then pure (n, s)
      else stopAt ("bad escape " ++ shown) position
  | none =>
    if c = 'N' then some (readCharacterName position s)
    else if c = '0' then
      let digits := (s.rest.take 2).takeWhile isOctal
      some ((s.drop digits.length).map (numberOf 8 digits, ·))
    else none

/-- Refuses an escape of a letter that has no meaning. -/
def badEscape {α : Type} (c : Char) (position : Nat) : Except Stop α :=
  stopAt ("bad escape " ++ .ofList ['\\', c]) position

/-- Refuses an octal escape of a number beyond one byte. -/
def badOctal {α : Type} (digits : List Char) (position : Nat) : Except Stop α :=
  stopAt ("octal escape value " ++ .ofList ('\\' :: digits) ++ " outside of range 0-0o377") position

/-- Reads an octal escape of three digits, or a reference to a group; `c` is its first digit. -/
def readReference (c : Char) (position : Nat) (s : State) : Except Stop (Node × State) :=
  let more := (s.rest.take 1).takeWhile isDecimal
  let digits := c :: more
  let third := ((s.rest.drop 1).take 1).takeWhile isOctal
  if more.length == 1 && digits.all isOctal && third.length == 1 then do
    let s ← s.drop 2
    let n := numberOf 8 (digits ++ third)
    if n > 0o377 then badOctal (digits ++ third) position else pure (.atom (.one n false), s)
  else do
    let s ← s.drop more.length
    let number := numberOf 10 digits
    if number ≤ s.groups then
      match s.closed? number with
      | none => stopAt "cannot refer to an open group" position
      | some width => do
        checkBehind number s
        pure (.again number width, s)
    else stopAt ("invalid group reference " ++ toString number) (position + 1)

/-- Reads an escape outside of a set. -/
def readEscape [CharacterNames] : Reader Node := fun s =>
  match s.rest with
  | _ :: c :: _ => do
    let position := s.position
    let s ← s.drop 2
    match classOf? c, anchorOf? c, controlOf? c, numbered? c position s with
    | some (k, negated), _, _, _ => pure (.atom (.set false [.cls k negated]), s)
    | _, some a, _, _ => pure (.anchor a, s)
    | _, _, some d, _ => pure (.atom (.one d.toNat false), s)
    | _, _, _, some r => r.map fun r => (.atom (.one r.1 false), r.2)
    | none, none, none, none =>
      if isDecimal c then readReference c position s
      else if isAsciiLetter c.toNat then badEscape c position
      else pure (.atom (.one c.toNat false), s)
  | _ => stopAt "bad escape (end of pattern)" s.position

/-! ### Sets -/

/-- One end of a range, or a whole class, with the start of the text that names it. -/
def readMember [CharacterNames] : Reader (SetItem × List Char) := fun s =>
  match s.rest with
  | '\\' :: c :: _ => do
    let position := s.position
    let s ← s.drop 2
    let shown := ['\\', c]
    match classOf? c, (if c = 'b' then some '\x08' else controlOf? c), numbered? c position s with
    | some (k, negated), _, _ => pure ((.cls k negated, shown), s)
    | _, some d, _ => pure ((.one d.toNat, shown), s)
    | _, _, some r => r.map fun r => ((.one r.1, shown), r.2)
    | none, none, none =>
      if isOctal c then
        let digits := c :: (s.rest.take 2).takeWhile isOctal
        let s ← s.drop (digits.length - 1)
        let n := numberOf 8 digits
        if n > 0o377 then badOctal digits position else pure ((.one n, shown), s)
      else if isDecimal c || isAsciiLetter c.toNat then badEscape c position
      else pure ((.one c.toNat, shown), s)
  | c :: _ => (s.drop 1).map ((.one c.toNat, [c]), ·)
  | [] => stopAt "unterminated character set" s.position

/-- The range from one member to another. -/
def rangeOf? : SetItem → SetItem → Option SetItem
  | .one a, .one b => if a ≤ b then some (.range a b) else none
  | _, _ => none

/-- Reads the members of a set up to its closing bracket; `opening` is the position of the set, and
a bracket that comes first is a member. -/
def readMembers [CharacterNames] (opening : Nat) :
    (fuel : Nat) → (first : Bool) → Reader (List SetItem)
  | 0, _, _ => stopAt "unterminated character set" opening
  | fuel + 1, first, s =>
    match s.rest, first with
    | [], _ => stopAt "unterminated character set" opening
    | ']' :: _, false => (s.drop 1).map ([], ·)
    | _, _ => do
      let ((item, shown), s) ← readMember s
      match s.rest with
      | '-' :: _ =>
        let s ← s.drop 1
        match s.rest with
        | [] => stopAt "unterminated character set" opening
        | ']' :: _ => (s.drop 1).map ([item, .one '-'.toNat], ·)
        | _ =>
          let ((last, shownLast), s) ← readMember s
          match rangeOf? item last with
          | some r =>
            let (items, s) ← readMembers opening fuel false s
            pure (r :: items, s)
          | none =>
            let text := shown ++ '-' :: shownLast
            stopAt ("bad character range " ++ .ofList text) (s.position - text.length)
      | _ =>
        let (items, s) ← readMembers opening fuel false s
        pure (item :: items, s)

/-- The set of items, or their one character if they are nothing else. -/
def setOf (negated : Bool) (items : List SetItem) : Atom :=
  match items.eraseDups with
  | [.one code] => .one code negated
  | items => .set negated items

/-- Reads a set from its opening bracket on. -/
def readSet [CharacterNames] : Reader Node := fun s => do
  let opening := s.position
  let s ← s.drop 1
  let negated := s.comes '^'
  let s ← if negated then s.drop 1 else pure s
  let (items, s) ← readMembers opening (s.rest.length + 1) true s
  pure (.atom (setOf negated items), s)

/-! ### Repetitions -/

/-- How often a loop goes round: at least and at most. -/
structure Count where
  least : Nat
  most : Option Nat

/-- The number that the digits of a count write. -/
def countOfDigits (digits : List Char) : Except Stop Nat :=
  if digits.length > Decimal.maxDigits then .error (.tooManyDigits digits.length)
  else
    let n := numberOf 10 digits
    if n ≥ countLimit then .error .countTooLarge else .ok n

/-- The count in braces after the opening one.  Braces that hold no count are literal text. -/
def readBraces? (s : State) : Except Stop (Option (Count × State)) :=
  let low := s.rest.takeWhile isDecimal
  let afterLow := s.rest.dropWhile isDecimal
  let (high, afterHigh) := match afterLow with
    | ',' :: cs => (cs.takeWhile isDecimal, cs.dropWhile isDecimal)
    | cs => (low, cs)
  match s.rest.head?, afterHigh with
  | some '\x7d', _ => .ok none
  | _, '\x7d' :: cs => do
    let least ← countOfDigits low
    let most ← if high.isEmpty then pure none else some <$> countOfDigits high
    if most.any (· < least) then stopAt "min repeat greater than max repeat" s.position
    else (s.drop (s.rest.length - cs.length)).map fun s => some (⟨least, most⟩, s)
  | _, _ => .ok none

/-- The count of a sign of repetition. -/
def countOf? : Char → Option Count
  | '*' => some ⟨0, none⟩
  | '+' => some ⟨1, none⟩
  | '?' => some ⟨0, some 1⟩
  | _ => none

/-- Reads a sign of repetition, if there is one and its braces hold a count. -/
def readCount? (c : Char) (s : State) : Except Stop (Option (Count × State)) :=
  match countOf? c with
  | some count => (s.drop 1).map fun s => some (count, s)
  | none => if c = '\x7b' then do readBraces? (← s.drop 1) else .ok none

/-- Reads the sign after a repetition that tells its style. -/
def readStyle : Reader LoopStyle := fun s =>
  if s.comes '?' then (s.drop 1).map (.reluctant, ·)
  else if s.comes '+' then (s.drop 1).map (.possessive, ·)
  else .ok (.greedy, s)

/-- Puts a loop around the last of the items read, which come last first.  An anchor and a loop
cannot be repeated. -/
def repeatLast (count : Count) (position : Nat) (items : List Node) :
    Reader (List Node) := fun s =>
  match items with
  | [] => stopAt "nothing to repeat" position
  | .anchor _ :: _ => stopAt "nothing to repeat" position
  | .loop _ _ _ _ :: _ => stopAt "multiple repeat" position
  | item :: items => do
    let (style, s) ← readStyle s
    let body := match item with
      | .plain body => body
      | item => item
    pure (.loop count.least count.most style body :: items, s)

/-! ### Flags -/

/-- A flag that a pattern can set. -/
inductive Flag where
  | ignoreCase
  | locale
  | multiline
  | dotAll
  | verbose
  | ascii
  | template
  | unicode
  deriving DecidableEq

/-- The letters of flags. -/
def flagOf? : Char → Option Flag
  | 'i' => some .ignoreCase
  | 'L' => some .locale
  | 'm' => some .multiline
  | 's' => some .dotAll
  | 'x' => some .verbose
  | 'a' => some .ascii
  | 't' => some .template
  | 'u' => some .unicode
  | _ => none

/-- Whether a flag chooses among alphabets. -/
def Flag.isAlphabet (f : Flag) : Bool := f = .ascii || f = .locale || f = .unicode

/-- The flag of a token that is one letter, and otherwise an error: an unknown flag, or what is
missing in place of it. -/
def flagOfToken (token : List Char) (missing : String) (s before : State) : Except Stop Flag :=
  match token with
  | [] => stopAt ("missing " ++ missing) s.position
  | [c] =>
    match flagOf? c with
    | some f => .ok f
    | none =>
      stopAt (if Text.isLetter c then "unknown flag" else "missing " ++ missing) before.position
  | _ => stopAt ("missing " ++ missing) before.position

/-- Reads the letters of flags to set after `flag`, up to what ends them. -/
def readAdded : (fuel : Nat) → (flag : Flag) → (added : List Flag) → Reader (List Flag × Char)
  | 0, _, added, s => .ok ((added, ')'), s)
  | fuel + 1, flag, added, s =>
    if flag = .locale then
      stopAt "bad inline flags: cannot use 'L' flag with a str pattern" s.position
    else if flag.isAlphabet && added.any fun f => f.isAlphabet && f != flag then
      stopAt "bad inline flags: flags 'a', 'u' and 'L' are incompatible" s.position
    else do
      let (token, s') ← s.take
      match token with
      | [')'] => pure ((flag :: added, ')'), s')
      | ['-'] => pure ((flag :: added, '-'), s')
      | [':'] => pure ((flag :: added, ':'), s')
      | token => readAdded fuel (← flagOfToken token "-, : or )" s' s) (flag :: added) s'

/-- Reads the letters of flags to clear after `flag`, up to the colon. -/
def readRemoved : (fuel : Nat) → (flag : Flag) → (removed : List Flag) → Reader (List Flag)
  | 0, _, removed, s => .ok (removed, s)
  | fuel + 1, flag, removed, s =>
    if flag.isAlphabet then
      stopAt "bad inline flags: cannot turn off flags 'a', 'u' and 'L'" s.position
    else do
      let (token, s') ← s.take
      match token with
      | [':'] => pure (flag :: removed, s')
      | token => readRemoved fuel (← flagOfToken token ":" s' s) (flag :: removed) s'

/-- The flags with some set and some cleared; to choose an alphabet clears the choice before. -/
def Flags.change (flags : Flags) (added removed : List Flag) : Flags :=
  let pick (f : Flag) (old : Bool) : Bool := (old || added.contains f) && !removed.contains f
  { ignoreCase := pick .ignoreCase flags.ignoreCase
    multiline := pick .multiline flags.multiline
    dotAll := pick .dotAll flags.dotAll
    verbose := pick .verbose flags.verbose
    ascii := if added.contains .unicode then false else pick .ascii flags.ascii }

/-- The state with flags set for the whole pattern. -/
def State.setFlags (s : State) (added : List Flag) : State :=
  { s with
    flags := { s.flags.change added [] with ascii := s.flags.ascii || added.contains .ascii }
    unicode := s.unicode || added.contains .unicode
    template := s.template || added.contains .template }

/-- Reads flags from their first character on: those to set and those to clear for a group, or
nothing to clear if they are for the whole pattern. -/
def readFlags (c : Char) : Reader (List Flag × Option (List Flag)) := fun s => do
  let fuel := s.rest.length + 1
  let ((added, last), s) ← match flagOf? c with
    | some flag => readAdded fuel flag [] s
    | none => pure (([], '-'), s)
  if last = ')' then pure ((added, none), s)
  else if added.contains .template then
    stopAt "bad inline flags: cannot turn on global flag" (s.position - 1)
  else do
    let (removed, s) ←
      if last = '-' then do
        let (token, s') ← s.take
        readRemoved fuel (← flagOfToken token "flag" s' s) [] s'
      else pure ([], s)
    if removed.contains .template then
      stopAt "bad inline flags: cannot turn off global flag" (s.position - 1)
    else if added.any removed.contains then
      stopAt "bad inline flags: flag turned on and off" (s.position - 1)
    else pure ((added, some removed), s)

/-! ### Groups -/

/-- What the opening of a group announces. -/
inductive Opening where
  | capturing (name : Option (List Char × Nat))
  | plain
  | atomic
  | look (behind negated : Bool)
  | again (name : List Char) (position : Nat)
  | condition (name : List Char) (position : Nat)
  | comment
  | flags (added : List Flag) (removed : Option (List Flag))

/-- Reads the opening of a group with a name, or the name of a group to match again. -/
def readNamed (position : Nat) : Reader Opening := fun s => do
  if s.comes '<' then
    let s ← s.drop 1
    let (name, s') ← readName '>' s
    if Text.isIdentifier name then pure (.capturing (some (name, s.position)), s')
    else badName name s.position
  else if s.comes '=' then
    let s ← s.drop 1
    let (name, s') ← readName ')' s
    if Text.isIdentifier name then pure (.again name s.position, s') else badName name s.position
  else
    let (token, s) ← s.take
    if token.isEmpty then stopAt "unexpected end of pattern" s.position
    else stopAt ("unknown extension ?P" ++ .ofList token) position

/-- Reads the opening of a look at the text before. -/
def readBehind (position : Nat) : Reader Opening := fun s => do
  let (token, s) ← s.take
  match token with
  | [] => stopAt "unexpected end of pattern" s.position
  | ['='] => pure (.look true false, s)
  | ['!'] => pure (.look true true, s)
  | token => stopAt ("unknown extension ?<" ++ .ofList token) position

/-- Reads the opening of a group after its parenthesis. -/
def readOpening : Reader Opening := fun s => do
  if !s.comes '?' then pure (.capturing none, s)
  else
    let position := s.position
    let s ← s.drop 1
    let (token, s) ← s.take
    match token with
    | [] => stopAt "unexpected end of pattern" s.position
    | ['P'] => readNamed position s
    | [':'] => pure (.plain, s)
    | ['#'] => pure (.comment, s)
    | ['='] => pure (.look false false, s)
    | ['!'] => pure (.look false true, s)
    | ['<'] => readBehind position s
    | ['('] => (readName ')' s).map fun r => (.condition r.1 s.position, r.2)
    | ['>'] => pure (.atomic, s)
    | [c] =>
      if (flagOf? c).isSome || c = '-' then
        (readFlags c s).map fun r => (.flags r.1.1 r.1.2, r.2)
      else stopAt ("unknown extension ?" ++ .singleton c) position
    | token => stopAt ("unknown extension ?" ++ .ofList token) position

/-- Passes over a comment up to its closing parenthesis; `opening` is where it starts. -/
def skipComment (opening : Nat) : (fuel : Nat) → State → Except Stop State
  | 0, s => .ok s
  | fuel + 1, s => do
    let (token, s) ← s.take
    match token with
    | [] => stopAt "missing ), unterminated comment" opening
    | [')'] => pure s
    | _ => skipComment opening fuel s

/-- Passes over the rest of a line. -/
def skipLine : (fuel : Nat) → State → Except Stop State
  | 0, s => .ok s
  | fuel + 1, s => do
    let (token, s) ← s.take
    if token.isEmpty || token == ['\n'] then pure s else skipLine fuel s

/-- The group that is to match again. -/
def readAgain (name : List Char) (position : Nat) : Reader Node := fun s =>
  match s.named? name with
  | none => stopAt ("unknown group name " ++ Text.quoted (.ofList name)) position
  | some number =>
    match s.closed? number with
    | none => stopAt "cannot refer to an open group" position
    | some width => do
      checkBehind number s
      pure (.again number width, s)

/-- The group that a condition asks for. -/
def readCondition (name : List Char) (position : Nat) : Reader Nat := fun s => do
  let (number, s) ←
    if Text.isIdentifier name then
      match s.named? name with
      | some number => pure (number, s)
      | none => stopAt ("unknown group name " ++ Text.quoted (.ofList name)) position
    else
      match groupNumber? name with
      | none => badName name position
      | some 0 => stopAt "bad group number" position
      | some number =>
        if number ≥ groupLimit then
          stopAt ("invalid group reference " ++ toString number) position
        else if (s.awaited.lookup number).isSome then pure (number, s)
        else pure (number, { s with awaited := s.awaited ++ [(number, position)] })
  checkBehind number s
  pure (number, s)

/-- Opens a group, under a name if it has one. -/
def openGroup (name : Option (List Char × Nat)) : Reader Nat := fun s =>
  let number := s.groups + 1
  match name with
  | none => .ok (number, { s with groups := number })
  | some (name, position) =>
    match s.named? name with
    | some earlier =>
      stopAt ("redefinition of group name " ++ Text.quoted (.ofList name) ++ " as group " ++
        toString number ++ "; was group " ++ toString earlier) position
    | none => .ok (number, { s with groups := number, names := (.ofList name, number) :: s.names })

/-- The closing parenthesis of the group that opens at `opening`. -/
def close (opening : Nat) (s : State) : Except Stop State :=
  if s.comes ')' then s.drop 1 else stopAt "missing ), unterminated subpattern" opening

/-! ### Sequences and branches -/

/-- The pattern of items that were read one after the other. -/
def sequenceOf : List Node → Node
  | [item] => item
  | items => .sequence items

/-- The items of a sequence. -/
def itemsOf : Node → List Node
  | .sequence items => items
  | item => [item]

/-- The items with those of plain groups in place of these. -/
def unpacked (items : List Node) : List Node :=
  items.flatMap fun
    | .plain body => itemsOf body
    | item => [item]

/-- Whether two items that have no pattern inside are the same. -/
def sameItem : Node → Node → Bool
  | .atom a, .atom b => a == b
  | .anchor a, .anchor b => a == b
  | .again m _, .again n _ => m == n
  | _, _ => false

/-- The items with which all branches start, and what is left of the branches. -/
def sharedStart : (first : List Node) → (others : List (List Node)) →
    List Node × List (List Node)
  | n :: first, others =>
    if others.all fun branch => branch.head?.any (sameItem n) then
      let (shared, rests) := sharedStart first (others.map List.tail)
      (n :: shared, rests)
    else ([], (n :: first) :: others)
  | [], others => ([], [] :: others)

/-- The characters of branches that are one character each. -/
def charsOf? : List (List Node) → Option (List SetItem)
  | [] => some []
  | [.atom (.one code false)] :: branches => (charsOf? branches).map (.one code :: ·)
  | [.atom (.set false items)] :: branches => (charsOf? branches).map (items ++ ·)
  | _ => none

/-- The pattern of branches: what they share comes first, and a choice among single characters is a
set of characters. -/
def choiceOf : List (List Node) → List Node
  | [] => []
  | [branch] => branch
  | first :: others =>
    let (shared, rests) := sharedStart first others
    match charsOf? rests with
    | some items => shared ++ [.atom (.set false items.eraseDups)]
    | none => shared ++ [.choice (rests.map sequenceOf)]

mutual

/-- Reads branches up to a closing parenthesis or the end; `first` holds at the start of the whole
pattern. -/
def readBranches [CharacterNames] : (fuel : Nat) → (first : Bool) → Reader (List (List Node))
  | 0, _, s => .ok ([], s)
  | fuel + 1, first, s => do
    let (branch, s) ← readItems fuel first [] s
    if s.comes '|' then
      let s ← s.drop 1
      let (branches, s) ← readBranches fuel false s
      pure (branch :: branches, s)
    else pure ([branch], s)

/-- Reads the items of one branch after those in `items`, which come last first. -/
def readItems [CharacterNames] :
    (fuel : Nat) → (first : Bool) → List Node → Reader (List Node)
  | 0, _, items, s => .ok (unpacked items.reverse, s)
  | fuel + 1, first, items, s =>
    match s.rest with
    | [] => .ok (unpacked items.reverse, s)
    | c :: _ =>
      if c = '|' || c = ')' then .ok (unpacked items.reverse, s)
      else if s.flags.verbose && isSkipped c then do
        readItems fuel first items (← s.drop 1)
      else if s.flags.verbose && c = '#' then do
        readItems fuel first items (← skipLine (s.rest.length + 1) s)
      else if c = '\\' then do
        let (item, s) ← readEscape s
        readItems fuel first (item :: items) s
      else if c = '[' then do
        let (item, s) ← readSet s
        readItems fuel first (item :: items) s
      else if c = '(' then do
        let (group?, s) ← readGroup fuel (first && items.isEmpty) s
        readItems fuel first (group?.toList ++ items) s
      else if c = '.' then do
        readItems fuel first (.atom .any :: items) (← s.drop 1)
      else if c = '^' then do
        readItems fuel first (.anchor .lineStart :: items) (← s.drop 1)
      else if c = '$' then do
        readItems fuel first (.anchor .lineFinish :: items) (← s.drop 1)
      else do
        match ← readCount? c s with
        | some (count, s') =>
          let (items, s) ← repeatLast count s.position items s'
          readItems fuel first items s
        | none => readItems fuel first (.atom (.one c.toNat false) :: items) (← s.drop 1)

/-- Reads a group from its opening parenthesis on.  A comment is no item, and neither are flags for
the whole pattern, which have to stand at its start. -/
def readGroup [CharacterNames] : (fuel : Nat) → (first : Bool) → Reader (Option Node)
  | 0, _, s => stopAt "missing ), unterminated subpattern" s.position
  | fuel + 1, first, s => do
    let opening := s.position
    let body (s : State) : Except Stop (Node × State) := do
      let (branches, s) ← readBranches fuel false s
      pure (sequenceOf (choiceOf branches), s)
    let (kind, s) ← readOpening (← s.drop 1)
    match kind with
    | .comment => do pure (none, ← skipComment opening (s.rest.length + 1) s)
    | .flags added none =>
      if first then pure (none, s.setFlags added)
      else stopAt "global flags not at the start of the expression" opening
    | .flags added (some removed) =>
      let flags := s.flags.change added removed
      let (inner, s') ← body { s with flags := flags }
      let s' ← close opening s'
      pure (some (.scoped flags inner), { s' with flags := s.flags })
    | .plain =>
      let (inner, s) ← body s
      pure (some (.plain inner), ← close opening s)
    | .atomic =>
      let (inner, s) ← body s
      pure (some (.atomic inner), ← close opening s)
    | .look behind negated =>
      let before := s.groupsBefore
      let (inner, s) ←
        body (if behind then { s with groupsBefore := some (before.getD s.groups) } else s)
      pure (some (.look behind negated inner), ← close opening { s with groupsBefore := before })
    | .again name position => (readAgain name position s).map fun r => (some r.1, r.2)
    | .condition name position =>
      let (number, s) ← readCondition name position s
      let (yes, s) ← readItems fuel false [] s
      if s.comes '|' then
        let (no, s) ← readItems fuel false [] (← s.drop 1)
        if s.comes '|' then
          stopAt "conditional backref with more than two branches" s.position
        else
          pure (some (.ifMatched number (sequenceOf yes) (sequenceOf no)), ← close opening s)
      else pure (some (.ifMatched number (sequenceOf yes) (.sequence [])), ← close opening s)
    | .capturing name =>
      let (number, s) ← openGroup name s
      let (inner, s) ← body s
      let s ← close opening s
      pure (some (.group number inner), { s with widths := (number, inner.width) :: s.widths })

end

/-! ### Whole patterns -/

/-- The name of a loop's style in messages. -/
def LoopStyle.label : LoopStyle → String
  | .greedy => "MAX_REPEAT"
  | .reluctant => "MIN_REPEAT"
  | .possessive => "POSSESSIVE_REPEAT"

mutual

/-- What is wrong with a pattern although it can be read: a look behind has to be of one width, and a
template has no loops. -/
def Node.check (template : Bool) : Node → Except Stop Unit
  | .atom _ | .anchor _ | .again _ _ => .ok ()
  | .plain body | .group _ body | .scoped _ body | .atomic body | .look false _ body =>
    body.check template
  | .look true _ body =>
    if body.width.least > behindLimit then .error (.error ⟨"looks too much behind", none⟩)
    else if body.width.least ≠ body.width.most then
      .error (.error ⟨"look-behind requires fixed-width pattern", none⟩)
    else body.check template
  | .sequence items => checkEach template items
  | .choice branches => checkEach template branches
  | .loop _ _ style body =>
    if template then
      .error (.error ⟨"internal: unsupported template operator " ++ style.label, none⟩)
    else body.check template
  | .ifMatched _ yes no => do
    yes.check template
    no.check template

/-- What is wrong with one of several patterns. -/
def checkEach (template : Bool) : List Node → Except Stop Unit
  | [] => .ok ()
  | n :: nodes => do
    n.check template
    checkEach template nodes

end

/-- The state in which the reading of a text starts. -/
def State.initial (pattern : String) : State :=
  ⟨0, pattern.toList, 0, [], [], none, [], .none, false, false⟩

/-- The pattern of a text. -/
def read [CharacterNames] (pattern : String) : Except Stop Expr := do
  let s ← (State.initial pattern).drop 0
  let (branches, s) ← readBranches (3 * s.rest.length + 3) true s
  if s.flags.ascii && s.unicode then .error .flagsClash
  else if !s.rest.isEmpty then stopAt "unbalanced parenthesis" s.position
  else
    match s.awaited.find? fun group => group.1 > s.groups with
    | some (number, position) =>
      stopAt ("invalid group reference " ++ toString number) position
    | none => do
      let node := sequenceOf (choiceOf branches)
      node.check s.template
      pure ⟨s.flags, node⟩

end Jenkinsfile.Pattern
