import Jenkinsfile.Text.Separator

/-! Command line arguments: options with their values, and the words between them. -/

namespace Jenkinsfile.CommandLine

/-- An option: its full name, the letter that stands for it if there is one, and whether it takes a
value. -/
structure Flag where
  name : String
  letter : Option Char
  takesValue : Bool

/-- Arguments read: each option that was given, with its value, and the words, in order. -/
structure Arguments where
  options : List (String × String)
  words : List String

namespace Arguments

/-- No arguments. -/
def none : Arguments := ⟨[], []⟩

/-- The arguments after one more option. -/
def withOption (a : Arguments) (name value : String) : Arguments :=
  { a with options := (name, value) :: a.options }

/-- The arguments after one more word. -/
def withWord (a : Arguments) (word : String) : Arguments := { a with words := word :: a.words }

/-- Whether an option was given. -/
def has (a : Arguments) (name : String) : Bool := a.options.any (·.1 == name)

/-- The values given to an option. -/
def valuesOf (a : Arguments) (name : String) : List String :=
  (a.options.filter (·.1 == name)).map Prod.snd

/-- The last value given to an option. -/
def value? (a : Arguments) (name : String) : Option String := (a.valuesOf name).getLast?

/-- The options whose letters are `cs`, as far as they are written in one argument, with the
arguments after it that are left. -/
def letters (flags : List Flag) (rest : List String) : List Char →
    Option (List (String × String) × List String)
  | [] => some ([], rest)
  | c :: cs =>
    match flags.find? (·.letter == some c), cs, rest with
    | Option.none, _, _ => Option.none
    | some flag, cs, rest =>
      if !flag.takesValue then (letters flags rest cs).map fun r => ((flag.name, "") :: r.1, r.2)
      else
        match cs, rest with
        | [], [] => Option.none
        | [], value :: rest => some ([(flag.name, value)], rest)
        | cs, rest => some ([(flag.name, .ofList cs)], rest)

/-- The option whose full name an argument gives, perhaps with a value after an equals sign, with
the arguments after it that are left. -/
def named (flags : List Flag) (rest : List String) (cs : List Char) :
    Option ((String × String) × List String) :=
  let (name, given) := cs.span (· != '=')
  match flags.find? (·.name == .ofList name), given, rest with
  | Option.none, _, _ => Option.none
  | some flag, given, rest =>
    match flag.takesValue, given, rest with
    | false, [], rest => some ((flag.name, ""), rest)
    | false, _ :: _, _ => Option.none
    | true, _ :: value, rest => some ((flag.name, .ofList value), rest)
    | true, [], value :: rest => some ((flag.name, value), rest)
    | true, [], [] => Option.none

/-- The options and words of arguments, or nothing if an option is unknown or lacks its value.  Two
dashes end the options, and so does the first word if `mixed` does not hold. -/
def readFrom (flags : List Flag) (mixed : Bool) : (fuel : Nat) → List String → Option Arguments
  | 0, rest => some { Arguments.none with words := rest }
  | _ + 1, [] => some Arguments.none
  | fuel + 1, arg :: rest =>
    match arg.toList with
    | ['-', '-'] => some { Arguments.none with words := rest }
    | '-' :: '-' :: cs => do
      let (option, rest) ← named flags rest cs
      return (← readFrom flags mixed fuel rest).withOption option.1 option.2
    | '-' :: c :: cs => do
      let (options, rest) ← letters flags rest (c :: cs)
      let a ← readFrom flags mixed fuel rest
      return { a with options := options ++ a.options }
    | _ =>
      if mixed then do return (← readFrom flags mixed fuel rest).withWord arg
      else some { Arguments.none with words := arg :: rest }

/-- The options and words of arguments. -/
def read (flags : List Flag) (mixed : Bool) (args : List String) : Option Arguments :=
  readFrom flags mixed args.length args

end Arguments

end Jenkinsfile.CommandLine
