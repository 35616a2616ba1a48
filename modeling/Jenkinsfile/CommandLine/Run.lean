import Jenkinsfile.CommandLine.Command
import Jenkinsfile.GlobalVariable
import Jenkinsfile.Manifest.Check
import Jenkinsfile.Manifest.Load
import Jenkinsfile.Pipeline.Compile
import Jenkinsfile.Pipeline.Render
import Jenkinsfile.Script.Layout

/-! What commands do.  A run takes the files that are there and gives its output and the files that
are there afterwards. -/

namespace Jenkinsfile.CommandLine

/-- The version of the program. -/
def version : String := "0.1.0"

/-- The day on which the program was made. -/
def buildDate : String := "2026-10-19"

/-- How a run ends: with two texts and the files that are there, with a list of variables, because
it was called in a wrong way, or by a fault. -/
inductive Outcome where
  | finished (status : Nat) (out err : String) (files : FileTree)
  | listed (globals : List GlobalVariable)
  | misused
  | stopped (f : Fault)

/-- The end of a run that prints `out` and changes no file. -/
def Outcome.printed (t : FileTree) (out : String) : Outcome := .finished 0 out "" t

/-- The end of a run with the message `err`. -/
def Outcome.failed (t : FileTree) (out err : String) : Outcome :=
  .finished 1 out ("Error: " ++ err ++ "\n") t

/-- The lines that tell of an error. -/
def errorLines (e : Error) : Except Fault (List String) :=
  match e.leaves.mapM Report.text with
  | .ok lines => .ok lines
  | .error f => .error (.text f)

/-- Whether there is a file at the end of a path. -/
def isFile (t : FileTree) (s : String) : Bool :=
  match t.entryOf? s with
  | some (.file _) => true
  | _ => false

/-- Whether there is a directory at the end of a path. -/
def isDirectory (t : FileTree) (s : String) : Bool :=
  match t.entryOf? s with
  | some .directory => true
  | _ => false

/-- The paths of all files in a directory and below it that are checked together. -/
def definitionPaths (t : FileTree) (directory : Path) : List Path :=
  (t.filesBelow directory).filter fun p => (p.names.getLast?.getD "").endsWith ".yaml"

variable [Loader]

/-- The error in the manifest of a file, if there is one. -/
def manifestError (t : FileTree) (p : Path) : Except Fault (Option Error) :=
  match (do (← t.manifest p).check : Except Failure Unit) with
  | .ok () => .ok none
  | .error (.error e) => .ok (some e)
  | .error (.fault f) => .error f

/-- The lines that tell whether a manifest is well formed, and why it is not. -/
def checkLines (p : Path) : Option Error → Except Fault (List String)
  | none => .ok ["√\t " ++ p.text]
  | some e => do return ("×\t " ++ p.text) :: (← errorLines e).map ("\t " ++ ·)

/-- Checks the manifests in files. -/
def checkFiles (t : FileTree) (paths : List Path) : Except Fault Outcome := do
  if paths.isEmpty then return .failed t "" "no file need to validate"
  else
    let results ← paths.mapM fun p => do
      let e ← manifestError t p
      return (e, ← checkLines p e)
    let out := String.join ((results.flatMap Prod.snd).map (· ++ "\n"))
    let count := (results.filter (·.1.isSome)).length
    if count = 0 then return .printed t out
    else
      return .failed t out ("template definition validation is not pass (" ++ toString count ++
        " of " ++ toString paths.length ++ " failed)")

/-- Checks manifests: those of a directory if one is named, which has to have a directory
`definition` in it, and else those of the files named. -/
def check (t : FileTree) (files : List String) (directory : Option String) :
    Except Fault Outcome :=
  if !files.all (isFile t) then .ok .misused
  else
    match directory with
    | none => checkFiles t (files.map Path.ofText)
    | some d =>
      let d := Path.ofText d
      match t.entry (d.below ["definition"]) with
      | .ok .directory => checkFiles t (definitionPaths t d)
      | _ => .ok .misused

variable [Pattern.CharacterNames]

/-- The script of a pipeline. -/
def script (t : FileTree) (o : RenderOptions) : Except Failure String := do
  let settings ← Failure.ofFault (t.settings (some (Path.ofText o.settings)))
  let template ← Failure.ofError (← t.manifest (Path.ofText o.pipeline)).pipelineTemplate
  let tasks ← t.taskTemplates (Path.ofText o.tasks)
  let values ← t.values (o.values.map Path.ofText)
  let text ← (← template.compile tasks values o.source).render settings
  return if settings.format && o.format then Script.format settings.indentWidth.toNat text else text

/-- Renders a pipeline, and prints its script or writes it to a file. -/
def render (t : FileTree) (o : RenderOptions) : Except Fault Outcome :=
  if !(isFile t o.pipeline && isDirectory t o.tasks && o.values.all (isFile t)) then .ok .misused
  else
    match script t o, o.output with
    | .error (.fault f), _ => .error f
    | .error (.error e), _ => do return .failed t "" ("\n  ".intercalate (← errorLines e))
    | .ok text, none => .ok (.printed t text)
    | .ok text, some output => do
      let p := Path.ofText output
      return .printed (← t.write p text) ("Wrote pipeline to " ++ p.text ++ "\n")

/-- What a command does. -/
def Command.run (t : FileTree) : Command → Except Fault Outcome
  | .version =>
    .ok (.printed t ("pipegen version: " ++ CommandLine.version ++ "(" ++ buildDate ++ ")\n"))
  | .check files directory => CommandLine.check t files directory
  | .render options => CommandLine.render t options
  | .globals source image => .ok (.listed (GlobalVariable.all source image))

/-- What the program does with these arguments where these files are. -/
def run (t : FileTree) (args : List String) : Outcome :=
  match Command.ofArguments args with
  | none => .misused
  | some command =>
    match command.run t with
    | .ok outcome => outcome
    | .error f => .stopped f

end Jenkinsfile.CommandLine
