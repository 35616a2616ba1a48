import Jenkinsfile.CommandLine.Arguments
import Jenkinsfile.Template.Basic

/-! The commands of the program, read from its arguments. -/

namespace Jenkinsfile.CommandLine

/-- What a pipeline is rendered from, and where its script goes: paths are given as texts. -/
structure RenderOptions where
  pipeline : String
  tasks : String
  values : Option String
  source : Option SourceControl
  format : Bool
  output : Option String
  settings : String

/-- A command: to tell the version, to check manifests in files or in a directory, to render a
pipeline, or to list the global variables. -/
inductive Command where
  | version
  | check (files : List String) (directory : Option String)
  | render (options : RenderOptions)
  | globals (source : Option SourceKind) (image : Bool)

namespace Command

/-- The file in which settings are looked for unless another one is named. -/
def standardSettings : String := "pipegen.yaml"

/-- The kind of source control that an option names, if it is given at all. -/
def sourceKind? (a : Arguments) : Option (Option SourceKind) :=
  match a.value? "scm-type" with
  | none => some none
  | some "GIT" => some (some .git)
  | some "SVN" => some (some .svn)
  | some _ => none

/-- The command to check manifests. -/
def ofCheck (args : List String) : Option Command := do
  let a ← Arguments.read [⟨"file", some 'f', true⟩, ⟨"dir", some 'd', true⟩] true args
  if a.words.isEmpty then some (.check (a.valuesOf "file") (a.value? "dir")) else none

/-- The command to render a pipeline. -/
def ofRender (args : List String) : Option Command := do
  let a ← Arguments.read
    [⟨"tasks", some 't', true⟩, ⟨"values", none, true⟩, ⟨"scm-type", none, true⟩,
      ⟨"scm-path", none, true⟩, ⟨"scm-credential", none, true⟩, ⟨"scm-branch", none, true⟩,
      ⟨"no-format", none, false⟩, ⟨"output", some 'o', true⟩, ⟨"config", some 'c', true⟩] true args
  let kind ← sourceKind? a
  match a.words, a.value? "tasks" with
  | [pipeline], some tasks =>
    let part (name : String) : String := (a.value? name).getD ""
    let source := kind.map fun kind =>
      SourceControl.mk kind (part "scm-path") (part "scm-credential") (part "scm-branch")
    some (.render
      { pipeline, tasks, values := a.value? "values", source, format := !a.has "no-format",
        output := a.value? "output", settings := (a.value? "config").getD standardSettings })
  | _, _ => none

/-- The command to list the global variables. -/
def ofGlobals (args : List String) : Option Command := do
  let a ← Arguments.read [⟨"scm-type", none, true⟩, ⟨"image", none, false⟩] true args
  let kind ← sourceKind? a
  if a.words.isEmpty then some (.globals kind (a.has "image")) else none

/-- The command that the arguments of the program give, if they give one. -/
def ofArguments (args : List String) : Option Command := do
  let a ← Arguments.read [⟨"verbose", some 'v', false⟩] false args
  match a.words with
  | "version" :: rest =>
    if (← Arguments.read [] true rest).words.isEmpty then some .version else none
  | "validate" :: rest =>
    match (← Arguments.read [] false rest).words with
    | "definition" :: rest => ofCheck rest
    | _ => none
  | "render" :: rest => ofRender rest
  | "globals" :: rest => ofGlobals rest
  | _ => none

end Command

end Jenkinsfile.CommandLine
