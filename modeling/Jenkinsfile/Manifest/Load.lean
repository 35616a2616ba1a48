import Jenkinsfile.FileTree
import Jenkinsfile.Manifest.Loader

/-! Manifests, values and settings loaded from files. -/

namespace Jenkinsfile

/-- The suffixes of the files in which manifests are kept. -/
def manifestSuffixes : List String := [".yaml", ".yml"]

namespace FileTree

variable [Loader]

/-- The text of a file that may hold a manifest. -/
def readManifest (t : FileTree) (p : Path) : Except Failure String :=
  if manifestSuffixes.contains p.suffix then Failure.ofFault (t.read p)
  else
    .error (.error (.definition (p.text ++ " is not a yaml file, only " ++
      ", ".intercalate manifestSuffixes ++ " are supported")))

/-- The manifest in a file. -/
def manifest (t : FileTree) (p : Path) : Except Failure Manifest := do
  Manifest.ofText (← t.readManifest p) p.text

/-- The paths of all files in a directory and below it that may hold a manifest, in order. -/
def manifestPaths (t : FileTree) (p : Path) : List Path :=
  (t.filesBelow p).filter fun q => manifestSuffixes.contains q.suffix

/-- The task templates in files, under their names, after those loaded before; manifests of other
kinds are left out, and no name may come twice. -/
def taskTemplatesFrom (t : FileTree) (loaded : Table TaskTemplate) : List Path →
    Except Failure (Table TaskTemplate)
  | [] => .ok loaded
  | p :: paths => do
    let m ← t.manifest p
    if m.kind != TemplateKind.task.label then taskTemplatesFrom t loaded paths
    else if loaded.has m.name then
      throw (.error (.definition ("task template " ++ m.name ++ " is defined more than once (" ++
        p.text ++ ")")))
    else
      let template ← Failure.ofError m.taskTemplate
      taskTemplatesFrom t (loaded.insert m.name template) paths

/-- All task templates in a directory and below it, under their names. -/
def taskTemplates (t : FileTree) (p : Path) : Except Failure (Table TaskTemplate) :=
  t.taskTemplatesFrom [] (t.manifestPaths p)

/-- The values in a file; none if there is no file. -/
def values (t : FileTree) : Option Path → Except Failure (Table Value)
  | none => .ok []
  | some p => do readTable (← Failure.ofFault (t.read p)) p.text

/-- The settings of a data file: the whole of it, or its entry `render` if that is a map. -/
def settingsOf (v : Value) : Except Fault Settings :=
  let v := if v.truthy then v else .map []
  let v := match v with
    | .map t => match Table.get? t "render" with
      | some (.map inner) => Value.map inner
      | _ => v
    | _ => v
  match Loader.settings v with
  | .ok s => .ok s
  | .failed ms => .error (.mismatches ms)

/-- The settings in a file; the standard ones if there is no file. -/
def settings (t : FileTree) (p : Option Path) : Except Fault Settings :=
  match p with
  | none => .ok Settings.standard
  | some p =>
    match t.entry p with
    | .error _ => .ok Settings.standard
    | .ok _ => do settingsOf (← Loader.data (← t.read p))

end FileTree

end Jenkinsfile
