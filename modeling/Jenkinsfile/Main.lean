import Jenkinsfile.CommandLine.Run
import Jenkinsfile.Manifest.Shape

/-! The program.  It reads the files that its command is about, runs the command on them, writes the
files that the run adds and prints what the run prints. -/

namespace Jenkinsfile.CommandLine

/-- How the program is called. -/
def usage : String :=
  "Usage: pipegen [-v] COMMAND\n\n" ++
    "  version\n" ++
    "  validate definition [-f FILE]... [-d DIRECTORY]\n" ++
    "  render PIPELINE -t DIRECTORY [--values FILE] [--scm-type GIT|SVN] [--scm-path TEXT]\n" ++
    "    [--scm-credential TEXT] [--scm-branch TEXT] [--no-format] [-o FILE] [-c FILE]\n" ++
    "  globals [--scm-type GIT|SVN] [--image]\n"

/-- The files and directories that a command is about. -/
def Command.sources : Command → List String
  | .version | .globals _ _ => []
  | .check files directory => files ++ directory.toList
  | .render o => [o.settings, o.pipeline, o.tasks] ++ o.values.toList

/-- The place of a path in a tree. -/
def placeOf (p : Path) : List String := p.names.foldl FileTree.stepFrom []

/-- The tree with the directories on the way to a path, as far as they are there. -/
def addDirectories (t : FileTree) (p : Path) : IO FileTree := do
  let mut t := t
  for i in List.range (p.names.length + 1) do
    let q := Path.mk (p.names.take i)
    if ← (System.mkFilePath [q.text]).isDir then
      t := { t with directories := placeOf q :: t.directories }
  return t

/-- The tree with the file at a path. -/
def addFile (t : FileTree) (p : Path) : IO FileTree := do
  if (t.fileAt? (placeOf p)).isSome then return t
  else
    let text ← IO.FS.readFile (System.mkFilePath [p.text])
    return { t with files := (placeOf p, text) :: t.files }

/-- The tree with what is at a path: a file, or a directory with the manifests in it. -/
def addSource (t : FileTree) (source : String) : IO FileTree := do
  let p := Path.ofText source
  let place := System.mkFilePath [p.text]
  let mut t ← addDirectories t p
  if ← place.isDir then
    for found in ← place.walkDir do
      let q := Path.ofText found.toString
      if ← found.isDir then t := { t with directories := placeOf q :: t.directories }
      else if manifestSuffixes.any (fun suffix => q.text.endsWith suffix) then t ← addFile t q
  else if ← place.pathExists then t ← addFile t p
  return t

/-- Writes the files of a tree that are not in the tree before. -/
def writeNew (before after : FileTree) : IO Unit := do
  for (place, text) in after.files do
    if before.fileAt? place != some text then
      let file := System.mkFilePath [Path.text ⟨place⟩]
      if let some parent := file.parent then IO.FS.createDirAll parent
      IO.FS.writeFile file text

/-- Runs the program. -/
def execute (args : List String) : IO UInt32 := do
  let command := Command.ofArguments args
  let t ← (command.toList.flatMap Command.sources).foldlM addSource ⟨[], []⟩
  match @run Loader.yaml .unnamed t args with
  | .misused =>
    (← IO.getStderr).putStr usage
    return 2
  | .stopped f =>
    (← IO.getStderr).putStr ("Unexpected error: " ++ f.message ++ "\n")
    return 1
  | .listed globals =>
    for v in globals do
      IO.println (v.name ++ "\t" ++ v.description.english ++ "\t" ++ v.description.chinese)
    return 0
  | .finished status out err after =>
    writeNew t after
    (← IO.getStdout).putStr out
    (← IO.getStderr).putStr err
    return status.toUInt32

end Jenkinsfile.CommandLine

/-- Runs the program. -/
def main (args : List String) : IO UInt32 := Jenkinsfile.CommandLine.execute args
