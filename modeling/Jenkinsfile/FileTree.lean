import Jenkinsfile.Failure
import Jenkinsfile.Text.Lines
import Jenkinsfile.Text.Order
import Jenkinsfile.Text.Separator

/-! Trees of files: the texts that a run reads and writes, under the paths of its files. -/

namespace Jenkinsfile

/-- A path: the names on the way to a file or directory, of which the first is a slash if the path
does not start where the run does. -/
structure Path where
  names : List String
  deriving DecidableEq

namespace Path

/-- The path that a text writes; empty names and lone dots in it say nothing. -/
def ofText (s : String) : Path :=
  let names := (Text.splitOn ['/'] s.toList).filter fun n => n != [] && n != ['.']
  let top : List String := if s.toList.head? == some '/' then ["/"] else []
  ⟨top ++ names.map .ofList⟩

/-- The text of a path. -/
def text (p : Path) : String :=
  match p.names with
  | [] => "."
  | "/" :: names => "/" ++ "/".intercalate names
  | names => "/".intercalate names

/-- The path that goes on with `names`. -/
def below (p : Path) (names : List String) : Path := ⟨p.names ++ names⟩

/-- The end of a name from its last dot on, unless that is its first or last character. -/
def suffixOf (name : String) : String :=
  let cs := name.toList
  let ending := (cs.reverse.takeWhile (· != '.')).reverse
  if ending.isEmpty || cs.length ≤ ending.length + 1 then "" else .ofList ('.' :: ending)

/-- The suffix of the last name. -/
def suffix (p : Path) : String := suffixOf (p.names.getLast?.getD "")

/-- Paths are ordered by their names, the first ones first. -/
def le (p q : Path) : Bool := !Text.precedes Text.comesBefore q.names p.names

end Path

/-- What is at a place. -/
inductive FileEntry where
  | file (text : String)
  | directory

/-- A tree of files.  The directories in which something is are not listed. -/
structure FileTree where
  files : List (List String × String)
  directories : List (List String)

namespace FileTree

/-- The tree with these files, and with a directory where there is no text. -/
def ofEntries (entries : Table (Option String)) : FileTree where
  files := entries.filterMap fun e => e.2.map ((Path.ofText e.1).names, ·)
  directories := entries.filterMap fun e =>
    if e.2.isNone then some (Path.ofText e.1).names else none

/-- The text of the file at a place. -/
def fileAt? (t : FileTree) (place : List String) : Option String :=
  (t.files.find? (·.1 = place)).map Prod.snd

/-- Whether there is a directory at a place. -/
def isDirectory (t : FileTree) (place : List String) : Bool :=
  place.isEmpty || t.directories.any (place.isPrefixOf ·) ||
    t.files.any fun f => place.isPrefixOf f.1 && place != f.1

/-- What is at a place. -/
def entryAt (t : FileTree) (place : List String) : Except Fault FileEntry :=
  match t.fileAt? place with
  | some text => .ok (.file text)
  | none => if t.isDirectory place then .ok .directory else .error .noFile

/-- The place one step from the directory at `place`; two dots lead back. -/
def stepFrom (place : List String) (name : String) : List String :=
  if name = ".." && place.getLast?.any (· != "..") then place.dropLast else place ++ [name]

/-- The place to which names lead from `place`; all but the last have to be those of directories. -/
def resolveFrom (t : FileTree) (place : List String) : List String → Except Fault (List String)
  | [] => .ok place
  | [name] => .ok (stepFrom place name)
  | name :: names =>
    let next := stepFrom place name
    match t.entryAt next with
    | .ok .directory => resolveFrom t next names
    | .ok (.file _) => .error .notDirectory
    | .error f => .error f

/-- What is at the end of a path. -/
def entry (t : FileTree) (p : Path) : Except Fault FileEntry := do
  t.entryAt (← t.resolveFrom [] p.names)

/-- What is at the end of the path that a text writes; one that ends with a slash leads to no
file, and an empty one nowhere. -/
def entryOf? (t : FileTree) (s : String) : Option FileEntry :=
  let last := (Text.splitOn ['/'] s.toList).getLast?.getD []
  if s.isEmpty then none
  else
    match t.entry (Path.ofText s) with
    | .ok .directory => some .directory
    | .ok (.file text) => if last = [] || last = ['.'] then none else some (.file text)
    | .error _ => none

/-- The text of a file, with all its line ends made line feeds. -/
def read (t : FileTree) (p : Path) : Except Fault String := do
  match ← t.entry p with
  | .file text => return .ofList (Text.unixLines text.toList)
  | .directory => throw .isDirectory

/-- The names that lead to `place` from the directory at `top`. -/
def namesBelow? (top place : List String) : Option (List String) :=
  if top.isPrefixOf place then some (place.drop top.length) else none

/-- The paths of all files in a directory and in those below it, in order; a file has none. -/
def filesBelow (t : FileTree) (p : Path) : List Path :=
  match t.resolveFrom [] p.names with
  | .ok top =>
    match t.entryAt top with
    | .ok .directory =>
      (t.files.filterMap fun f => (namesBelow? top f.1).map p.below).mergeSort Path.le
    | _ => []
  | .error _ => []

/-- The place to which the directories named lead, which can be made where they are not there. -/
def directoriesFrom (t : FileTree) (place : List String) : List String →
    Except Fault (List String)
  | [] => .ok place
  | name :: names =>
    let next := stepFrom place name
    if (t.fileAt? next).isSome then .error (if names.isEmpty then .fileExists else .notDirectory)
    else directoriesFrom t next names

/-- Writes a file, after making the directories on its path. -/
def write (t : FileTree) (p : Path) (text : String) : Except Fault FileTree := do
  let place := stepFrom (← t.directoriesFrom [] p.names.dropLast) (p.names.getLast?.getD "..")
  if t.isDirectory place then throw .isDirectory
  else return { t with files := t.files.filter (·.1 != place) ++ [(place, text)] }

end FileTree

end Jenkinsfile
