import Jenkinsfile.Value.Inspect
import Jenkinsfile.Yaml.Node
import Jenkinsfile.Yaml.Scalar

/-! The value of a YAML text.  The entries of the mappings that a mapping merges come before its
own, and of two entries under one key the later one wins. -/

namespace Jenkinsfile.Yaml

/-- Whether a node is the key of a merge. -/
def Node.isMerge : Node → Bool
  | .scalar "<<" true => true
  | _ => false

/-- The key that a node gives: its text, or the text of its value. -/
def Node.keyText : Node → Except Fault String
  | .scalar text plain =>
    if plain && text != "=" then do
      match (← plainValue text).text with
      | .ok key => return key
      | .error f => throw (.text f)
    else .ok text
  | _ => .error (.data .badValue)

mutual

/-- The value of a node. -/
def Node.value : Node → Except Fault Value
  | .scalar text plain => if plain then plainValue text else .ok (.str text)
  | .sequence items => do return .list (← valuesOf items)
  | .mapping entries => do
    let (merged, own) ← entriesOf entries
    return .map (Table.ofEntries (merged ++ own))

/-- The values of nodes. -/
def valuesOf : List Node → Except Fault (List Value)
  | [] => .ok []
  | n :: nodes => do return (← n.value) :: (← valuesOf nodes)

/-- The entries that a mapping merges, and its own. -/
def entriesOf : List (Node × Node) → Except Fault (Table Value × Table Value)
  | [] => .ok ([], [])
  | (key, v) :: entries => do
    if key.isMerge then
      let first ← mergedEntries v
      let (merged, own) ← entriesOf entries
      return (first ++ merged, own)
    else
      let first := (← key.keyText, ← v.value)
      let (merged, own) ← entriesOf entries
      return (merged, first :: own)

/-- The entries that a node gives to a mapping that merges it: those of a mapping, or those of every
mapping in a sequence, of which the earlier ones win. -/
def mergedEntries : Node → Except Fault (Table Value)
  | .mapping entries => do
    let (merged, own) ← entriesOf entries
    return merged ++ own
  | .sequence items => mergedItems items
  | .scalar _ _ => .error (.data .badValue)

/-- The entries of mappings, those of the last mapping first. -/
def mergedItems : List Node → Except Fault (Table Value)
  | [] => .ok []
  | .mapping entries :: items => do
    let (merged, own) ← entriesOf entries
    return (← mergedItems items) ++ (merged ++ own)
  | _ :: _ => .error (.data .badValue)

end

/-- Whether `c` may stand in a text. -/
def isReadable (c : Char) : Bool :=
  let n := c.toNat
  n == 9 || n == 10 || n == 13 || (0x20 ≤ n && n ≤ 0x7e) || n == 0x85 ||
    (0xa0 ≤ n && n != 0xfffe && n != 0xffff)

/-- The value of the only document of a text, and null if there is no document. -/
def read (s : String) : Except Fault Value := do
  let cs := s.toList
  if !cs.all isReadable then .error (.data .unreadable)
  else
    match Node.ofText cs with
    | .error d => .error (.data d)
    | .ok none => .ok .null
    | .ok (some root) => root.value

end Jenkinsfile.Yaml
