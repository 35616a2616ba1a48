import Jenkinsfile.Failure
import Jenkinsfile.Yaml.Token

/-! Nodes: the structure of a YAML document, with what its aliases stand for put in their place. -/

namespace Jenkinsfile.Yaml

/-- A scalar, a sequence or a mapping.  A scalar is plain if it is written without quotes and not as
a block. -/
inductive Node where
  | scalar (text : String) (plain : Bool)
  | sequence (items : List Node)
  | mapping (entries : List (Node × Node))

/-- What stands where a node is left out. -/
def Node.empty : Node := .scalar "" true

/-- The nodes under anchors; there is none yet under the anchor of a collection that is still being
read. -/
abbrev Anchors := Table (Option Node)

/-- Reading from the tokens that are left, with the anchors set so far. -/
abbrev NodeReader := StateT (List Token × Anchors) (Except DataFault)

namespace NodeReader

/-- The next token. -/
def peek : NodeReader (Option Token) := do return (← get).1.head?

/-- Goes on to the token after the next one. -/
def advance : NodeReader Unit := modify fun s => (s.1.tail, s.2)

/-- Fails at the next token. -/
def refuse {α : Type} : NodeReader α := do
  if (← peek) == some .broken then throw .badToken else throw .badStructure

/-- Whether the next token is `t`; if it is, goes on to the one after it. -/
def accept (t : Token) : NodeReader Bool := do
  if (← peek) == some t then
    advance
    return true
  else return false

/-- Reads a node, unless it is left out before one of the tokens `ts`. -/
def unlessNext (ts : List Token) (read : NodeReader Node) : NodeReader Node := do
  match ← peek with
  | some t => if ts.contains t then return .empty else read
  | none => read

/-- The node that an alias stands for. -/
def resolve (name : String) : NodeReader Node := do
  match (← get).2.get? name with
  | some (some node) => return node
  | _ => throw .badReference

/-- Puts a node under an anchor, if there is one. -/
def anchored (name : Option String) (node : Node) : NodeReader Node := do
  if let some name := name then modify fun s => (s.1, s.2.insert name (some node))
  return node

/-- Reserves an anchor that no other node of the document may have. -/
def reserve (name : Option String) : NodeReader Unit := do
  if let some name := name then
    if (← get).2.has name then throw .badReference
    modify fun s => (s.1, s.2.insert name none)

/-- The anchor before a node. -/
def anchor : NodeReader (Option String) := do
  match ← peek with
  | some (.anchor name) =>
    advance
    return some name
  | _ => return none

/-- Whether a comma separates the next item from those before it; none has to if it is the first. -/
def separated (first : Bool) : NodeReader Bool := if first then return true else accept .comma

/-- The empty node that an anchor may stand before. -/
def bare (name : Option String) : NodeReader Node := do
  if name.isNone || (← peek) == some .broken then refuse
  else
    reserve name
    anchored name .empty

mutual

/-- A node.  Outside brackets it may be a block collection, and, if `dashes` holds, a sequence that
is no further in than what holds it. -/
def node : (fuel : Nat) → (block dashes : Bool) → NodeReader Node
  | 0, _, _ => refuse
  | fuel + 1, block, dashes => do
    match ← peek with
    | some (.alias name) =>
      advance
      resolve name
    | _ =>
      let name ← anchor
      match ← peek with
      | some (.scalar text plain) =>
        reserve name
        advance
        anchored name (.scalar text plain)
      | some .openSequence =>
        reserve name
        advance
        anchored name (.sequence (← flowItems fuel true))
      | some .openMapping =>
        reserve name
        advance
        anchored name (.mapping (← flowEntries fuel true))
      | some .entry =>
        if dashes then
          reserve name
          anchored name (.sequence (← dashedItems fuel))
        else bare name
      | some .blockSequence =>
        if block then
          reserve name
          advance
          anchored name (.sequence (← blockItems fuel))
        else bare name
      | some .blockMapping =>
        if block then
          reserve name
          advance
          anchored name (.mapping (← blockEntries fuel))
        else bare name
      | _ => bare name

/-- The entries of a block sequence from the next one on. -/
def blockItems : (fuel : Nat) → NodeReader (List Node)
  | 0 => refuse
  | fuel + 1 => do
    if ← accept .entry then
      let item ← unlessNext [.entry, .blockEnd] (node fuel true false)
      return item :: (← blockItems fuel)
    else if ← accept .blockEnd then return []
    else refuse

/-- The entries from the next one on of a sequence that is no further in than what holds it. -/
def dashedItems : (fuel : Nat) → NodeReader (List Node)
  | 0 => refuse
  | fuel + 1 => do
    if ← accept .entry then
      let item ← unlessNext [.entry, .key, .value, .blockEnd] (node fuel true false)
      return item :: (← dashedItems fuel)
    else return []

/-- The entries of a block mapping from the next one on. -/
def blockEntries : (fuel : Nat) → NodeReader (List (Node × Node))
  | 0 => refuse
  | fuel + 1 => do
    if ← accept .key then
      let key ← unlessNext [.key, .value, .blockEnd] (node fuel true true)
      let value ←
        if ← accept .value then unlessNext [.key, .value, .blockEnd] (node fuel true true)
        else pure .empty
      return (key, value) :: (← blockEntries fuel)
    else if ← accept .blockEnd then return []
    else refuse

/-- The key after its token, and the value, of an entry in brackets that `close` closes. -/
def flowPair : (fuel : Nat) → (close : Token) → NodeReader (Node × Node)
  | 0, _ => refuse
  | fuel + 1, close => do
    let key ← unlessNext [.value, .comma, close] (node fuel false false)
    let value ←
      if ← accept .value then unlessNext [.comma, close] (node fuel false false)
      else pure .empty
    return (key, value)

/-- The items of a sequence in brackets from the next one on; an item with a key is a mapping of one
entry. -/
def flowItems : (fuel : Nat) → (first : Bool) → NodeReader (List Node)
  | 0, _ => refuse
  | fuel + 1, first => do
    if ← accept .closeSequence then return []
    else if !(← separated first) then refuse
    else if ← accept .key then
      let pair ← flowPair fuel .closeSequence
      return .mapping [pair] :: (← flowItems fuel false)
    else if ← accept .closeSequence then return []
    else
      let item ← node fuel false false
      return item :: (← flowItems fuel false)

/-- The entries of a mapping in brackets from the next one on; a value may be left out. -/
def flowEntries : (fuel : Nat) → (first : Bool) → NodeReader (List (Node × Node))
  | 0, _ => refuse
  | fuel + 1, first => do
    if ← accept .closeMapping then return []
    else if !(← separated first) then refuse
    else if ← accept .key then
      let pair ← flowPair fuel .closeMapping
      return pair :: (← flowEntries fuel false)
    else if ← accept .closeMapping then return []
    else
      let key ← node fuel false false
      return (key, .empty) :: (← flowEntries fuel false)

end

/-- The directives before a document; `seen` tells whether one has given the version, which has to
be 1. -/
def directives (seen : Bool) : (fuel : Nat) → NodeReader Unit
  | 0 => refuse
  | fuel + 1 => do
    match ← peek with
    | some (.directive version) =>
      if version.isSome && (seen || version != some 1) then throw .badStructure
      else
        advance
        directives (seen || version.isSome) fuel
    | _ => return ()

/-- The start of a document that is marked as one. -/
def documentStart (fuel : Nat) : NodeReader Unit := do
  directives false fuel
  if !(← accept .documentStart) then refuse

/-- The marks at the end of a document. -/
def documentEnds : (fuel : Nat) → NodeReader Unit
  | 0 => return ()
  | fuel + 1 => do
    if ← accept .documentEnd then documentEnds fuel

/-- The node of the only document, if there is a document. -/
def onlyDocument (fuel : Nat) : NodeReader (Option Node) := do
  let explicit ← match ← peek with
    | none => return none
    | some (.directive _) | some .documentStart => do
      documentStart fuel
      pure true
    | _ => pure false
  let omitted ← match ← peek with
    | none | some (.directive _) | some .documentStart | some .documentEnd => pure explicit
    | _ => pure false
  let root ← if omitted then pure .empty else node fuel true false
  documentEnds fuel
  if (← peek).isSome then
    documentStart fuel
    throw .secondDocument
  return some root

end NodeReader

/-- The node of the only document of a text, if the text has a document. -/
def Node.ofText (cs : List Char) : Except DataFault (Option Node) := do
  let ts := tokens cs
  let (root, _) ← (NodeReader.onlyDocument (2 * ts.length + 2)).run (ts, [])
  return root

end Jenkinsfile.Yaml
