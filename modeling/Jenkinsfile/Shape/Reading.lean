import Jenkinsfile.Shape.Mismatch
import Jenkinsfile.Text.Blank

/-! Reading typed data from dynamic values.  A reading of several parts reports the differences of
all of them, in the order of the parts. -/

namespace Jenkinsfile.Shape

/-- Typed data, or every difference that stands against it. -/
inductive Reading (α : Type u) where
  | ok (a : α)
  | failed (mismatches : List Mismatch)

namespace Reading

variable {α β : Type}

/-- Changes what was read. -/
def map (f : α → β) : Reading α → Reading β
  | .ok a => .ok (f a)
  | .failed ms => .failed ms

/-- Reads two parts and joins their differences. -/
def both (f : Reading (α → β)) (x : Reading α) : Reading β :=
  match f, x with
  | .ok f, .ok a => .ok (f a)
  | .ok _, .failed ms => .failed ms
  | .failed ms, .ok _ => .failed ms
  | .failed ms, .failed ns => .failed (ms ++ ns)

instance : Applicative Reading where
  pure := .ok
  map := map
  seq f x := both f (x ())

/-- One difference at the place of `v` itself. -/
def mismatch (cause : Cause) (v : Value) : Reading α := .failed [⟨[], cause, v⟩]

/-- The reading of a part, told from the whole. -/
def under (s : Step) : Reading α → Reading α
  | .ok a => .ok a
  | .failed ms => .failed (ms.map (·.under s))

end Reading

open Reading

/-- Reads anything. -/
def any (v : Value) : Reading Value := .ok v

/-- Reads a text; nothing else counts as one. -/
def text : Value → Reading String
  | .str s => .ok s
  | v => mismatch .notText v

/-- Reads null as nothing and anything else by `read`. -/
def nullable {α : Type} (read : Value → Reading α) : Value → Reading (Option α)
  | .null => .ok none
  | v => (read v).map some

/-- Reads items from position `i` on. -/
def itemsFrom {α : Type} (read : Value → Reading α) (i : Nat) : List Value → Reading (List α)
  | [] => .ok []
  | v :: vs => List.cons <$> (read v).under (.index i) <*> itemsFrom read (i + 1) vs

/-- Reads every item of a list. -/
def list {α : Type} (read : Value → Reading α) : Value → Reading (List α)
  | .list items => itemsFrom read 0 items
  | v => mismatch .notList v

/-- Reads the entries of a table. -/
def entries {α : Type} (read : Value → Reading α) : Table Value → Reading (Table α)
  | [] => .ok []
  | (key, v) :: t => (fun a t => (key, a) :: t) <$> (read v).under (.key key) <*> entries read t

/-- Reads every entry of a map. -/
def map {α : Type} (read : Value → Reading α) : Value → Reading (Table α)
  | .map t => entries read t
  | v => mismatch .notMap v

/-- Reads one of some texts. -/
def member {α : Type} (members : List (String × α)) (v : Value) : Reading α :=
  match v with
  | .str s =>
    match Table.get? members s with
    | some a => .ok a
    | none => mismatch (.notMember (members.map Prod.fst)) v
  | _ => mismatch (.notMember (members.map Prod.fst)) v

/-- Reads a record from a map; `name` is what the record is called in messages. -/
def record {α : Type} (name : String) (read : Table Value → Reading α) (v : Value) : Reading α :=
  match v with
  | .map t => read t
  | _ => mismatch (.notRecord name) v

/-- The first of the keys that has an entry, with the entry. -/
def firstEntry (t : Table Value) : List String → Option (String × Value)
  | [] => none
  | key :: keys =>
    match t.get? key with
    | some v => some (key, v)
    | none => firstEntry t keys

/-- Reads the entry under `key`, or under the first of its other names that has one, and takes
`absent` when there is none. -/
def optional {α : Type} (t : Table Value) (key : String) (others : List String)
    (read : Value → Reading α) (absent : α) : Reading α :=
  match firstEntry t (key :: others) with
  | some (found, v) => (read v).under (.key found)
  | none => .ok absent

/-- Reads the entry under `key`, which has to be there. -/
def required {α : Type} (t : Table Value) (key : String) (read : Value → Reading α) : Reading α :=
  match t.get? key with
  | some v => (read v).under (.key key)
  | none => (mismatch .missing (.map t)).under (.key key)

end Jenkinsfile.Shape
