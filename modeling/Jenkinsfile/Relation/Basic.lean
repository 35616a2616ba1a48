import Jenkinsfile.Failure
import Jenkinsfile.Relation.Condition

/-! Relations: whether an argument or a task is shown, as far as other arguments' values decide
it. -/

namespace Jenkinsfile

/-- What a relation does when its condition holds. -/
inductive Action where
  | shown
  | hidden
  deriving DecidableEq

namespace Action

/-- The name of an action. -/
def label : Action → String
  | .shown => "show"
  | .hidden => "hidden"

/-- The action of a name. -/
def ofLabel? (s : String) : Option Action :=
  if s = "show" then some .shown else if s = "hidden" then some .hidden else none

/-- The other action. -/
def negate : Action → Action
  | .shown => .hidden
  | .hidden => .shown

end Action

/-- One entry of a relation: the name of an action, and the condition under which it is taken. -/
structure RelationEntry where
  action : String
  condition : Option Condition

namespace RelationEntry

/-- The action that the entry names. -/
def action? (e : RelationEntry) : Except Error Action :=
  match Action.ofLabel? e.action with
  | some a => .ok a
  | none => .error (.definition ("not support relation action `" ++ e.action ++ "`"))

/-- An entry names an action and has a condition that is well formed. -/
def check (e : RelationEntry) : Except Error Unit :=
  let condition := match e.condition with
    | none => .error (.definition "relation when should not be nil")
    | some c => c.check
  Error.raise (Error.collect [e.action?.map fun _ => (), condition])

/-- Whether the entry, taken alone, has its owner shown. -/
def visible (e : RelationEntry) (values : Table Value) : Except Failure Bool := do
  let action ← Failure.ofError e.action?
  match e.condition with
  | none => pure true
  | some c =>
    if c.isEmpty then pure true
    else
      let holds ← Failure.ofText (c.holds values)
      pure ((if holds then action else action.negate) == .shown)

end RelationEntry

/-- The entries of a relation in order. -/
structure Relation where
  entries : List RelationEntry

namespace Relation

/-- The errors of the entries from position `i` on; an action must not come twice, and `seen` are
those before. -/
def entryErrors (i : Nat) (seen : List String) : List RelationEntry → List Error
  | [] => []
  | e :: entries =>
    let own := Error.collect [e.check]
    let double :=
      if seen.contains e.action then
        [Error.definition ("relation[" ++ toString i ++ "]: duplicated relation action `" ++
          e.action ++ "`")]
      else []
    own ++ double ++ entryErrors (i + 1) (e.action :: seen) entries

/-- Every entry is well formed and no action comes twice. -/
def check (r : Relation) : Except Error Unit := Error.raise (entryErrors 0 [] r.entries)

/-- The entry that decides: the last one that shows if there are several actions, and the first one
if there is one action.  No entry decides if there is none, or if none of several shows. -/
def deciding? (r : Relation) : Option RelationEntry :=
  match r.entries with
  | [] => none
  | first :: rest =>
    if rest.all (·.action == first.action) then some first
    else r.entries.reverse.find? (·.action == Action.shown.label)

/-- Whether the owner of the relation is shown. -/
def visible (r : Relation) (values : Table Value) : Except Failure Bool :=
  match r.deciding? with
  | none => .ok true
  | some e => e.visible values

/-- Whether the owner of an optional relation is shown; without a relation it always is. -/
def visible? (r : Option Relation) (values : Table Value) : Except Failure Bool :=
  match r with
  | none => .ok true
  | some r => r.visible values

end Relation

end Jenkinsfile
