import Jenkinsfile.Argument.Check

/-! Checks of declarations of arguments. -/

namespace Jenkinsfile.Argument

/-- The display type of texts that are chosen among integrations. -/
def integrationDisplay : String := "pipegen.io/integration"

/-- The display type is that of the kind itself. -/
def checkDisplayType (a : Argument) (typeId : String) : Except Error Unit :=
  let displayType := (a.display.map Display.type).getD ""
  if displayType = typeId then .ok ()
  else
    .error (.definition (a.name ++ ".display.type should be " ++ typeId)
      [("displayType", .value (.str displayType))])

/-- What a declaration of a kind other than a list has to have beside what all have. -/
def checkSingleDefinition (a : Argument) (k : ArgumentKind) : Except Error Unit :=
  match k with
  | .string =>
    match a.display with
    | some d =>
      if d.type = integrationDisplay && !d.args.has "types" then
        .error (.definition (a.name ++ ".display.args require key \"types\""))
      else .ok ()
    | none => .ok ()
  | .boolean | .int | .object | .array => .ok ()
  | .record k => a.checkDisplayType k.typeId
  | .environment => a.checkDisplayType k.typeId

/-- A declaration of a list tells the type of its items, which are no lists.  If another name for
lists makes them lists all the same, the check of the items would never end. -/
def checkListDefinition (reg : Registry) (a : Argument) : Except Failure Unit :=
  match a.itemTypeName? with
  | none => .error (.error (.definition (a.name ++ ".schema.items should not be nil")))
  | some items =>
    if items = ArgumentKind.array.typeId then
      .error (.error (.definition (a.name ++ ".schema.items.type=" ++ items ++
        " is not support, nested arrays are not allowed")))
    else
      match a.itemKind reg with
      | .error e => .error (.error e)
      | .ok .array => .error (.fault .endlessItems)
      | .ok k => Failure.ofError (a.checkSingleDefinition k)

/-- What a declaration of a kind has to have beside what all have. -/
def checkKindDefinition (reg : Registry) (a : Argument) (k : ArgumentKind) :
    Except Failure Unit :=
  match k with
  | .array => a.checkListDefinition reg
  | k => Failure.ofError (a.checkSingleDefinition k)

/-- A path that leads a value to a task has at least two segments, three if it leads to the task's
arguments, and none is empty. -/
def checkBinding (name path : String) : Except Error Unit :=
  let segments := Text.splitOn ['.'] path.toList
  let refuse (reason : String) : Except Error Unit :=
    .error (.definition (name ++ ".binding `" ++ path ++ "` is invalid, " ++ reason)
      [("binding", .value (.str path))])
  if segments.length < 2 || segments.any List.isEmpty then
    refuse "it should be like `task.args.field`"
  else if segments[1]? = some "args".toList && segments.length < 3 then
    refuse "`args` binding should be `task.args.field`"
  else .ok ()

/-- The parts that every declaration has to have, and the kind of the argument. -/
def checkParts (reg : Registry) (a : Argument) : Except Error ArgumentKind :=
  if Text.isAllBlank a.name then .error (.definition "name should not be empty")
  else if a.schema.isNone then .error (.definition (a.name ++ ".schema is required"))
  else do
    let k ← a.kind reg
    match a.display with
    | none => .error (.definition (a.name ++ ".display is required"))
    | some d =>
      if d.type.isEmpty then .error (.definition (a.name ++ ".display.type is required"))
      else if d.name.chinese.isEmpty then
        .error (.definition (a.name ++ ".display.name.zh-CN is required"))
      else if d.name.english.isEmpty then
        .error (.definition (a.name ++ ".display.name.en is required"))
      else pure k

/-- A declaration is well formed.  The first missing part is reported alone; with all parts there,
the errors of bindings, relation and kind are reported together. -/
def check (reg : Registry) (a : Argument) : Except Failure Unit := do
  let k ← Failure.ofError (a.checkParts reg)
  let bindings := a.bindings.map fun path => Failure.ofError (checkBinding a.name path)
  let relation := a.relation.toList.map fun r => Failure.ofError r.check
  Failure.raise (bindings ++ relation ++ [a.checkKindDefinition reg k])

/-- The checks of declarations, each followed by that of its name, which no argument before has;
`seen` are the names before. -/
def definitionChecks (reg : Registry) (seen : List String) :
    List Argument → List (Except Failure Unit)
  | [] => []
  | a :: args =>
    let double :=
      if !a.name.isEmpty && seen.contains a.name then
        [.error (.error (.definition ("argument name `" ++ a.name ++ "` is duplicated")))]
      else []
    a.check reg :: double ++ definitionChecks reg (a.name :: seen) args

/-- The errors of declarations, in order. -/
def definitionErrors (reg : Registry) (args : List Argument) : Except Fault (List Error) :=
  Failure.collect (definitionChecks reg [] args)

end Jenkinsfile.Argument
