import Jenkinsfile.Relation.Shape
import Jenkinsfile.Shape.Scalar

/-! Declarations of arguments: their type, their place in tasks, and how they are shown and
checked. -/

namespace Jenkinsfile

open Shape

/-- A text in two languages. -/
structure LocalizedText where
  chinese : String
  english : String

/-- Limits of a text argument; a length of zero is no limit, and neither is an empty pattern. -/
structure Validation where
  pattern : String
  maxLength : Int

/-- The type of an argument, and for lists the type of the items. -/
structure ArgumentSchema where
  type : String
  items : Option String

/-- How an argument is shown. -/
structure Display where
  type : String
  name : LocalizedText
  args : Table Value
  description : Option LocalizedText

/-- One declared argument.  Its bindings lead the value to tasks. -/
structure Argument where
  name : String
  bindings : List String
  schema : Option ArgumentSchema
  required : Bool
  default : Value
  validation : Option Validation
  display : Option Display
  relation : Option Relation

/-- Arguments under one title. -/
structure ArgumentSection where
  title : LocalizedText
  arguments : List Argument

namespace Argument

/-- The name of the argument's type, empty if it has no schema. -/
def typeName (a : Argument) : String := (a.schema.map ArgumentSchema.type).getD ""

/-- The name of the type of the argument's items, if its schema tells. -/
def itemTypeName? (a : Argument) : Option String := a.schema.bind ArgumentSchema.items

/-- Whether the argument is shown. -/
def visible (a : Argument) (values : Table Value) : Except Failure Bool :=
  Relation.visible? a.relation values

end Argument

/-- The arguments of all sections in order. -/
def ArgumentSection.allArguments (sections : List ArgumentSection) : List Argument :=
  sections.flatMap ArgumentSection.arguments

/-- The declared defaults; an argument without a default is left out. -/
def Argument.defaults (args : List Argument) : Table Value :=
  Table.ofEntries ((args.filter fun a => !a.default.isNull).map fun a => (a.name, a.default))

/-- Reads a text in two languages. -/
def LocalizedText.read : Value → Reading LocalizedText :=
  record "LocalizedText" fun t =>
    LocalizedText.mk <$> optional t "zh-CN" ["zh_cn"] text "" <*> optional t "en" [] text ""

/-- Reads limits. -/
def Validation.read : Value → Reading Validation :=
  record "ArgValidation" fun t =>
    Validation.mk <$> optional t "pattern" [] text "" <*>
      optional t "maxLength" ["max_length"] int 0

/-- Reads the type of items. -/
def ArgumentSchema.readItems : Value → Reading String :=
  record "ArgSchemaItems" fun t => optional t "type" [] text ""

/-- Reads a schema. -/
def ArgumentSchema.read : Value → Reading ArgumentSchema :=
  record "ArgSchema" fun t =>
    ArgumentSchema.mk <$> optional t "type" [] text "" <*>
      optional t "items" [] (nullable ArgumentSchema.readItems) none

/-- Reads how an argument is shown. -/
def Display.read : Value → Reading Display :=
  record "ArgDisplay" fun t =>
    Display.mk <$> optional t "type" [] text "" <*>
      optional t "name" [] LocalizedText.read ⟨"", ""⟩ <*>
      optional t "args" [] (map any) [] <*>
      optional t "description" [] (nullable LocalizedText.read) none

/-- Reads a declaration. -/
def Argument.read : Value → Reading Argument :=
  record "ArgItem" fun t =>
    Argument.mk <$> optional t "name" [] text "" <*> optional t "binding" [] (list text) [] <*>
      optional t "schema" ["schema_"] (nullable ArgumentSchema.read) none <*>
      optional t "required" [] bool false <*> optional t "default" [] any .null <*>
      optional t "validation" [] (nullable Validation.read) none <*>
      optional t "display" [] (nullable Display.read) none <*>
      optional t "relation" [] (nullable Relation.read) none

/-- Reads a section. -/
def ArgumentSection.read : Value → Reading ArgumentSection :=
  record "ArgSection" fun t =>
    ArgumentSection.mk <$> optional t "displayName" ["display_name"] LocalizedText.read ⟨"", ""⟩ <*>
      optional t "items" [] (list Argument.read) []

end Jenkinsfile
