import Jenkinsfile.Relation.Basic
import Jenkinsfile.Shape.Reading

/-! Relations read from data. -/

namespace Jenkinsfile

open Shape

/-- Reads a test of a condition. -/
def ValueTest.read : Value → Reading ValueTest :=
  record "RelationWhenItem" fun t =>
    ValueTest.mk <$> optional t "name" [] text "" <*> optional t "value" [] Shape.any .null

/-- Reads a condition. -/
def Condition.read : Value → Reading Condition :=
  record "RelationWhen" fun t =>
    Condition.mk <$> optional t "name" [] text "" <*> optional t "value" [] Shape.any .null <*>
      optional t "all" ["all_"] (nullable (list ValueTest.read)) none <*>
      optional t "any" ["any_"] (nullable (list ValueTest.read)) none

/-- Reads an entry of a relation. -/
def RelationEntry.read : Value → Reading RelationEntry :=
  record "RelationItem" fun t =>
    RelationEntry.mk <$> required t "action" text <*>
      optional t "when" [] (nullable Condition.read) none

/-- Reads a relation. -/
def Relation.read (v : Value) : Reading Relation := Relation.mk <$> list RelationEntry.read v

end Jenkinsfile
