import Jenkinsfile.Error
import Jenkinsfile.Value.Comparison

/-! Conditions on argument values: a test of one named value, all of several tests, or any of
them. -/

namespace Jenkinsfile

/-- A test that the named value equals `value`. -/
structure ValueTest where
  name : String
  value : Value

/-- The test holds when there is a value of that name and both have one text. -/
def ValueTest.holds (t : ValueTest) (values : Table Value) : Except TextFault Bool :=
  match values.get? t.name with
  | some v => do
    let text ← v.comparisonText
    pure (text == (← t.value.comparisonText))
  | none => .ok false

/-- Whether each of several tests holds. -/
def ValueTest.outcomes (values : Table Value) : List ValueTest → Except TextFault (List Bool)
  | [] => .ok []
  | t :: tests => do
    let b ← t.holds values
    pure (b :: (← outcomes values tests))

/-- A condition in one of three forms; `name` is empty in the other two. -/
structure Condition where
  name : String
  value : Value
  all : Option (List ValueTest)
  any : Option (List ValueTest)

namespace Condition

/-- The tests under `all`. -/
def allTests (c : Condition) : List ValueTest := c.all.getD []

/-- The tests under `any`. -/
def anyTests (c : Condition) : List ValueTest := c.any.getD []

/-- Whether the condition has no test. -/
def isEmpty (c : Condition) : Bool :=
  c.name.isEmpty && c.allTests.isEmpty && c.anyTests.isEmpty

/-- The number of forms in which the condition is given. -/
def forms (c : Condition) : Nat :=
  c.all.isSome.toNat + c.any.isSome.toNat + (!c.name.isEmpty).toNat

/-- The errors of tests without a name; `key` says where the tests stand. -/
def namelessTests (key : String) (i : Nat) : List ValueTest → List Error
  | [] => []
  | t :: tests =>
    let rest := namelessTests key (i + 1) tests
    if t.name.isEmpty then
      .definition ("relation.when." ++ key ++ "[" ++ toString i ++ "].name should not be empty") ::
        rest
    else rest

/-- A condition is given in one form at most, and every test in a list has a name. -/
def check (c : Condition) : Except Error Unit :=
  if c.forms > 1 then
    .error (.definition
      "not support multi relation when, you can only set `name and value` or `all` or `any`")
  else Error.raise (namelessTests "all" 0 c.allTests ++ namelessTests "any" 0 c.anyTests)

/-- Whether the condition holds: that of all tests if there are any, else that of some test if there
are any, else that of the named test; one without a test holds.  Every test of a list is made,
whatever the others say. -/
def holds (c : Condition) (values : Table Value) : Except TextFault Bool :=
  if !c.allTests.isEmpty then do pure ((← ValueTest.outcomes values c.allTests).all id)
  else if !c.anyTests.isEmpty then do pure ((← ValueTest.outcomes values c.anyTests).any id)
  else if !c.name.isEmpty then ValueTest.holds ⟨c.name, c.value⟩ values
  else .ok true

end Condition

end Jenkinsfile
