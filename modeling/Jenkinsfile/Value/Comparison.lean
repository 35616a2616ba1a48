import Jenkinsfile.Value.Inspect

/-! The text under which values are compared: values are equal when their texts are. -/

namespace Jenkinsfile.Value

mutual

/-- The text of a value for comparison.  Null is the empty text, truth values are in lower case, and
a number without a fraction has the text of the whole number.  A list joins the texts of its
items. -/
def comparisonText : Value → Except TextFault String
  | .null => .ok ""
  | .bool b => .ok (if b then "true" else "false")
  | .float x =>
    match Decimal.wholeNumber? x with
    | some n => intText n
    | none => .ok (Decimal.plainSpelling.write x)
  | .list items => do pure ("[" ++ " ".intercalate (← comparisonTexts items) ++ "]")
  | .int n => intText n
  | .str s => .ok s
  | .map entries => inspect (.map entries)
  | .other o => .ok o.text

/-- The texts of the items of a list. -/
def comparisonTexts : List Value → Except TextFault (List String)
  | [] => .ok []
  | v :: items => do
    let text ← v.comparisonText
    pure (text :: (← comparisonTexts items))

end

end Jenkinsfile.Value
