import Jenkinsfile.Json.Writer
import Jenkinsfile.Value.Inspect

/-! The text of a value inside a script. -/

namespace Jenkinsfile.Value

/-- The text that stands for a value in a script: nothing for null, lower case for truth values, and
JSON for lists and maps. -/
def scriptText : Value → Except TextFault String
  | .null => .ok ""
  | .bool b => .ok (if b then "true" else "false")
  | .list items => Json.write Json.compact (.list items)
  | .map entries => Json.write Json.compact (.map entries)
  | .str s => .ok s
  | .int n => intText n
  | .float x => .ok (Decimal.plainSpelling.write x)
  | .other o => .ok o.text

end Jenkinsfile.Value
