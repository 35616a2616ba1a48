import Jenkinsfile.Text.Separator
import Jenkinsfile.Value.ScriptText

/-! Values inside the double quotes of a script literal. -/

namespace Jenkinsfile.Script

/-- A text for a place between double quotes: backslashes are escaped first, then quotes. -/
def escape (s : String) : String :=
  .ofList (Text.replaceAll ['"'] ['\\', '"'] (Text.replaceAll ['\\'] ['\\', '\\'] s.toList))

/-- The text of a value for a place between double quotes. -/
def literalText (v : Value) : Except TextFault String := do pure (escape (← v.scriptText))

end Jenkinsfile.Script
