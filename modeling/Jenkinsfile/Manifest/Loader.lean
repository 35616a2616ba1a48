import Jenkinsfile.Manifest.Basic
import Jenkinsfile.Settings
import Jenkinsfile.Template.Basic

/-! Manifests and values read from texts, and the templates in manifests.  How a text gives data, and
how data gives a record, is left to a loader. -/

namespace Jenkinsfile

open Shape

/-- What reads the data of texts, and the records that manifests, templates and settings are from
data. -/
class Loader where
  data : String → Except Fault Value
  manifest : Value → Reading Manifest
  pipelineTemplate : Value → Reading PipelineTemplate
  taskTemplate : Value → Reading TaskTemplate
  settings : Value → Reading Settings

variable [Loader]

/-- The data of a text, which has to be a map or nothing; `source` is what the text is called in
messages. -/
def readTable (text source : String) : Except Failure (Table Value) :=
  match Loader.data text with
  | .ok .null => .ok []
  | .ok (.map t) => .ok t
  | .ok v =>
    .error (.error (.definition (source ++ " should contain a mapping, got " ++ v.typeName)))
  | .error (.data _) => .error (.error (.definition ("invalid yaml in " ++ source)))
  | .error f => .error (.fault f)

/-- How many differences there are, in messages. -/
def countErrors (ms : List Mismatch) : String := toString ms.length ++ " error(s)"

namespace Manifest

/-- The manifest of a text. -/
def ofText (text source : String) : Except Failure Manifest := do
  match Loader.manifest (.map (← readTable text source)) with
  | .ok m => return m
  | .failed ms =>
    throw (.error (.definition (source ++ " is not a valid manifest: " ++ countErrors ms)
      [("errors", .mismatches ms)]))

/-- The template of a manifest that is of the kind `kind`. -/
def template {α : Type} (m : Manifest) (kind : TemplateKind) (read : Value → Reading α) :
    Except Error α :=
  if m.kind != kind.label then
    .error (.definition ("resource " ++ m.name ++ " is a " ++
      (if m.kind.isEmpty then "resource without kind" else m.kind) ++ ", expected " ++ kind.label))
  else
    match read (.map (m.spec.getD [])) with
    | .ok a => .ok a
    | .failed ms =>
      .error (.definition ("spec of " ++ (if m.name.isEmpty then "resource" else m.name) ++
        " is malformed: " ++ countErrors ms) [("errors", .mismatches ms)])

/-- The pipeline template of a manifest. -/
def pipelineTemplate (m : Manifest) : Except Error PipelineTemplate :=
  m.template .pipeline Loader.pipelineTemplate

/-- The task template of a manifest. -/
def taskTemplate (m : Manifest) : Except Error TaskTemplate := m.template .task Loader.taskTemplate

end Manifest

end Jenkinsfile
