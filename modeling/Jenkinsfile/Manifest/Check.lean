import Jenkinsfile.Manifest.Loader
import Jenkinsfile.Pattern.Reader
import Jenkinsfile.Pattern.Search
import Jenkinsfile.Template.Check

/-! Checks of manifests: first of the envelope, and, if there is nothing wrong with it, of the
template. -/

namespace Jenkinsfile

/-- The pattern of names. -/
def nameForm : String := "^[a-zA-Z]([-a-zA-Z0-9]*[a-zA-Z0-9])?$"

/-- Whether the pattern of names, which calls no character by its name, matches a text. -/
def matchesNameForm (name : String) : Bool :=
  match @Pattern.read .unnamed nameForm with
  | .ok p => p.startsText name
  | .error _ => false

namespace Metadata

/-- The error of a name that no template can have. -/
def nameErrors (m : Metadata) : List Error :=
  if matchesNameForm m.name then []
  else
    [.definition ("metadata.name `" ++ m.name ++ "` is invalid, it should match " ++ nameForm)]

/-- The errors of annotations that are missing or empty. -/
def annotationErrors (m : Metadata) : List Error :=
  (requiredAnnotations.filter fun key => ((m.annotations.get? key).getD "").isEmpty).map fun key =>
    .definition ("metadata.annotations[" ++ key ++ "] is required")

/-- The error of a version that does not start with the letter v. -/
def versionErrors (m : Metadata) : List Error :=
  match m.version.toList with
  | [] | 'v' :: _ => []
  | _ =>
    [.definition ("metadata.annotations[" ++ versionAnnotation ++ "] `" ++ m.version ++
      "` should start with v")]

end Metadata

namespace Manifest

/-- The errors of an envelope. -/
def envelopeErrors (m : Manifest) : List Error :=
  let unsupported (what found : String) (supported : List String) : List Error :=
    if supported.contains found then []
    else
      [.definition (what ++ " `" ++ found ++ "` is not supported, supported: " ++
        ", ".intercalate supported)]
  unsupported "apiVersion" m.apiVersion [Jenkinsfile.apiVersion] ++
    unsupported "kind" m.kind ([TemplateKind.pipeline, .task].map TemplateKind.label) ++
    (if m.spec.isNone then [.definition "spec is required"] else []) ++
    match m.metadata with
    | none => [.definition "metadata is required"]
    | some d => d.nameErrors ++ d.annotationErrors ++ d.versionErrors

variable [Loader]

/-- The check of the template in a manifest. -/
def checkTemplate (m : Manifest) : Except Failure Unit := do
  if m.kind == TemplateKind.pipeline.label then (← Failure.ofError m.pipelineTemplate).check
  else (← Failure.ofError m.taskTemplate).check

/-- The envelope is well formed, and so is the template in it. -/
def check (m : Manifest) : Except Failure Unit :=
  if m.envelopeErrors.isEmpty then Failure.raise [m.checkTemplate]
  else Failure.ofError (Error.raise m.envelopeErrors)

end Manifest

end Jenkinsfile
