import Jenkinsfile.Value.Basic

/-! Manifests: the envelopes in which templates are kept, with their kind, name and version. -/

namespace Jenkinsfile

/-- The version of the envelope. -/
def apiVersion : String := "pipegen.io/v1alpha1"

/-- The kinds of templates that a manifest can hold. -/
inductive TemplateKind where
  | pipeline
  | task
  deriving DecidableEq

/-- The name of a kind in manifests. -/
def TemplateKind.label : TemplateKind → String
  | .pipeline => "PipelineTemplate"
  | .task => "PipelineTaskTemplate"

/-- The annotation that gives the version of a template. -/
def versionAnnotation : String := "pipegen.io/version"

/-- The annotations that every manifest has. -/
def requiredAnnotations : List String :=
  ["pipegen.io/displayName.zh-CN", "pipegen.io/displayName.en", versionAnnotation]

/-- What a manifest tells of its template. -/
structure Metadata where
  name : String
  space : String
  labels : Table String
  annotations : Table String

/-- The version of the template, empty if there is none. -/
def Metadata.version (m : Metadata) : String := (m.annotations.get? versionAnnotation).getD ""

/-- A manifest.  Its template stays data until it is asked for. -/
structure Manifest where
  apiVersion : String
  kind : String
  metadata : Option Metadata
  spec : Option (Table Value)
  data : Option (Table Value)
  status : Option (Table Value)

/-- The name of the template, empty if there is none. -/
def Manifest.name (m : Manifest) : String := (m.metadata.map Metadata.name).getD ""

end Jenkinsfile
