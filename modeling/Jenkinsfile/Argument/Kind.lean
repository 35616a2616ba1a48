import Jenkinsfile.Table

/-! The kinds of arguments, and the registry that tells the kind of a type's name. -/

namespace Jenkinsfile

/-- The kinds whose values are maps with certain texts in them. -/
inductive RecordKind where
  | codeRepository
  | imageRepository
  | dockerImageRepository
  | container
  | applicationContainer
  | toolBinding
  deriving DecidableEq

namespace RecordKind

/-- The name of a kind's own type. -/
def typeId : RecordKind → String
  | .codeRepository => "pipegen.io/coderepositorymix"
  | .imageRepository => "pipegen.io/imagerepositorymix"
  | .dockerImageRepository => "pipegen.io/dockerimagerepositorymix"
  | .container => "pipegen.io/newk8scontainermix"
  | .applicationContainer => "pipegen.io/v1newk8scontainermix"
  | .toolBinding => "pipegen.io/toolbinding"

/-- The texts that a value of the kind has to have. -/
def requiredFields : RecordKind → List String
  | .codeRepository => ["url", "kind", "credentialId"]
  | .imageRepository => ["registry", "repository"]
  | .dockerImageRepository => ["repositoryPath", "credentialId", "tag"]
  | .container => ["clusterName", "serviceName", "containerName", "namespace"]
  | .applicationContainer =>
    ["clusterName", "namespace", "applicationName", "componentName", "componentType",
      "containerName"]
  | .toolBinding => ["name"]

end RecordKind

/-- The kinds of arguments. -/
inductive ArgumentKind where
  | string
  | boolean
  | int
  | object
  | array
  | record (k : RecordKind)
  | environment
  deriving DecidableEq

/-- The name of a kind's own type, whatever other names it goes by. -/
def ArgumentKind.typeId : ArgumentKind → String
  | .string => "string"
  | .boolean => "boolean"
  | .int => "int"
  | .object => "object"
  | .array => "array"
  | .record k => k.typeId
  | .environment => "pipegen.io/k8senv"

/-- The kinds under the names of types. -/
abbrev Registry := Table ArgumentKind

/-- The kinds that there are. -/
def ArgumentKind.all : List ArgumentKind :=
  [.string, .boolean, .int, .object, .array, .record .codeRepository, .record .imageRepository,
    .record .dockerImageRepository, .record .container, .record .applicationContainer,
    .record .toolBinding, .environment]

/-- Every kind under the name of its own type. -/
def Registry.standard : Registry := ArgumentKind.all.map fun k => (k.typeId, k)

end Jenkinsfile
