import Jenkinsfile.Manifest.Loader
import Jenkinsfile.Template.Shape
import Jenkinsfile.Yaml.Document

/-! Manifests read from data, and the loader that the program runs with. -/

namespace Jenkinsfile

open Shape

/-- Reads what a manifest tells of its template. -/
def Metadata.read : Value → Reading Metadata :=
  record "Metadata" fun t =>
    Metadata.mk <$> optional t "name" [] text "" <*> optional t "namespace" [] text "" <*>
      optional t "labels" [] (map text) [] <*> optional t "annotations" [] (map text) []

/-- Reads a manifest. -/
def Manifest.read : Value → Reading Manifest :=
  record "Resource" fun t =>
    Manifest.mk <$> optional t "apiVersion" ["api_version"] text "" <*>
      optional t "kind" [] text "" <*> optional t "metadata" [] (nullable Metadata.read) none <*>
      optional t "spec" [] (nullable (map any)) none <*>
      optional t "data" [] (nullable (map any)) none <*>
      optional t "status" [] (nullable (map any)) none

/-- The loader of texts in YAML. -/
@[reducible] def Loader.yaml : Loader where
  data := Yaml.read
  manifest := Manifest.read
  pipelineTemplate := PipelineTemplate.read
  taskTemplate := TaskTemplate.read
  settings := Settings.read

end Jenkinsfile
