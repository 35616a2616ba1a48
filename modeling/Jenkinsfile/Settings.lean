import Jenkinsfile.Shape.Scalar

/-! Settings of the output. -/

namespace Jenkinsfile

open Shape

/-- Settings shared by the rendering of pipelines and the layout of scripts. -/
structure Settings where
  indentWidth : Int
  buildRetention : Int
  disableConcurrentBuilds : Bool
  format : Bool

/-- The settings where nothing else is set. -/
def Settings.standard : Settings := ⟨4, 200, true, true⟩

/-- Reads settings. -/
def Settings.read : Value → Reading Settings :=
  record "RenderSettings" fun t =>
    Settings.mk <$> optional t "indent_spaces" [] (intFrom 0) Settings.standard.indentWidth <*>
      optional t "build_retention" [] (intFrom 1) Settings.standard.buildRetention <*>
      optional t "disable_concurrent_builds" [] bool Settings.standard.disableConcurrentBuilds <*>
      optional t "format" [] bool Settings.standard.format

end Jenkinsfile
