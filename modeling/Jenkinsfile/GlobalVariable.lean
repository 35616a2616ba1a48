import Jenkinsfile.Template.Basic

/-! The global variables that the scripts of a pipeline may use. -/

namespace Jenkinsfile

/-- A global variable. -/
structure GlobalVariable where
  name : String
  description : LocalizedText

namespace GlobalVariable

/-- The variables of every build. -/
def ofBuild : List GlobalVariable :=
  [⟨"BUILD_NUMBER", "当前构建的jenkins编号, 例如 153", "The current build number, such as \"153\""⟩,
    ⟨"JOB_NAME", "当前流水线的名称", "Name of the project of this build"⟩,
    ⟨"JOB_URL",
      "当前流水线所在Jenkins的地址, 例如http://server:port/jenkins/job/foo/ (需要在Jenkins配置Jenkins URL)",
      "Full URL of this job, like http://server:port/jenkins/job/foo/ (Jenkins URL must be set)"⟩,
    ⟨"BUILD_URL",
      "当前构建所在Jenkins的地址, 例如http://server:port/jenkins/job/foo/15 (需要在Jenkins配置Jenkins URL)",
      "Full URL of this build, like http://server:port/jenkins/job/foo/15 (Jenkins URL must be set)"⟩]

/-- The variables of source control. -/
def ofSource : SourceKind → List GlobalVariable
  | .git =>
    [⟨"REPOSITORY_PATH", "代码仓库地址", "URL of the code repository"⟩,
      ⟨"GIT_COMMIT", "代码提交版本号, 例如: c68938922a3500a95b1f33883144196abc5a794d",
        "Git commit id of the code repository, such as \"c68938922a3500a95b1f33883144196abc5a794d\""⟩,
      ⟨"GIT_BRANCH", "代码提交分支名称", "Git branch name of the code repository"⟩]
  | .svn =>
    [⟨"REPOSITORY_PATH", "代码仓库地址", "URL of the code repository"⟩,
      ⟨"SVN_REVISION", "svn 代码版本号, 例如: 46",
        "Code version of the svn repository, such as \"46\""⟩]

/-- The variables of an image that triggers the pipeline. -/
def ofImage : List GlobalVariable :=
  [⟨"IMAGE_REPOSITORY", "流水线被镜像触发时的镜像名称",
      "Repository of the image that triggered the pipeline"⟩,
    ⟨"IMAGE_TAG", "流水线被镜像触发时的镜像TAG", "Tag of the image that triggered the pipeline"⟩]

/-- The variables of a pipeline with source control of this kind, if it has any, and with or without
an image that triggers it. -/
def all (source : Option SourceKind) (image : Bool) : List GlobalVariable :=
  ofBuild ++ (source.map ofSource).getD [] ++ if image then ofImage else []

end GlobalVariable

end Jenkinsfile
