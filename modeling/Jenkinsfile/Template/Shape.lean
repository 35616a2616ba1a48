import Jenkinsfile.Template.Basic

/-! Templates read from data. -/

namespace Jenkinsfile

open Shape

/-- Reads a source control context. -/
def SourceControl.read : Value → Reading SourceControl :=
  record "SCMInfo" fun t =>
    SourceControl.mk <$> required t "type" (member [("GIT", .git), ("SVN", .svn)]) <*>
      optional t "repositoryPath" ["repository_path"] text "" <*>
      optional t "credentialsId" ["credentials_id"] text "" <*> optional t "branch" [] text ""

/-- Reads options. -/
def Options.read : Value → Reading Options :=
  record "Options" fun t => Options.mk <$> optional t "timeout" [] int 0

/-- Reads an approval. -/
def Approval.read : Value → Reading Approval :=
  record "Approve" fun t =>
    Approval.mk <$> optional t "timeout" [] int 0 <*> optional t "message" [] text ""

/-- Reads an environment variable. -/
def Variable.read : Value → Reading Variable :=
  record "EnvVar" fun t =>
    Variable.mk <$> required t "name" text <*> optional t "value" [] any .null

/-- Reads conditions. -/
def Conditions.read : Value → Reading Conditions := map (list text)

/-- Reads the constants of one task. -/
def TaskConstants.read : Value → Reading TaskConstants :=
  record "TaskConstValue" fun t =>
    TaskConstants.mk <$> optional t "args" [] (map any) [] <*>
      optional t "options" [] (nullable Options.read) none <*>
      optional t "approve" [] (nullable Approval.read) none

/-- Reads the constants of all tasks. -/
def TaskConstants.readAll : Value → Reading (Table TaskConstants) :=
  record "ConstValues" fun t => optional t "tasks" [] (map TaskConstants.read) []

/-- Reads a task. -/
def Task.read : Value → Reading Task :=
  record "Task" fun t =>
    Task.mk <$> optional t "name" [] text "" <*> optional t "type" [] text "" <*>
      optional t "agent" [] any .null <*> optional t "options" [] (nullable Options.read) none <*>
      optional t "conditions" [] (nullable Conditions.read) none <*>
      optional t "approve" [] (nullable Approval.read) none <*>
      optional t "environments" [] (list Variable.read) [] <*>
      optional t "relation" [] (nullable Relation.read) none

/-- Reads a stage. -/
def StageTemplate.read : Value → Reading StageTemplate :=
  record "Stage" fun t =>
    StageTemplate.mk <$> optional t "name" [] text "" <*>
      optional t "conditions" [] (nullable Conditions.read) none <*>
      optional t "tasks" [] (list Task.read) []

/-- Reads a task template. -/
def TaskTemplate.read : Value → Reading TaskTemplate :=
  record "TaskTemplateSpec" fun t =>
    TaskTemplate.mk <$> optional t "engine" [] text "" <*> optional t "agent" [] any .null <*>
      optional t "body" [] text "" <*> optional t "arguments" [] (list Argument.read) []

/-- Reads a pipeline template. -/
def PipelineTemplate.read : Value → Reading PipelineTemplate :=
  record "PipelineTemplateSpec" fun t =>
    PipelineTemplate.mk <$> optional t "engine" [] text "" <*>
      optional t "withSCM" ["with_scm"] bool false <*> optional t "agent" [] any .null <*>
      optional t "stages" [] (list StageTemplate.read) [] <*>
      optional t "post" [] (nullable (map (list Task.read))) none <*>
      optional t "values" ["const_values"] (nullable TaskConstants.readAll) none <*>
      optional t "options" [] (nullable Options.read) none <*>
      optional t "arguments" [] (list ArgumentSection.read) [] <*>
      optional t "environments" [] (list Variable.read) []

end Jenkinsfile
