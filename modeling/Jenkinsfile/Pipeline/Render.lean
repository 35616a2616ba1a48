import Jenkinsfile.Pipeline.Agent
import Jenkinsfile.Pipeline.Basic
import Jenkinsfile.Settings
import Jenkinsfile.Text.Block

/-! The script of a pipeline.  Blocks are put together from lines; a script, a stage or a post
action inside is put on an indented line of the block around it. -/

namespace Jenkinsfile.Render

/-- A line, indented by `width`. -/
def line (width : Nat) (text : String) : String :=
  .ofList (List.replicate width ' ') ++ text ++ "\n"

/-- A text of several lines on a line indented by `width`. -/
def blockLine (width : Nat) (text : String) : String :=
  line width (.ofList (Text.block width text.toList))

/-- The lines of a block in braces, which are dropped if `shown` does not hold. -/
def braces (shown : Bool) (width : Nat) (head body : String) : String :=
  if shown then line width (head ++ "\x7b") ++ body ++ line width "\x7d" else ""

/-- The line of one environment variable. -/
def variableLine (v : Variable) : Except TextFault String := do
  pure (line 8 (v.name ++ " = \"" ++ (← Script.literalText v.value) ++ "\""))

/-- The lines of environment variables. -/
def variableLines : List Variable → Except TextFault (List String)
  | [] => .ok []
  | v :: vs => do
    let own ← variableLine v
    pure (own :: (← variableLines vs))

/-- The block of environment variables, if there are any. -/
def environment (vs : List Variable) : Except TextFault String := do
  pure (braces (!vs.isEmpty) 4 "environment" (String.join (← variableLines vs)))

/-- The line of one condition: its expressions joined by the operator of its key.  Other keys, and
keys without expressions, show nothing. -/
def conditionLine (key : String) (expressions : List String) : String :=
  let joined (operator : String) : String :=
    line 8 ("expression \x7b " ++ operator.intercalate expressions ++ " \x7d")
  if expressions.isEmpty then ""
  else if key = "all" then joined " && "
  else if key = "any" then joined " || "
  else ""

/-- The block of conditions, if there are any keys. -/
def conditions (cs : Conditions) : String :=
  braces (!cs.isEmpty) 4 "when"
    (line 8 "beforeAgent true" ++ String.join (cs.map fun c => conditionLine c.1 c.2))

/-- The line of a timeout, if there is one. -/
def timeoutLine (options : Option Options) : Except TextFault String :=
  match options with
  | some o =>
    if o.timeout = 0 then .ok ""
    else do pure (line 8 ("timeout(time:" ++ (← intText o.timeout) ++ ", unit:'SECONDS')"))
  | none => .ok ""

/-- The options of a stage, if there are any. -/
def stageOptions (options : Option Options) : Except TextFault String := do
  let timeout ← timeoutLine options
  pure (braces (!timeout.isEmpty) 4 "options" timeout)

/-- The question before the steps of a stage, if there is one. -/
def approvalLines (approval : Option Approval) : Except TextFault String :=
  match approval with
  | some a => do
    let timeout ← intText a.timeout
    pure (braces true 8 ("timeout(time:" ++ timeout ++ ", unit:\"SECONDS\")")
      (braces true 12 "input " (line 16 ("message \"" ++ Script.escape a.message ++ "\""))))
  | none => .ok ""

/-- The line of a clause, if there is one. -/
def clauseLine (clause : String) : String := if clause.isEmpty then "" else line 4 clause

/-- What a stage runs: its steps. -/
def steps (s : Stage) : Except Failure String := do
  let approval ← Failure.ofText (approvalLines s.approval)
  match s.steps with
  | some script => pure (braces true 4 "steps" (approval ++ blockLine 8 script))
  | none =>
    .error (.error (.render
      ("render stage " ++ s.name ++ " failed: 'None' has no attribute 'scripts'")))

/-- What a stage runs: the stages in it, all at once. -/
def parallel (failFast : Bool) (stages : List String) : String :=
  line 4 ("failFast " ++ if failFast then "true" else "false") ++
    braces true 4 "parallel" (String.join (stages.map (blockLine 8)))

/-- The script of a stage whose parts are given. -/
def stageText (s : Stage) (clause environment options body : String) : String :=
  braces true 0 ("stage(\"" ++ Script.escape s.name ++ "\")")
    (clauseLine clause ++ environment ++ conditions (s.conditions.getD []) ++ options ++ body)

mutual

/-- The script of a stage, in a pipeline with this agent. -/
def stage (pipelineAgent : Value) : Stage → Except Failure String
  | ⟨name, agent, options, cs, approval, environments, script, failFast, stages⟩ => do
    let s : Stage := ⟨name, agent, options, cs, approval, environments, script, failFast, stages⟩
    let inner ← allStages pipelineAgent stages
    let clause ← Agent.stageClause agent pipelineAgent
    let environment ← Failure.ofText (environment environments)
    let options ← Failure.ofText (stageOptions options)
    let body ← if stages.isEmpty then steps s else pure (parallel failFast inner)
    pure (stageText s clause environment options body)

/-- The scripts of several stages. -/
def allStages (pipelineAgent : Value) : List Stage → Except Failure (List String)
  | [] => .ok []
  | s :: ss => do
    let first ← stage pipelineAgent s
    pure (first :: (← allStages pipelineAgent ss))

end

/-- The script of a post action. -/
def postAction (a : PostAction) : String :=
  braces true 0 a.condition (blockLine 4 a.script)

/-- The options of a pipeline. -/
def pipelineOptions (settings : Settings) (options : Option Options) : Except TextFault String := do
  let retention ← intText settings.buildRetention
  let timeout ← timeoutLine options
  pure (braces true 4 "options"
    ((if settings.disableConcurrentBuilds then line 8 "disableConcurrentBuilds()" else "") ++
      line 8 ("buildDiscarder(logRotator(numToKeepStr: '" ++ retention ++ "'))") ++ timeout))

end Render

open Render in
/-- The script of a pipeline. -/
def Pipeline.render (settings : Settings) (p : Pipeline) : Except Failure String := do
  let stages ← allStages p.agent p.stages
  let clause ← Agent.clause p.agent "agent any"
  let environment ← Failure.ofText (environment p.environments)
  let options ← Failure.ofText (pipelineOptions settings p.options)
  pure (braces true 0 "pipeline"
    (line 4 clause ++ environment ++ options ++
      braces true 4 "stages" (String.join (stages.map (blockLine 8))) ++
      braces true 4 "post" (String.join (p.post.map fun a => blockLine 8 (postAction a)))))

end Jenkinsfile
