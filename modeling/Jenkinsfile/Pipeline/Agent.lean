import Jenkinsfile.Failure
import Jenkinsfile.Script.Literal
import Jenkinsfile.Text.Case

/-! The clause that says where a pipeline or a stage runs. -/

namespace Jenkinsfile.Agent

/-- The label of an agent that is a map: the first entry whose key is `label` in any case. -/
def label? (entries : Table Value) : Option Value :=
  (entries.find? fun e => Text.lower e.1 == "label").map Prod.snd

/-- The clause of an agent.  A text stands for itself and a map for its label; an agent that says
nothing gives way to `fallback`. -/
def clause (agent : Value) (fallback : String) : Except Failure String :=
  match agent with
  | .null => .ok fallback
  | .str s => .ok (if s.isEmpty then fallback else "agent " ++ s)
  | .map entries =>
    match label? entries with
    | some label =>
      if label.truthy then do
        pure ("agent \x7blabel \"" ++ (← Failure.ofText label.text) ++ "\"\x7d")
      else .ok fallback
    | none => .ok fallback
  | agent =>
    .error (.telling agent.inspect fun literal => .render ("unsupported agent " ++ literal))

/-- The clause of a stage's agent, left out where it is that of the pipeline. -/
def stageClause (agent pipelineAgent : Value) : Except Failure String := do
  let own ← clause agent ""
  let outer ← clause pipelineAgent ""
  pure (if own == outer then "" else own)

end Jenkinsfile.Agent
