import RuleMatrix.Config.Json
import RuleMatrix.Input
import RuleMatrix.Matrix

set_option autoImplicit false

namespace RuleMatrix

inductive PipelineError where
  | input (e : InputError)
  | config (e : ConfigError)

namespace PipelineError

def message : PipelineError → String
  | .input e => e.message
  | .config e => e.message

end PipelineError

namespace Pipeline

def evaluationOf (limits : Limits) (context : Context) (value : Json) :
    Except ConfigError Evaluation :=
  (Config.ofJson limits value).map fun config => config.evaluate context

def matrixOf (limits : Limits) (context : Context) (store : FileStore) (input : Input) :
    Except PipelineError Matrix := do
  let value ← (input.load store).mapError .input
  let evaluation ← (evaluationOf limits context value).mapError .config
  .ok (Matrix.ofEvaluation evaluation)

end Pipeline

end RuleMatrix
