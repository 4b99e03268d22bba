import RunbookPlatform.Core.Env
import RunbookPlatform.Runner.Schemas

/-!
# The claim payload

`InternalExecutionStepSerializer` of `apps/executions/internal_serializers.py`: the steps of
a claimed execution as the runner receives them.

## Main definitions

- `internalExecutionStep` — the serialized step
-/

namespace RunbookPlatform

/-- `_snapshot`. -/
def ExecutionStep.snapshot (step : ExecutionStep) : Json :=
  if step.stepSnapshot.isObj then step.stepSnapshot else .obj []

/-- `InternalExecutionStepSerializer(step).data`. -/
def internalExecutionStep (id : ℕ) (step : ExecutionStep) : Json :=
  .obj
    [ ("id", .str (idText id)),
      ("position", .int step.position),
      ("step_key", .str step.stepKey),
      ("name", .str step.name),
      ("step_type", .str step.stepType),
      ("risk_level", .str step.riskLevel),
      ("command", .str step.command),
      ("requires_approval", .bool step.requiresApproval),
      ("status", .str step.status.value),
      ("step_snapshot", step.stepSnapshot),
      ("action_snapshot", step.snapshot.getD "action" .null),
      ("timeout_seconds", step.snapshot.getD "timeoutSeconds" .null),
      ("retry", step.snapshot.getD "retry" .null),
      ("idempotency", step.snapshot.getD "idempotency" .null),
      ("artifacts", (step.snapshot.getD "artifacts" .null).orElse (.arr [])) ]

end RunbookPlatform
