import RunbookPlatform.Workflows.JsonSchema

/-!
# The schemas of `packages/workflow-schema`

The schema files as values, with the references of `workflow.v2.schema.json` inlined.
Titles, descriptions and defaults, which no validator reads, are left out.

## Main definitions

- `workflowSchemaV1`, `workflowSchemaV2` — `workflow.schema.json`, `workflow.v2.schema.json`
- `loadActionSchema` — the files of `actions/`
- `lookupActionContract` — `action-catalog.pilot.v1.json`
-/

namespace RunbookPlatform

open Schema

/-- `{"type": "string", "minLength": 1}`. -/
def nonemptyText : Schema := all [type .string, minLength 1]

/-- `{"type": "string", "enum": texts}`. -/
def textAmong (texts : List String) : Schema := all [type .string, enum texts]

/-- `{"type": "integer", "minimum": n}`. -/
def integerFrom (n : ℤ) : Schema := all [type .integer, minimum n]

/-- `{"type": "integer", "minimum": m, "maximum": n}`. -/
def integerBetween (m n : ℤ) : Schema := all [type .integer, minimum m, maximum n]

/-- `{"type": "array", "items": schema}`. -/
def arrayOf (schema : Schema) : Schema := all [type .array, items schema]

/-- `{"type": "object", "additionalProperties": {"type": "string"}}`. -/
def textMap : Schema := all [type .object, properties [] (some (type .string))]

-- ════════════════════════════════════════════════════════════════════════
-- workflow.schema.json
-- ════════════════════════════════════════════════════════════════════════

/-- The schema of a v1 step. -/
def stepSchemaV1 : Schema :=
  all
    [ type .object,
      required ["id", "name", "type", "risk"],
      declares
        [ ("id", type .string),
          ("name", type .string),
          ("type", type .string),
          ("risk", type .string),
          ("command", type .string),
          ("requiresApproval", type .boolean),
          ("approvalTimeoutSeconds", integerFrom 1) ] ]

def workflowSchemaV1 : Schema :=
  all
    [ type .object,
      required ["name", "steps"],
      declares [("name", type .string), ("steps", arrayOf stepSchemaV1)] ]

-- ════════════════════════════════════════════════════════════════════════
-- The parameters of the actions
-- ════════════════════════════════════════════════════════════════════════

def manualTaskParams : Schema :=
  closed [] [("instructions", nonemptyText), ("expected_outcome", type .string)]

def approvalGateParams : Schema :=
  closed [] [("message", nonemptyText), ("timeout_seconds", integerFrom 1)]

def shellCommandParams : Schema :=
  closed ["command"]
    [ ("command", nonemptyText),
      ("timeout_seconds", integerFrom 1),
      ("working_directory", type .string),
      ("environment", textMap) ]

def httpRequestParams : Schema :=
  closed ["method", "url"]
    [ ("method", textAmong ["GET", "POST", "PUT", "PATCH", "DELETE", "HEAD"]),
      ("url", nonemptyText),
      ("headers", textMap),
      ("body", any),
      ("timeout_seconds", integerFrom 1),
      ("expected_status_codes",
        all [type .array, items (integerBetween 100 599), minItems 1]) ]

def artifactAssertionParams : Schema :=
  all
    [ closed ["artifact_key", "assertion"]
        [ ("artifact_key", nonemptyText),
          ("assertion", textAmong ["exists", "not_exists", "content_matches"]),
          ("pattern", type .string) ],
      ifThen
        (all [declares [("assertion", const "content_matches")], required ["assertion"]])
        (required ["pattern"]) ]

/-- The types of the actions, with the schema of their parameters and whether these must be
there. -/
def actionTypes : List (String × Schema × Bool) :=
  [ ("manual_task", manualTaskParams, false),
    ("approval_gate", approvalGateParams, false),
    ("shell_command", shellCommandParams, true),
    ("http_request", httpRequestParams, true),
    ("artifact_assertion", artifactAssertionParams, true) ]

/-- The keys that an action must have. -/
def actionRequired (needsParams : Bool) : List String :=
  if needsParams then ["type", "params"] else ["type"]

-- ════════════════════════════════════════════════════════════════════════
-- workflow.v2.schema.json
-- ════════════════════════════════════════════════════════════════════════

def riskLevelSchema : Schema := textAmong ["low", "medium", "high", "critical"]

def retrySchema : Schema :=
  closed ["maxAttempts"]
    [ ("maxAttempts", integerBetween 1 10),
      ("backoffSeconds", integerFrom 0),
      ("retryOn",
        arrayOf (textAmong ["runner_transient", "network_transient", "timeout", "rate_limited"])) ]

def idempotencySchema : Schema :=
  closed ["mode"]
    [ ("mode", textAmong ["none", "natural", "keyed", "external"]),
      ("key", type .string),
      ("reason", type .string) ]

def dryRunSchema : Schema :=
  closed ["supported", "strategy"]
    [ ("supported", type .boolean),
      ("strategy", type .string),
      ("requiresSecrets", type .boolean) ]

def artifactDeclarationSchema : Schema :=
  closed ["key"]
    [ ("key", nonemptyText),
      ("name", type .string),
      ("path", type .string),
      ("kind", textAmong ["file", "report", "stdout", "stderr", "log"]),
      ("mimeType", type .string),
      ("required", type .boolean),
      ("maxBytes", integerFrom 1),
      ("contentDisposition", type .string),
      ("evidenceRole", type .string) ]

def secretDeclarationSchema : Schema :=
  closed ["key"]
    [ ("key", nonemptyText),
      ("displayName", type .string),
      ("provider", type .string),
      ("ref", type .string),
      ("scope", type .object),
      ("requiredBy", arrayOf (type .string)),
      ("injectAs", type .object),
      ("redactionHints", arrayOf (type .string)) ]

/-- The definition of one type of action. -/
def actionSchema (actionType : String) (params : Schema) (needsParams : Bool) : Schema :=
  closed (actionRequired needsParams)
    [ ("type", all [type .string, const actionType]),
      ("version", type .string),
      ("params", params),
      ("inputs", type .object),
      ("outputs", type .object) ]

/-- The conditional that ties the type of a step to that of its action. -/
def sameActionType (stepType : String) : Schema :=
  ifThen
    (all [declares [("type", const stepType)], required ["type"]])
    (declares
      [("action", all [declares [("type", const stepType)], required ["type"]])])

/-- The fields of a step. -/
def stepFields : Schema :=
  closed ["id", "name", "type", "risk", "action"]
    [ ("id", nonemptyText),
      ("name", nonemptyText),
      ("type", textAmong (actionTypes.map (·.1))),
      ("risk", riskLevelSchema),
      ("requiresApproval", type .boolean),
      ("approvalTimeoutSeconds", integerFrom 1),
      ("action", oneOf (actionTypes.map fun (t, params, needs) => actionSchema t params needs)),
      ("timeoutSeconds", integerBetween 1 86400),
      ("retry", retrySchema),
      ("idempotency", idempotencySchema),
      ("dryRun", dryRunSchema),
      ("secrets", arrayOf (type .string)),
      ("artifacts", arrayOf artifactDeclarationSchema) ]

def stepSchema : Schema := all [stepFields, all (actionTypes.map fun (t, _, _) => sameActionType t)]

def workflowSchemaV2 : Schema :=
  closed ["schemaVersion", "name", "steps"]
    [ ("schemaVersion", all [type .string, const "2"]),
      ("name", all [type .string, minLength 1, maxLength 255]),
      ("description", type .string),
      ("catalogVersion", type .string),
      ("defaults",
        closed [] [("timeoutSeconds", integerBetween 1 86400), ("retry", retrySchema)]),
      ("secrets", arrayOf secretDeclarationSchema),
      ("steps", all [type .array, minItems 1, items stepSchema]) ]

-- ════════════════════════════════════════════════════════════════════════
-- actions/*.pilot.v1.schema.json and action-catalog.pilot.v1.json
-- ════════════════════════════════════════════════════════════════════════

/-- `load_action_schema`; none when there is no such file. -/
def loadActionSchema (actionType actionVersion : String) : Option Schema :=
  if actionVersion = "pilot.v1" then
    (actionTypes.lookup actionType).map fun (params, needsParams) =>
      closed (actionRequired needsParams)
        [("type", all [type .string, const actionType]), ("params", params)]
  else none

/-- `lookup_action_contract`: the code and the detail of the error it raises, if any. -/
def lookupActionContract (reprText : String → String) (actionType actionVersion : String) :
    Option (String × String) :=
  if actionVersion ≠ "pilot.v1" then
    some ("unknown_action_catalog_version",
      s!"No action catalog registered for version {reprText actionVersion}.")
  else if (actionTypes.map (·.1)).contains actionType then none
  else
    some ("unknown_action_type",
      s!"Action type {reprText actionType} is not registered in catalog version {reprText actionVersion}.")

end RunbookPlatform
