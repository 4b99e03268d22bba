import Mathlib.Data.Prod.Lex
import RunbookPlatform.Core.Ranked
import RunbookPlatform.Core.Texts
import RunbookPlatform.Queries.Expr

/-!
# Auditor scopes

An auditor sees the changes that the active grants of the auditor admit. A grant has a scope: a
JSON object of dimensions, date limits and a limit on exceptions, which is compiled to a query
expression; the expressions of all grants are joined by `|`.

## Main definitions

- `AuditedChange`, `AuditorDb` — what scopes are about, and the tables of grants and services
- `validateAuditorScope` — the scopes that can be saved
- `scopeToChangeQ` — the expression of a scope
- `applyAuditorAccessScope` — the changes that an auditor sees
-/

namespace RunbookPlatform

open Transactional Queries

-- ════════════════════════════════════════════════════════════════════════
-- Tables
-- ════════════════════════════════════════════════════════════════════════

/-- `AuditorGrantStatus`. -/
inductive AuditorGrantStatus where
  | active | expired | revoked
  deriving DecidableEq

/-- `AuditorAccessGrant`. -/
structure AuditorAccessGrant where
  organization : ℕ
  user : String
  status : AuditorGrantStatus := .active
  scope : Json
  startsAt : Option Time := none
  expiresAt : Option Time := none
  createdAt : Time

/-- `ServiceCatalogEntry`. -/
structure ServiceCatalogEntry where
  organization : ℕ
  serviceKey : String
  targetPatterns : List Json := []
  isActive : Bool := true

/-- `ControlCoverage`. -/
structure ControlCoverage where
  controlId : String
  coverageStatus : String
  standard : String

/-- A change with what scopes read of the rows that are related to it. -/
structure AuditedChange where
  row : ChangeRecord
  freezeExceptionReference : String := ""
  createdAt : Time
  /-- The risk level of its operation profile. -/
  riskLevel : String
  targets : List (Loaded ChangeTarget) := []
  /-- The statuses of its evidence bundles. -/
  evidenceBundles : List String := []
  controlCoverages : List ControlCoverage := []
  /-- The keys of its exceptions. -/
  exceptions : List ℕ := []

/-- The tables that scopes read besides. -/
structure AuditorDb where
  memberships : Table Membership := .empty
  services : Table ServiceCatalogEntry := .empty
  grants : Table AuditorAccessGrant := .empty

/-- What scopes take from outside the repository. -/
structure AuditorEnv extends Env where
  /-- `parse_datetime(text)`, naive datetimes taken in UTC; none when the text is not a
  datetime. -/
  scopeDatetime : String → Except Err (Option Time)
  /-- The key that `UUID(text)` is. -/
  uuid? : String → Option ℕ

-- ════════════════════════════════════════════════════════════════════════
-- Validation
-- ════════════════════════════════════════════════════════════════════════

/-- The dimensions of a scope, in the order in which they are compiled. -/
inductive ScopeDimension where
  | serviceKeys | targetIds | riskLevels | statuses | changeTypes | bundleStatuses | controlIds
  | coverageStatuses | standards
  deriving DecidableEq

def ScopeDimension.key : ScopeDimension → String
  | serviceKeys => "service_keys"
  | targetIds => "target_ids"
  | riskLevels => "risk_levels"
  | statuses => "statuses"
  | changeTypes => "change_types"
  | bundleStatuses => "bundle_statuses"
  | controlIds => "control_ids"
  | coverageStatuses => "coverage_statuses"
  | standards => "standards"

def ScopeDimension.all : List ScopeDimension :=
  [.serviceKeys, .targetIds, .riskLevels, .statuses, .changeTypes, .bundleStatuses, .controlIds,
    .coverageStatuses, .standards]

theorem ScopeDimension.mem_all (dimension : ScopeDimension) : dimension ∈ all := by
  cases dimension <;> decide

/-- `READONLY_SCOPE_DIMENSIONS`. -/
def readonlyScopeDimensions : List String := ScopeDimension.all.map ScopeDimension.key

/-- `MUTATING_SCOPE_KEYS`. -/
def mutatingScopeKeys : List String :=
  ["actions", "approval_permissions", "can_approve", "can_close", "can_create", "can_delete",
    "can_execute", "can_export", "can_mutate", "can_refresh", "can_revoke", "can_seal",
    "can_update", "mutation_permissions", "permissions", "write"]

/-- `MAX_SCOPE_ITEMS`. -/
def maxScopeItems : ℕ := 256

/-- `{"all": True}`. -/
def allObject : Json := .obj [("all", .bool true)]

/-- `ValidationError`. -/
def scopeError (detail : String) : Err :=
  { kind := .uncaught, code := "ValidationError", detail }

/-- The text of an item of a dimension. -/
def isScopeText (item : Json) : Bool :=
  item.str?.any fun text => strip text ≠ "" && text.length ≤ 255

/-- `_validate_scope_dimension`. -/
def validateScopeDimension (key : String) (value : Json) : Except Err Unit :=
  match value with
  | .arr items => do
    check (items ≠ []) <| scopeError
      s!"{key} cannot be an empty list; use an explicit all scope or omit it."
    check (items.length ≤ maxScopeItems) <| scopeError s!"{key} contains too many entries."
    check (∀ item ∈ items, isScopeText item = true) <|
      scopeError s!"{key} entries must be bounded strings."
  | .obj _ => check (value.pyEq allObject = true) <|
      scopeError s!"{key} object scope only supports \x7b'all': true\x7d."
  | _ => .error (scopeError s!"{key} must be a list or explicit all object.")

/-- The branches of the loop of `validate_auditor_scope`. -/
def validateScopeValue (key : String) (value : Json) : Except Err Unit :=
  if key ∈ readonlyScopeDimensions then validateScopeDimension key value
  else if key = "date_from" ∨ key = "date_to" then
    check ((value.str?.any fun text => strip text ≠ "") = true) <|
      scopeError s!"{key} must be a datetime string."
  else if key = "include_exceptions" then
    check (value = .bool true ∨ value = .bool false) <|
      scopeError "include_exceptions must be a boolean."
  else if key = "all" then
    check (value = .bool true) <|
      scopeError "The top-level all scope must be true when present."
  else .error (scopeError s!"Unsupported auditor grant scope key: {key}.")

variable (env : AuditorEnv)

/-- The body of the loop of `validate_auditor_scope`. -/
def validateScopeEntry (key : String) (value : Json) : Except Err Unit := do
  check (∀ marker ∈ ["write", "mutate", "approve", "execute"],
      containsText (env.lower key) marker = false) <|
    scopeError "Auditor grants cannot include mutation permissions."
  validateScopeValue key value

/-- The loop of `validate_auditor_scope`. -/
def validateScopeEntries : List (String × Json) → Except Err Unit
  | [] => .ok ()
  | (key, value) :: entries => do
    validateScopeEntry env key value
    validateScopeEntries entries

/-- `validate_auditor_scope`. -/
def validateAuditorScope (scope : Json) : Except Err Unit :=
  match scope with
  | .obj entries => do
    check (entries ≠ []) <| scopeError "Auditor grant scope must not be empty."
    check (∀ entry ∈ entries, env.lower entry.1 ∉ mutatingScopeKeys) <|
      scopeError "Auditor grants cannot include mutation permissions."
    validateScopeEntries env entries
  | _ => .error (scopeError "Auditor grant scope must be a JSON object.")

-- ════════════════════════════════════════════════════════════════════════
-- Expressions
-- ════════════════════════════════════════════════════════════════════════

/-- A joined row of the query over changes. -/
structure AuditRow where
  change : AuditedChange
  target : Option (Loaded ChangeTarget)
  bundle : Option String
  coverage : Option ControlCoverage
  exception : Option ℕ

/-- The joined rows of a change. -/
def AuditedChange.rows (x : AuditedChange) : List AuditRow :=
  (leftJoin x.targets).flatMap fun target =>
    (leftJoin x.evidenceBundles).flatMap fun bundle =>
      (leftJoin x.controlCoverages).flatMap fun coverage =>
        (leftJoin x.exceptions).map fun exception => ⟨x, target, bundle, coverage, exception⟩

/-- `Q(pk__in=[])`. -/
def noChange : Q AuditRow := .atom fun _ => false

/-- A condition on the change itself. -/
def onChange (p : AuditedChange → Bool) : Q AuditRow := .atom fun r => p r.change

/-- A condition on the target of a joined row. -/
def onTarget (p : ChangeTarget → Bool) : Q AuditRow := .atom fun r => r.target.any fun t => p t.row

/-- `Q(<field>__<key>__in=values)` of a JSON field. -/
def keyIn (object : Json) (key : String) (values : List String) : Bool :=
  (object.get? key).any fun value => value.str?.any values.contains

/-- Three columns of a target that name it. -/
def onNames (p : String → Bool) : Q AuditRow :=
  ((onTarget fun t => p t.targetIdentifier).disj (onTarget fun t => p t.normalizedIdentifier)).disj
    (onTarget fun t => p t.displayName)

/-- `pattern.get(key)`, if that is true. -/
def patternField (pattern : Json) (key : String) : Option Json :=
  (pattern.get? key).filter Json.truthy

/-- `Q()` or a condition on a column of the target, as the pattern has the field or not. -/
def patternQ (field : Option Json) (p : String → ChangeTarget → Bool) : Q AuditRow :=
  match field with
  | some value => onTarget (p (pyStr env.toEnv value))
  | none => .empty

/-- `_target_pattern_q`. -/
def targetPatternQ (pattern : Json) : Q AuditRow :=
  match pattern with
  | .str text =>
    let value := strip text
    if value.endsWith "*" then onNames fun name => name.startsWith (value.dropEnd 1).toString
    else onNames fun name => name = value
  | .obj _ =>
    let q := (((patternQ env ((patternField pattern "target_type").or (patternField pattern "type"))
        fun value t => t.targetType = value).conj
      (patternQ env ((patternField pattern "target_identifier").or
        (patternField pattern "identifier")) fun value t => t.targetIdentifier = value)).conj
      (patternQ env (patternField pattern "normalized_identifier") fun value t =>
        t.normalizedIdentifier = value)).conj
      (patternQ env (patternField pattern "prefix") fun value t =>
        t.normalizedIdentifier.startsWith value)
    if q.isEmpty then noChange else q
  | _ => noChange

/-- The active services of the organization with a key among the values. -/
def scopeServices (d : AuditorDb) (organization : ℕ) (values : List String) :
    List (Loaded ServiceCatalogEntry) :=
  rowsWhere d.services fun service =>
    service.organization = organization && values.contains service.serviceKey && service.isActive

/-- `_service_scope_q`. -/
def serviceScopeQ (d : AuditorDb) (organization : ℕ) (values : List String) : Q AuditRow :=
  let q := (((onTarget fun t => keyIn t.metadata "service_key" values).disj
    (onTarget fun t => keyIn t.metadata "service" values)).disj
    (onChange fun x => keyIn x.row.requestSnapshot "service_key" values)).disj
    (onChange fun x => keyIn x.row.requestSnapshot "service" values)
  ((scopeServices d organization values).flatMap (·.row.targetPatterns)).foldl
    (fun q pattern => q.disj (targetPatternQ env pattern)) q

/-- `_target_scope_q`. -/
def targetScopeQ (values : List String) : Q AuditRow :=
  let uuidValues := values.filterMap env.uuid?
  let q := onNames values.contains
  if uuidValues = [] then q
  else q.disj (.atom fun r => r.target.any fun t => uuidValues.contains t.id)

/-- `_change_type_scope_q`. -/
def changeTypeScopeQ (values : List String) : Q AuditRow :=
  let q := noChange
  let q := if values.contains "standard" then q.disj (onChange fun x => !x.row.isEmergency) else q
  if values.contains "emergency" then q.disj (onChange fun x => x.row.isEmergency) else q

/-- The builder of a dimension. -/
def ScopeDimension.builder (d : AuditorDb) (organization : ℕ) :
    ScopeDimension → List String → Q AuditRow
  | serviceKeys, values => serviceScopeQ env d organization values
  | targetIds, values => targetScopeQ env values
  | riskLevels, values => onChange fun x => values.contains x.riskLevel
  | statuses, values => onChange fun x => values.contains x.row.status.value
  | changeTypes, values => changeTypeScopeQ values
  | bundleStatuses, values => .atom fun r => r.bundle.any values.contains
  | controlIds, values => .atom fun r => r.coverage.any fun c => values.contains c.controlId
  | coverageStatuses, values =>
    .atom fun r => r.coverage.any fun c => values.contains c.coverageStatus
  | standards, values => .atom fun r => r.coverage.any fun c => values.contains c.standard

/-- `_dimension_q`. -/
def dimensionQ (d : AuditorDb) (organization : ℕ) (scope : Json) (dimension : ScopeDimension) :
    Except Err (Q AuditRow) :=
  match scope.get? dimension.key with
  | none => .ok .empty
  | some values =>
    if values.pyEq allObject then .ok .empty
    else if !values.truthy then .ok noChange
    else
      match values.iterate? with
      | some items => .ok (dimension.builder env d organization (items.map (pyStr env.toEnv)))
      | none => .error (.uncaught "TypeError")

/-- `_parse_scope_datetime`. -/
def parseScopeDatetime (value : Json) : Except Err (Option Time) :=
  if !value.truthy then .ok none else env.scopeDatetime (pyStr env.toEnv value)

/-- The time that date limits are about. -/
def AuditedChange.auditDate (x : AuditedChange) : Time := x.row.submittedAt.getD x.createdAt

/-- `_audit_date_gte_q`. -/
def auditDateGteQ (value : Time) : Q AuditRow :=
  (onChange fun x => x.row.submittedAt.any (value ≤ ·)).disj
    (onChange fun x => x.row.submittedAt.isNone && decide (value ≤ x.createdAt))

/-- `_audit_date_lte_q`. -/
def auditDateLteQ (value : Time) : Q AuditRow :=
  (onChange fun x => x.row.submittedAt.any (· ≤ value)).disj
    (onChange fun x => x.row.submittedAt.isNone && decide (x.createdAt ≤ value))

/-- The conjunction of the expressions of the dimensions. -/
def dimensionsQ (d : AuditorDb) (organization : ℕ) (scope : Json) :
    List ScopeDimension → Q AuditRow → Except Err (Q AuditRow)
  | [], q => .ok q
  | dimension :: dimensions, q => do
    let restricted ← dimensionQ env d organization scope dimension
    dimensionsQ d organization scope dimensions (q.conj restricted)

/-- The part of `_scope_to_change_q` about dimensions. -/
def scopeDimensionsQ (d : AuditorDb) (organization : ℕ) (scope : Json) :
    Except Err (Q AuditRow) :=
  if (scope.getD "all" .null).truthy then .ok .empty
  else dimensionsQ env d organization scope ScopeDimension.all .empty

/-- `_scope_to_change_q`. -/
def scopeToChangeQ (d : AuditorDb) (organization : ℕ) (scope : Json) :
    Except Err (Q AuditRow) := do
  let q ← scopeDimensionsQ env d organization scope
  let dateFrom ← parseScopeDatetime env (scope.getD "date_from" .null)
  let dateTo ← parseScopeDatetime env (scope.getD "date_to" .null)
  let q := dateFrom.elim q fun value => q.conj (auditDateGteQ value)
  let q := dateTo.elim q fun value => q.conj (auditDateLteQ value)
  pure <| if scope.get? "include_exceptions" = some (.bool false) then
    q.conj ((Q.atom fun r => r.exception.isNone).conj
      (onChange fun x => x.freezeExceptionReference = ""))
  else q

-- ════════════════════════════════════════════════════════════════════════
-- Access
-- ════════════════════════════════════════════════════════════════════════

/-- `get_user_membership`. -/
def AuditorDb.membership (d : AuditorDb) (user : String) (organization : ℕ) :
    Option (ℕ × Membership) :=
  d.memberships.find? fun _ m => m.user = user && m.organization = organization

/-- `is_admin_member`. -/
def isAdminMember (d : AuditorDb) (user : String) (organization : ℕ) : Bool :=
  (d.membership user organization).any fun m => m.2.role = .owner || m.2.role = .admin

/-- The filters of `get_active_auditor_grants`. -/
def AuditorAccessGrant.isActiveAt (grant : AuditorAccessGrant) (user : String)
    (organization : ℕ) (now : Time) : Bool :=
  grant.organization = organization && grant.user = user && grant.status = .active &&
    grant.startsAt.all (· ≤ now) && grant.expiresAt.all (now < ·)

/-- `get_active_auditor_grants`; `user` is none when it is not authenticated. -/
def getActiveAuditorGrants (d : AuditorDb) (user : Option String) (organization : ℕ)
    (now : Time) : Except Err (List (Loaded AuditorAccessGrant)) :=
  match user with
  | none => .error (.uncaught "NotAuthenticated")
  | some user =>
    if (d.membership user organization).isNone then .ok []
    else .ok (Ranked.rank (fun grant : Loaded AuditorAccessGrant =>
        toLex (grant.row.createdAt, grant.id))
      (rowsWhere d.grants fun grant => grant.isActiveAt user organization now))

/-- The loop that joins the expressions of the grants. -/
def scopedQ (d : AuditorDb) (organization : ℕ) :
    List (Loaded AuditorAccessGrant) → Option (Q AuditRow) → Except Err (Option (Q AuditRow))
  | [], q => .ok q
  | grant :: grants, q => do
    let grantQ ← scopeToChangeQ env d organization grant.row.scope
    scopedQ d organization grants (some (q.elim grantQ fun q => q.disj grantQ))

/-- `apply_auditor_access_scope`. -/
def applyAuditorAccessScope (d : AuditorDb) (queryset : List AuditedChange) (user : Option String)
    (organization : ℕ) (allowAdminBypass : Bool) (now : Time) :
    Except Err (List AuditedChange) := do
  let queryset := queryset.filter fun x => x.row.organization = organization
  if allowAdminBypass && user.any fun user => isAdminMember d user organization then
    pure queryset
  else
    let grants ← getActiveAuditorGrants d user organization now
    if grants.isEmpty then pure []
    else
      match ← scopedQ env d organization grants none with
      | none => pure []
      | some q => pure (queryset.filter fun x => x.rows.any q.holds)

end RunbookPlatform
