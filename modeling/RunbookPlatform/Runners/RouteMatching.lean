import RunbookPlatform.Changes.Emergency

/-!
# Route matching

`find_pool_for_change`: the runner pool that the connectivity routes select for the
targets of a change.

## Main definitions

- `matchRoute` — the route of one target
- `findPoolForChange` — the pool of a change, or the reason there is none
-/

namespace RunbookPlatform

open Transactional

/-- The route of a target: exact or wildcard matches, least priority number first, then
the oldest. -/
def matchRoute (organization : ℕ) (target : ChangeTarget) (s : Db) :
    Option TargetConnectivityRoute :=
  let routes := rowsWhere s.reference.routes fun r =>
    r.organization = organization && r.environment = target.environment && r.isActive &&
      (r.targetType = target.targetType || r.targetType = "*") &&
      (r.normalizedIdentifierPattern = target.normalizedIdentifier ||
        r.normalizedIdentifierPattern = "*")
  routes.foldl (fun best r =>
    match best with
    | some b => if r.row.priority < b.priority then some r.row else some b
    | none => some r.row) none

/-- The pools of all targets, or the reason the first target without one has. -/
def matchPools (organization : ℕ) (s : Db) : List ChangeTarget → Except String (List ℕ)
  | [] => .ok []
  | target :: rest =>
    match matchRoute organization target s with
    | none => .error "route_miss"
    | some route =>
      let poolCaps := ((s.reference.pools.get? route.pool).map (·.capabilities)).getD []
      if route.requiredCapabilities.any (· ∉ poolCaps) then .error "missing_required_capability"
      else (matchPools organization s rest).map (route.pool :: ·)

/-- `find_pool_for_change`: the pool, or the reason for none. -/
def findPoolForChange (env : Env) (change : ℕ) (row : ChangeRecord) (s : Db) :
    Except String (Loaded RunnerPool) := do
  let targets := (targetsOf change s).map (·.row)
  if targets = [] then throw "no_targets"
  let onlineThreshold := s.now - seconds env.runnerOnlineSeconds
  if (rowsWhere s.reference.routes fun r =>
      r.organization = row.organization && r.isActive) = [] then
    throw "no_routes_configured"
  let matched ← matchPools row.organization s targets
  let poolId := matched.headD 0
  if matched.any (· ≠ poolId) then throw "multi_pool_unsupported"
  match s.reference.pools.get? poolId with
  | none => throw "check_error"
  | some pool =>
    match pool.status with
    | .draining => throw "pool_draining"
    | .disabled => throw "pool_disabled"
    | .active =>
      let required := ((s.reference.profiles.get? row.operationProfile).map
        (·.requiredRunnerCapabilities)).getD []
      if required.any (· ∉ pool.capabilities) then throw "missing_required_capability"
      if s.reference.runners.any fun r => r.2.pool = poolId && r.2.status = .active &&
          r.2.lastHeartbeatAt.any (onlineThreshold ≤ ·) then
        pure ⟨poolId, pool⟩
      else throw "no_online_runner"

end RunbookPlatform
