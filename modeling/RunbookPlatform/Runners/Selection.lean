import Mathlib.Data.List.Induction
import Mathlib.Data.Prod.Lex
import RunbookPlatform.Runners.RouteMatching
import RunbookPlatform.System

/-!
# Which pool is selected

`find_pool_for_change` walks over the targets and stops at the first reason against a pool.
What it returns is described without the walk: every target has a route, all the routes name
the pool, and the pool can take the change. Routes are kept in the order of their ids.

## Main definitions

- `IsRouteOf` — the active route of least priority and id for a target
- `SelectsPool` — the pool that all targets of a change are routed to

## Main results

- `matchRoute_eq_some` — the walk over the routes finds the route of a target
- `pool_selected_iff` — the pool of a change, in any order of its targets
-/

namespace RunbookPlatform

open Transactional

-- ════════════════════════════════════════════════════════════════════════
-- The first of the least
-- ════════════════════════════════════════════════════════════════════════

section

variable {α β : Type} {f : α → β} {key : β → ℕ}

/-- Keep what was chosen before unless the next has a smaller key. -/
def chooseLess (f : α → β) (key : β → ℕ) (best : Option β) (x : α) : Option β :=
  match best with
  | some b => if key (f x) < key b then some (f x) else some b
  | none => some (f x)

theorem foldl_chooseLess_concat {xs : List α} {x : α} {b : β}
    (h : xs.foldl (chooseLess f key) none = some b) :
    (xs ++ [x]).foldl (chooseLess f key) none =
      if key (f x) < key b then some (f x) else some b := by
  rw [List.foldl_append, h]
  rfl

/-- **The choice** falls on the first of those with the least key. -/
theorem exists_foldl_chooseLess (f : α → β) (key : β → ℕ) {xs : List α} (hne : xs ≠ []) :
    ∃ before x after, xs = before ++ x :: after ∧ (∀ y ∈ before, key (f x) < key (f y)) ∧
      (∀ y ∈ after, key (f x) ≤ key (f y)) ∧ xs.foldl (chooseLess f key) none = some (f x) := by
  induction xs using List.reverseRecOn with
  | nil => exact absurd rfl hne
  | append_singleton xs last ih =>
    by_cases hxs : xs = []
    · subst hxs
      exact ⟨[], last, [], rfl, by simp, by simp, rfl⟩
    obtain ⟨before, x, after, rfl, hbefore, hafter, hchosen⟩ := ih hxs
    rw [foldl_chooseLess_concat hchosen]
    by_cases hless : key (f last) < key (f x)
    · refine ⟨before ++ x :: after, last, [], rfl, fun y hy => ?_, by simp, if_pos hless⟩
      obtain hy | rfl | hy := by simpa using hy
      · exact hless.trans (hbefore y hy)
      · exact hless
      · exact hless.trans_le (hafter y hy)
    · refine ⟨before, x, after ++ [last], by simp, hbefore, fun y hy => ?_, if_neg hless⟩
      obtain hy | rfl := by simpa using hy
      · exact hafter y hy
      · exact not_lt.1 hless

end

-- ════════════════════════════════════════════════════════════════════════
-- The route of a target
-- ════════════════════════════════════════════════════════════════════════

/-- An active route of the organization covers the target: by environment, and by type and
identifier or by wildcards. -/
def TargetConnectivityRoute.Covers (organization : ℕ) (target : ChangeTarget)
    (route : TargetConnectivityRoute) : Prop :=
  route.organization = organization ∧ route.environment = target.environment ∧
    route.isActive = true ∧ (route.targetType = target.targetType ∨ route.targetType = "*") ∧
    (route.normalizedIdentifierPattern = target.normalizedIdentifier ∨
      route.normalizedIdentifierPattern = "*")

/-- The route covers the target, and no other with a smaller priority and id does. -/
structure IsRouteOf (organization : ℕ) (target : ChangeTarget) (s : Db)
    (route : Loaded TargetConnectivityRoute) : Prop where
  stored : s.reference.routes.get? route.id = some route.row
  covers : route.row.Covers organization target
  least : ∀ id row, s.reference.routes.get? id = some row → row.Covers organization target →
    toLex (route.row.priority, route.id) ≤ toLex (row.priority, id)

variable {organization : ℕ} {target : ChangeTarget} {s s' : Db}

/-- The routes that cover a target, in the order of their ids. -/
def coveringRoutes (organization : ℕ) (target : ChangeTarget) (s : Db) :
    List (Loaded TargetConnectivityRoute) :=
  rowsWhere s.reference.routes fun r =>
    r.organization = organization && r.environment = target.environment && r.isActive &&
      (r.targetType = target.targetType || r.targetType = "*") &&
      (r.normalizedIdentifierPattern = target.normalizedIdentifier ||
        r.normalizedIdentifierPattern = "*")

theorem mem_coveringRoutes {route : Loaded TargetConnectivityRoute} :
    route ∈ coveringRoutes organization target s ↔
      s.reference.routes.get? route.id = some route.row ∧
        route.row.Covers organization target := by
  rw [coveringRoutes, mem_rowsWhere]
  simp [TargetConnectivityRoute.Covers, and_assoc]

theorem matchRoute_eq_foldl :
    matchRoute organization target s =
      (coveringRoutes organization target s).foldl
        (chooseLess Loaded.row TargetConnectivityRoute.priority) none := by
  rw [matchRoute, coveringRoutes]
  congr 1
  funext best route
  cases best <;> rfl

theorem IsRouteOf.unique {a b : Loaded TargetConnectivityRoute}
    (ha : IsRouteOf organization target s a) (hb : IsRouteOf organization target s b) :
    a = b := by
  have heq := le_antisymm (ha.least b.id b.row hb.stored hb.covers)
    (hb.least a.id a.row ha.stored ha.covers)
  have hid : a.id = b.id := congrArg (fun p => (ofLex p).2) heq
  have hrow : a.row = b.row := by
    have hstored := ha.stored
    rw [hid, hb.stored] at hstored
    exact (Option.some.inj hstored).symm
  cases a
  cases b
  cases hid
  cases hrow
  rfl

/-- Where a route covers the target, the walk finds the least. -/
theorem exists_matchRoute (hne : coveringRoutes organization target s ≠ []) :
    ∃ route, IsRouteOf organization target s route ∧
      matchRoute organization target s = some route.row := by
  obtain ⟨before, route, after, hsplit, hbefore, hafter, hchosen⟩ :=
    exists_foldl_chooseLess Loaded.row TargetConnectivityRoute.priority hne
  have hmem : route ∈ coveringRoutes organization target s := by simp [hsplit]
  have hsorted : (coveringRoutes organization target s).Pairwise fun a b => a.id < b.id :=
    pairwise_rowsWhere _ _
  rw [hsplit, List.pairwise_append, List.pairwise_cons] at hsorted
  obtain ⟨-, ⟨hlater, -⟩, -⟩ := hsorted
  obtain ⟨hstored, hcovers⟩ := mem_coveringRoutes.1 hmem
  refine ⟨route, ⟨hstored, hcovers, fun id row hrow hcovered => ?_⟩,
    matchRoute_eq_foldl.trans hchosen⟩
  have hother : (⟨id, row⟩ : Loaded TargetConnectivityRoute) ∈ before ++ route :: after :=
    hsplit ▸ mem_coveringRoutes.2 ⟨hrow, hcovered⟩
  rw [Prod.Lex.toLex_le_toLex]
  obtain hother | hother | hother := by simpa using hother
  · exact .inl (hbefore _ hother)
  · rw [← hother]
    exact .inr ⟨rfl, le_rfl⟩
  · obtain hlt | heq := (hafter _ hother).lt_or_eq
    · exact .inl hlt
    · exact .inr ⟨heq, (hlater _ hother).le⟩

/-- **The walk over the routes** finds the route of the target. -/
theorem matchRoute_eq_some {row : TargetConnectivityRoute} :
    matchRoute organization target s = some row ↔
      ∃ id, IsRouteOf organization target s ⟨id, row⟩ := by
  constructor
  · intro hfound
    have hne : coveringRoutes organization target s ≠ [] := by
      intro hnil
      rw [matchRoute_eq_foldl, hnil] at hfound
      cases hfound
    obtain ⟨route, hroute, hmatch⟩ := exists_matchRoute hne
    rw [hmatch, Option.some.injEq] at hfound
    exact ⟨route.id, hfound ▸ hroute⟩
  · rintro ⟨id, hroute⟩
    have hne : coveringRoutes organization target s ≠ [] :=
      List.ne_nil_of_mem (mem_coveringRoutes.2 ⟨hroute.stored, hroute.covers⟩)
    obtain ⟨route, hleast, hmatch⟩ := exists_matchRoute hne
    rw [hmatch, hleast.unique hroute]

-- ════════════════════════════════════════════════════════════════════════
-- The pool of a change
-- ════════════════════════════════════════════════════════════════════════

/-- The target is routed to the pool, which has what the route requires. -/
def RoutedTo (organization : ℕ) (s : Db) (pool : Loaded RunnerPool) (target : ChangeTarget) :
    Prop :=
  ∃ route, IsRouteOf organization target s route ∧ route.row.pool = pool.id ∧
    ∀ c ∈ route.row.requiredCapabilities, c ∈ pool.row.capabilities

/-- The pool that the targets are routed to, which can take the change: it is active, has the
capabilities of the operation profile, and has an active runner that was heard of. -/
structure SelectsPool (env : Env) (change : ChangeRecord) (targets : List ChangeTarget) (s : Db)
    (pool : Loaded RunnerPool) : Prop where
  stored : s.reference.pools.get? pool.id = some pool.row
  routed : ∀ target ∈ targets, RoutedTo change.organization s pool target
  active : pool.row.status = .active
  capabilities : ∀ profile, s.reference.profiles.get? change.operationProfile = some profile →
    ∀ c ∈ profile.requiredRunnerCapabilities, c ∈ pool.row.capabilities
  online : ∃ runner ∈ s.reference.runners, runner.2.pool = pool.id ∧ runner.2.status = .active ∧
    ∃ beat, runner.2.lastHeartbeatAt = some beat ∧ s.now - seconds env.runnerOnlineSeconds ≤ beat

/-- **The walk over the targets** finds a list of one pool when every target is routed to it. -/
theorem matchPools_replicate (pool : Loaded RunnerPool) {targets : List ChangeTarget}
    (hstored : s.reference.pools.get? pool.id = some pool.row) :
    matchPools organization s targets = .ok (List.replicate targets.length pool.id) ↔
      ∀ target ∈ targets, RoutedTo organization s pool target := by
  induction targets with
  | nil => simp [matchPools]
  | cons target targets ih =>
    rw [List.forall_mem_cons, ← ih, matchPools]
    cases hfound : matchRoute organization target s with
    | none =>
      refine iff_of_false (fun h => by cases h) ?_
      rintro ⟨⟨route, hroute, -⟩, -⟩
      rw [matchRoute_eq_some.2 ⟨route.id, hroute⟩] at hfound
      cases hfound
    | some row =>
      obtain ⟨id, hroute⟩ := matchRoute_eq_some.1 hfound
      have hrouted : RoutedTo organization s pool target ↔
          row.pool = pool.id ∧ ∀ c ∈ row.requiredCapabilities, c ∈ pool.row.capabilities := by
        constructor
        · rintro ⟨route, hother, hpool⟩
          obtain rfl := hother.unique hroute
          exact hpool
        · exact fun h => ⟨_, hroute, h⟩
      rw [hrouted, List.length_cons, List.replicate_succ]
      simp only []
      by_cases hpool : row.pool = pool.id
      · have hmissing : row.requiredCapabilities.any (· ∉ pool.row.capabilities) = true ↔
            ¬∀ c ∈ row.requiredCapabilities, c ∈ pool.row.capabilities := by simp
        rw [hpool, hstored, Option.map_some, Option.getD_some]
        by_cases hcovered : ∀ c ∈ row.requiredCapabilities, c ∈ pool.row.capabilities
        · rw [if_neg (hmissing.not.2 (not_not.2 hcovered))]
          cases matchPools organization s targets with
          | error reason => simp [Except.map]
          | ok pools => simpa [Except.map] using fun _ => hcovered
        · rw [if_pos (hmissing.2 hcovered)]
          simp [hcovered]
      · refine iff_of_false (fun h => ?_) fun h => hpool h.1.1
        split_ifs at h
        cases hrest : matchPools organization s targets with
        | error reason =>
          rw [hrest] at h
          cases h
        | ok pools =>
          rw [hrest] at h
          exact hpool (List.cons.inj (Except.ok.inj h)).1

theorem length_matchPools {targets : List ChangeTarget} {pools : List ℕ}
    (h : matchPools organization s targets = .ok pools) : pools.length = targets.length := by
  induction targets generalizing pools with
  | nil =>
    cases h
    rfl
  | cons target targets ih =>
    rw [matchPools] at h
    cases hroute : matchRoute organization target s with
    | none =>
      rw [hroute] at h
      cases h
    | some route =>
      simp only [hroute] at h
      split_ifs at h
      cases hrest : matchPools organization s targets with
      | error reason =>
        rw [hrest] at h
        cases h
      | ok rest =>
        rw [hrest] at h
        cases h
        rw [List.length_cons, List.length_cons, ih hrest]

/-- The walk ends with one pool when no pool differs from the first. -/
theorem eq_replicate_headD {pools : List ℕ} :
    ¬(pools.any fun x => decide (x ≠ pools.headD 0)) = true ↔
      pools = List.replicate pools.length (pools.headD 0) := by
  rw [List.eq_replicate_iff]
  simp

theorem if_throw_ok {ε β γ : Type} {c : Prop} [Decidable c] {e : ε} {k : γ → Except ε β}
    {x : Except ε β} {b : β} :
    (if c then throw e >>= k else x) = .ok b ↔ ¬c ∧ x = .ok b := by
  by_cases h : c
  · rw [if_pos h]
    exact iff_of_false (fun heq => by cases heq) fun hc => hc.1 h
  · simp [h]

variable {env : Env} {change : ℕ} {row : ChangeRecord} {pool : Loaded RunnerPool}

/-- **The pool of a change** with targets. -/
theorem findPoolForChange_eq_ok (hne : targetsOf change s ≠ []) :
    findPoolForChange env change row s = .ok pool ↔
      SelectsPool env row ((targetsOf change s).map (·.row)) s pool := by
  have htargets : (targetsOf change s).map (·.row) ≠ [] := by simpa using hne
  rw [findPoolForChange]
  generalize (targetsOf change s).map (·.row) = targets at htargets ⊢
  simp only [if_throw_ok, except_bind_ok, htargets, not_false_eq_true, true_and,
    eq_replicate_headD]
  have hmissing (profile? : Option OperationProfile) (caps : List String) :
      ¬(((profile?.map (·.requiredRunnerCapabilities)).getD []).any (· ∉ caps)) = true ↔
        ∀ profile, profile? = some profile →
          ∀ c ∈ profile.requiredRunnerCapabilities, c ∈ caps := by
    cases profile? <;> simp
  have honline (id : ℕ) :
      (s.reference.runners.any fun r => r.2.pool = id && r.2.status = .active &&
          r.2.lastHeartbeatAt.any (s.now - seconds env.runnerOnlineSeconds ≤ ·)) = true ↔
        ∃ runner ∈ s.reference.runners, runner.2.pool = id ∧ runner.2.status = .active ∧
          ∃ beat, runner.2.lastHeartbeatAt = some beat ∧
            s.now - seconds env.runnerOnlineSeconds ≤ beat := by
    simp [List.any_eq_true, Option.any_eq_true, and_assoc]
  constructor
  · rintro ⟨-, pools, hpools, hsame, h⟩
    rw [length_matchPools hpools] at hsame
    rw [hsame] at hpools
    generalize pools.headD 0 = id at hpools h
    cases hstored : s.reference.pools.get? id with
    | none =>
      rw [hstored] at h
      cases h
    | some found =>
      simp only [hstored] at h
      cases hstatus : found.status with
      | draining =>
        rw [hstatus] at h
        cases h
      | disabled =>
        rw [hstatus] at h
        cases h
      | active =>
        simp only [hstatus, if_throw_ok, hmissing] at h
        obtain ⟨hcapabilities, h⟩ := h
        by_cases hrunner : (s.reference.runners.any fun r => r.2.pool = id &&
            r.2.status = .active &&
              r.2.lastHeartbeatAt.any (s.now - seconds env.runnerOnlineSeconds ≤ ·)) = true
        · rw [if_pos hrunner] at h
          cases h
          exact ⟨hstored, matchPools_replicate ⟨id, found⟩ hstored |>.1 hpools, hstatus,
            hcapabilities, (honline id).1 hrunner⟩
        · rw [if_neg hrunner] at h
          cases h
  · intro h
    obtain ⟨target, rest, rfl⟩ := List.exists_cons_of_ne_nil htargets
    have hhead : (List.replicate (target :: rest).length pool.id).headD 0 = pool.id := rfl
    refine ⟨?_, _, (matchPools_replicate pool h.stored).2 h.routed, ?_, ?_⟩
    · obtain ⟨route, hroute, -⟩ := h.routed target List.mem_cons_self
      refine List.ne_nil_of_mem (a := route) (mem_rowsWhere.2 ⟨hroute.stored, ?_⟩)
      simp [hroute.covers.1, hroute.covers.2.2.1]
    · rw [hhead, List.length_replicate]
    · simp only [hhead, h.stored, h.active, if_throw_ok]
      exact ⟨(hmissing _ _).2 h.capabilities, if_pos ((honline _).2 h.online)⟩

/-- What is said of all targets does not depend on their order. -/
theorem SelectsPool.congr {targets targets' : List ChangeTarget}
    (hreference : s'.reference = s.reference) (hnow : s'.now = s.now)
    (hperm : targets'.Perm targets) (h : SelectsPool env row targets s pool) :
    SelectsPool env row targets' s' pool where
  stored := hreference ▸ h.stored
  routed target htarget := by
    obtain ⟨route, hroute, hpool⟩ := h.routed target (hperm.mem_iff.1 htarget)
    refine ⟨route, ⟨?_, hroute.covers, ?_⟩, hpool⟩
    · rw [hreference]
      exact hroute.stored
    · rw [hreference]
      exact hroute.least
  active := h.active
  capabilities := hreference ▸ h.capabilities
  online := by
    rw [hreference, hnow]
    exact h.online

/-- **The pool of a change** with targets is the one that all targets are routed to and that can
take the change; the order of the targets does not matter. -/
theorem pool_selected_iff (env : Env) (change : ℕ) (row : ChangeRecord) (s : Db)
    (hne : targetsOf change s ≠ []) :
    (∀ pool, findPoolForChange env change row s = .ok pool ↔
      SelectsPool env row ((targetsOf change s).map (·.row)) s pool) ∧
    ∀ (change' : ℕ) (s' : Db), s'.reference = s.reference → s'.now = s.now →
      ((targetsOf change' s').map (·.row)).Perm ((targetsOf change s).map (·.row)) →
        ∀ pool, findPoolForChange env change' row s' = .ok pool ↔
          findPoolForChange env change row s = .ok pool := by
  refine ⟨fun pool => findPoolForChange_eq_ok hne, ?_⟩
  intro change' s' hreference hnow hperm pool
  have hne' : targetsOf change' s' ≠ [] := by
    intro hnil
    rw [hnil, List.map_nil, List.nil_perm, List.map_eq_nil_iff] at hperm
    exact hne hperm
  rw [findPoolForChange_eq_ok hne, findPoolForChange_eq_ok hne']
  exact ⟨.congr hreference.symm hnow.symm hperm.symm, .congr hreference hnow hperm⟩

/-- A change with one target, a wildcard route to a pool, and a runner that was just heard of. -/
def Db.routed : Db where
  reference :=
    { pools := ⟨[{ organization := 0, key := "default" }]⟩
      runners := [("runner", { organization := 0, pool := 0, status := .active
                               lastHeartbeatAt := some 0 })]
      routes := ⟨[{ organization := 0, targetType := "*", normalizedIdentifierPattern := "*"
                    pool := 0 }]⟩ }
  changeTargets :=
    ⟨[{ changeRecord := 0, organization := 0, position := 0, targetType := "host"
        targetIdentifier := "db1", normalizedIdentifier := "db1", environment := "production" }]⟩

/-- The pool of a change with one target. -/
theorem pool_selected_routed :
    findPoolForChange .sample 0 { organization := 0, operationProfile := 0, workflow := 0, title := "" }
        .routed = .ok ⟨0, { organization := 0, key := "default" }⟩ ↔
      SelectsPool .sample { organization := 0, operationProfile := 0, workflow := 0, title := "" }
        ((targetsOf 0 .routed).map (·.row)) .routed ⟨0, { organization := 0, key := "default" }⟩ :=
  (pool_selected_iff .sample 0 _ .routed (List.cons_ne_nil _ _)).1 _

end RunbookPlatform
