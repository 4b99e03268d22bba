import RunbookPlatform.Emergency.Sessions

/-!
# The scope of an emergency override

Breakglass opens two gates of the preflight, and an exception lifts freeze rules. What they
open is within the scope that they were given.

## Main definitions

- `BreakglassSession.Authorizes` — a session authorizes a dispatch through a gate
- `ChangeException.Lifts` — an exception lifts a freeze rule
- `OverridesScoped` — a preflight passes by emergency authority only within its scope

## Main results

- `emergency_override_scoped` — every preflight does
-/

namespace RunbookPlatform

open Transactional

-- ════════════════════════════════════════════════════════════════════════
-- What a scope covers
-- ════════════════════════════════════════════════════════════════════════

/-- The session authorizes a dispatch of change `change` through the gate, for the targets, at
the instant. -/
structure BreakglassSession.Authorizes (env : Env) (session : BreakglassSession) (change : ℕ)
    (gateType : ExceptionType) (targetIds : List ℕ) (now : Time) : Prop where
  change : session.changeRecord = change
  active : session.status = .active
  unexpired : now < session.expiresAt
  gate : .str gateType.value ∈ scopeItems session.scopeJson "gate_types"
  action : .str "dispatch" ∈ scopeItems session.scopeJson "allowed_actions"
  targets : ∀ t ∈ targetIds, idText t ∈ (scopeItems session.scopeJson "target_ids").map (pyStr env)

/-- The exception lifts freeze rule `rule` from the targets of change `change` at the instant. -/
structure ChangeException.Lifts (env : Env) (exc : ChangeException) (change rule : ℕ)
    (targetIds : List ℕ) (now : Time) : Prop where
  change : exc.changeRecord = change
  type : exc.exceptionType = .freezeOverride
  approved : exc.status = .approved
  unexpired : now < exc.expiresAt
  rule : pyStr env ((exc.scopeJson.orElse (.obj [])).getD "freeze_rule_id" .null) = idText rule
  targets : ∀ t ∈ targetIds,
    idText t ∈ (scopeItems (exc.scopeJson.orElse (.obj [])) "target_ids").map (pyStr env)

/-- The active freeze rule matches a target. -/
def FreezeRule.Matches (env : Env) (rule : FreezeRule) (organization : ℕ)
    (targets : List (Loaded ChangeTarget)) (now : Time) : Prop :=
  rule.activeAt organization now = true ∧ ∃ t ∈ targets, rule.matchesTarget env t.row = true

variable {env : Env} {s s' : Db}

/-- Sorting loses no text. -/
theorem sortTexts_eq_nil {texts : List String} (h : Json.sortTexts texts = []) : texts = [] := by
  cases texts with
  | nil => rfl
  | cons text texts =>
    rw [Json.sortTexts, List.foldr_cons] at h
    revert h
    generalize List.foldr Json.insertText [] texts = sorted
    intro h
    cases sorted with
    | nil => simp [Json.insertText] at h
    | cons first rest =>
      rw [Json.insertText] at h
      split at h
      all_goals simp at h

/-- The three checks of a scope, and nothing else, decide what it covers. -/
theorem scopeCovers_ok {scope : Json} {gateType action : String} {targetIds : List ℕ} {u : Unit}
    (h : scopeCovers env scope gateType action targetIds s = .ok u) :
    .str gateType ∈ scopeItems scope "gate_types" ∧
      .str action ∈ scopeItems scope "allowed_actions" ∧
        ∀ t ∈ targetIds, idText t ∈ (scopeItems scope "target_ids").map (pyStr env) := by
  simp only [scopeCovers, Query.bind_ok, ensure_ok] at h
  obtain ⟨-, hgate, -, haction, htargets⟩ := h
  refine ⟨hgate, haction, fun t ht => ?_⟩
  by_contra hout
  have hmem : idText t ∈ (targetIds.map idText).filter
      (· ∉ (scopeItems scope "target_ids").map (pyStr env)) :=
    List.mem_filter.2 ⟨List.mem_map_of_mem ht, by simpa using hout⟩
  rw [sortTexts_eq_nil htargets] at hmem
  exact absurd hmem List.not_mem_nil

/-- The active session that opens a gate of the preflight authorizes its dispatch. -/
theorem breakglassAllowsPreflight_authorizes {change : ℕ} {gateType : ExceptionType}
    {targetIds : List ℕ} {now : Time} {b : ℕ}
    (hswept : ∀ i session, s.sessions.get? i = some session → session.changeRecord = change →
      session.status = .active → now < session.expiresAt)
    (h : breakglassAllowsPreflight env change gateType targetIds s = some b) :
    ∃ session, s.sessions.get? b = some session ∧
      session.Authorizes env change gateType targetIds now := by
  rw [breakglassAllowsPreflight] at h
  split at h
  · cases h
  · rename_i id session hfound
    split at h
    · rename_i u hcovers
      cases h
      obtain ⟨hrow, htest⟩ := Table.find?_some hfound
      simp only [Bool.and_eq_true, decide_eq_true_eq] at htest
      obtain ⟨hgate, haction, htargets⟩ := scopeCovers_ok hcovers
      exact ⟨session, hrow, htest.1, htest.2, hswept _ _ hrow htest.1 htest.2, hgate, haction,
        htargets⟩
    · cases h

/-- The exception that a search for a scope finds is among the approved ones. -/
theorem approvedExceptionForScope_some {change : ℕ} {exceptionType : ExceptionType}
    {covers : Json → Bool} {now : Time} {exc : Loaded ChangeException}
    (h : approvedExceptionForScope change exceptionType covers now s = some exc) :
    s.exceptions.get? exc.id = some exc.row ∧ exc.row.changeRecord = change ∧
      exc.row.exceptionType = exceptionType ∧ exc.row.status = .approved ∧
        now < exc.row.expiresAt ∧ covers (exc.row.scopeJson.orElse (.obj [])) = true := by
  have hmem : exc ∈ rowsWhere s.exceptions fun e =>
      e.changeRecord = change && e.exceptionType = exceptionType && e.status = .approved &&
        now < e.expiresAt && covers (e.scopeJson.orElse (.obj [])) := by
    refine (mem_of_foldl_choice (fun best x => ?_) _ h).resolve_left nofun
    cases best with
    | none => exact .inl rfl
    | some b =>
      dsimp only
      split_ifs
      · exact .inl rfl
      · exact .inr rfl
  obtain ⟨k, row⟩ := exc
  obtain ⟨hrow, htest⟩ := mem_rowsWhere.1 hmem
  simp only [Bool.and_eq_true, decide_eq_true_eq] at htest
  obtain ⟨⟨⟨⟨hchange, htype⟩, hstatus⟩, hunexpired⟩, hcovers⟩ := htest
  exact ⟨hrow, hchange, htype, hstatus, hunexpired, hcovers⟩

theorem mem_insertByStart {r q : Loaded FreezeRule} {qs : List (Loaded FreezeRule)} :
    q ∈ insertByStart r qs ↔ q = r ∨ q ∈ qs := by
  induction qs with
  | nil => simp [insertByStart]
  | cons p qs ih =>
    rw [insertByStart]
    split_ifs
    · simp
    · rw [List.mem_cons, ih, List.mem_cons]
      exact or_left_comm

/-- Sorting by start keeps the rules. -/
theorem mem_foldr_insertByStart {rule : Loaded FreezeRule} {rules : List (Loaded FreezeRule)} :
    rule ∈ rules.foldr insertByStart [] ↔ rule ∈ rules := by
  induction rules with
  | nil => rfl
  | cons r rules ih => rw [List.foldr_cons, mem_insertByStart, ih, List.mem_cons]

/-- A rule among the matching ones matches. -/
theorem mem_matchingFreezeRules {change : ChangeRecord} {targets : List (Loaded ChangeTarget)}
    {now : Time} {rule : Loaded FreezeRule} :
    rule ∈ matchingFreezeRules env change (targets.map (·.row)) now s ↔
      s.freezeRules.get? rule.id = some rule.row ∧
        rule.row.Matches env change.organization targets now := by
  obtain ⟨k, row⟩ := rule
  rw [matchingFreezeRules, mem_foldr_insertByStart, mem_rowsWhere]
  simp [FreezeRule.Matches, List.any_eq_true]

/-- A matching rule that does not block dispatch is one for exceptions, and one lifts it. -/
theorem lifted_of_not_blocks {change : ℕ} {targetIds : List ℕ} {now : Time}
    {rule : Loaded FreezeRule} (h : freezeRuleBlocks env change targetIds now s rule = false) :
    rule.row.behavior = .allowWithException ∧ ∃ e exc, s.exceptions.get? e = some exc ∧
      exc.Lifts env change rule.id targetIds now := by
  rw [freezeRuleBlocks] at h
  split at h
  · cases h
  · rename_i hbehavior
    rw [Option.isNone_eq_false_iff, Option.isSome_iff_exists] at h
    obtain ⟨exc, hexc⟩ := h
    obtain ⟨hrow, hchange, htype, hstatus, hunexpired, hcovers⟩ :=
      approvedExceptionForScope_some hexc
    simp only [Bool.and_eq_true, beq_iff_eq, List.all_map, List.all_eq_true] at hcovers
    refine ⟨hbehavior, exc.id, exc.row, hrow, hchange, htype, hstatus, hunexpired, hcovers.1,
      fun t ht => ?_⟩
    simpa using hcovers.2 t ht

-- ════════════════════════════════════════════════════════════════════════
-- The preflight
-- ════════════════════════════════════════════════════════════════════════

/-- The gate type under which breakglass opens a check of the preflight. -/
def breakglassGateType : String → Option ExceptionType
  | "policy_pass" => some .policyOverride
  | "window_open" => some .windowOverrun
  | _ => none

/-- The database without breakglass sessions. -/
def Db.withoutBreakglass (s : Db) : Db := { s with sessions := .empty }

/-- A preflight of change `change` passes by emergency authority only within its scope. -/
structure OverridesScoped (env : Env) (change : Loaded ChangeRecord) (profile : OperationProfile)
    (actor : Option AuditActor) (check : DispatchEligibilityCheck) (s : Db) : Prop where
  /-- The checks are those of the gates. -/
  checks : check = preflightCheck env change profile actor s.now s
  /-- Without breakglass, the same gates are checked. -/
  names : check.checks.map (·.name) =
    (preflightCheck env change profile actor s.now s.withoutBreakglass).checks.map (·.name)
  /-- A gate that passes, and without breakglass does not, is authorized. -/
  breakglass : ∀ gates ∈ check.checks.zip
      (preflightCheck env change profile actor s.now s.withoutBreakglass).checks,
    gates.1.ok = true → gates.2.ok = false →
      ∃ gateType, breakglassGateType gates.1.name = some gateType ∧
        ∃ b session, s.sessions.get? b = some session ∧
          session.Authorizes env change.id gateType ((targetsOf change.id s).map (·.id)) s.now
  /-- A matching rule that blocks is never passed. -/
  block : ∀ k rule, s.freezeRules.get? k = some rule → rule.behavior = .block →
    rule.Matches env change.row.organization (targetsOf change.id s) s.now →
      check.freezeConflictsOk = false ∧ check.result = .failed
  /-- A matching rule is passed only when exceptions lift it from all targets. -/
  freeze : ∀ k rule, s.freezeRules.get? k = some rule → check.freezeConflictsOk = true →
    rule.Matches env change.row.organization (targetsOf change.id s) s.now →
      rule.behavior = .allowWithException ∧ ∃ e exc, s.exceptions.get? e = some exc ∧
        exc.Lifts env change.id k ((targetsOf change.id s).map (·.id)) s.now

/-- Without breakglass the policy gate stays closed, or breakglass is not why it is open. -/
theorem policyGate_authorized {change : Loaded ChangeRecord} {targetIds : List ℕ} {now : Time}
    (hswept : ∀ i session, s.sessions.get? i = some session → session.changeRecord = change.id →
      session.status = .active → now < session.expiresAt)
    (hpass : (policyGate env change targetIds now s).ok = true)
    (hwithout : (policyGate env change targetIds now s.withoutBreakglass).ok = false) :
    ∃ b session, s.sessions.get? b = some session ∧
      session.Authorizes env change.id .policyOverride targetIds now := by
  cases hallows : breakglassAllowsPreflight env change.id .policyOverride targetIds s with
  | some b => exact ⟨b, breakglassAllowsPreflight_authorizes hswept hallows⟩
  | none =>
    have hsame : policyGate env change targetIds now s =
        policyGate env change targetIds now s.withoutBreakglass := by
      rw [policyGate, hallows, policyGate]
      rfl
    rw [hsame, hwithout] at hpass
    cases hpass

/-- The same for the window gate. -/
theorem windowGate_authorized {change : Loaded ChangeRecord} {targetIds : List ℕ} {now : Time}
    (hswept : ∀ i session, s.sessions.get? i = some session → session.changeRecord = change.id →
      session.status = .active → now < session.expiresAt)
    (hpass : (windowGate env change targetIds now s).1.ok = true)
    (hwithout : (windowGate env change targetIds now s.withoutBreakglass).1.ok = false) :
    ∃ b session, s.sessions.get? b = some session ∧
      session.Authorizes env change.id .windowOverrun targetIds now := by
  cases hallows : breakglassAllowsPreflight env change.id .windowOverrun targetIds s with
  | some b => exact ⟨b, breakglassAllowsPreflight_authorizes hswept hallows⟩
  | none =>
    have hsame : windowGate env change targetIds now s =
        windowGate env change targetIds now s.withoutBreakglass := by
      rw [windowGate, hallows, windowGate]
      rfl
    rw [hsame, hwithout] at hpass
    cases hpass

theorem policyGate_name (change : Loaded ChangeRecord) (targetIds : List ℕ) (now : Time) :
    (policyGate env change targetIds now s).name = "policy_pass" := by
  rw [policyGate]
  dsimp only
  repeat' split
  all_goals rfl

theorem windowGate_name (change : Loaded ChangeRecord) (targetIds : List ℕ) (now : Time) :
    (windowGate env change targetIds now s).1.name = "window_open" := by
  rw [windowGate]
  dsimp only
  repeat' split
  all_goals rfl

/-- The freeze gate passes exactly when no matching rule blocks. -/
theorem freezeGate_ok {change : Loaded ChangeRecord} {targets : List (Loaded ChangeTarget)}
    {now : Time} : (freezeGate env change targets now s).1.ok = true ↔
      ∀ k rule, s.freezeRules.get? k = some rule →
        rule.Matches env change.row.organization targets now →
          freezeRuleBlocks env change.id (targets.map (·.id)) now s ⟨k, rule⟩ = false := by
  rw [freezeGate]
  by_cases htargets : targets = []
  · -- no rule matches a change without targets
    rw [if_pos htargets]
    refine iff_of_true rfl fun k rule _ hmatches => ?_
    obtain ⟨t, ht, -⟩ := hmatches.2
    exact absurd (htargets ▸ ht) List.not_mem_nil
  · rw [if_neg htargets]
    dsimp only
    split_ifs with hblocking
    · refine iff_of_true rfl fun k rule hrule hmatches => ?_
      rw [List.filter_eq_nil_iff] at hblocking
      simpa using hblocking ⟨k, rule⟩ (mem_matchingFreezeRules.2 ⟨hrule, hmatches⟩)
    · refine iff_of_false nofun fun h => hblocking ?_
      rw [List.filter_eq_nil_iff]
      intro rule hrule
      obtain ⟨hrow, hmatches⟩ := mem_matchingFreezeRules.1 hrule
      rw [Bool.not_eq_true]
      exact h rule.id rule.row hrow hmatches

/-- The checks that a preflight records, in order. -/
theorem preflightCheck_checks (change : Loaded ChangeRecord) (profile : OperationProfile)
    (actor : Option AuditActor) (now : Time) :
    (preflightCheck env change profile actor now s).checks =
      [approvedStatusGate change.row profile s,
        policyGate env change ((targetsOf change.id s).map (·.id)) now s,
        (windowGate env change ((targetsOf change.id s).map (·.id)) now s).1,
        (freezeGate env change (targetsOf change.id s) now s).1,
        (lockGate env change (targetsOf change.id s) s).1, actorGate actor,
        (planGate change profile s).1] ++ (poolGate env change s).check.toList :=
  rfl

/-- A preflight whose freeze gate fails does not pass. -/
theorem preflightCheck_result {change : Loaded ChangeRecord} {profile : OperationProfile}
    {actor : Option AuditActor} {now : Time}
    (h : (preflightCheck env change profile actor now s).freezeConflictsOk = false) :
    (preflightCheck env change profile actor now s).result = .failed := by
  have hresult : (preflightCheck env change profile actor now s).result =
      if (approvedStatusGate change.row profile s).ok &&
        (policyGate env change ((targetsOf change.id s).map (·.id)) now s).ok &&
        (windowGate env change ((targetsOf change.id s).map (·.id)) now s).1.ok &&
        (preflightCheck env change profile actor now s).freezeConflictsOk &&
        (lockGate env change (targetsOf change.id s) s).1.ok && (actorGate actor).ok &&
        (planGate change profile s).1.ok && (poolGate env change s).ok.getD true
      then .passed else .failed := rfl
  rw [hresult, h]
  simp only [Bool.and_false, Bool.false_and, Bool.false_eq_true, if_false]

/-- The runner pool of a change depends on its targets, the reference data and the time. -/
theorem poolGate_congr {change : Loaded ChangeRecord}
    (h : SameOn [.clock, .reference, .changeTargets] s s') :
    poolGate env change s = poolGate env change s' := by
  have hnow : s.now = s'.now := h .clock (by decide)
  have hreference : s.reference = s'.reference := h .reference (by decide)
  have htargets : s.changeTargets = s'.changeTargets := h .changeTargets (by decide)
  have hpools : ∀ targets : List ChangeTarget, matchPools change.row.organization s targets =
      matchPools change.row.organization s' targets := by
    intro targets
    induction targets with
    | nil => rfl
    | cons target rest ih => rw [matchPools, matchPools, ih, matchRoute, matchRoute, hreference]
  have hfound : findPoolForChange env change.id change.row s =
      findPoolForChange env change.id change.row s' := by
    rw [findPoolForChange, findPoolForChange]
    simp only [hpools, targetsOf, hnow, hreference, htargets]
  rw [poolGate, poolGate, hfound]

/-- Neither breakglass nor what a preflight records is among these. -/
theorem poolGate_withoutBreakglass (change : Loaded ChangeRecord) :
    poolGate env change s.withoutBreakglass = poolGate env change s :=
  poolGate_congr fun c hc => by
    simp only [List.mem_cons, List.not_mem_nil, or_false] at hc
    rcases hc with rfl | rfl | rfl
    all_goals rfl

/-- **The gates** open by emergency authority only within its scope, in a state where no
session of the change is active beyond its end. -/
theorem preflightCheck_scoped {change : Loaded ChangeRecord} (profile : OperationProfile)
    (actor : Option AuditActor)
    (hswept : ∀ i session, s.sessions.get? i = some session → session.changeRecord = change.id →
      session.status = .active → s.now < session.expiresAt) :
    OverridesScoped env change profile actor (preflightCheck env change profile actor s.now s) s where
  checks := rfl
  names := by
    rw [preflightCheck_checks, preflightCheck_checks, poolGate_withoutBreakglass]
    simp only [List.map_append, List.map_cons, policyGate_name, windowGate_name]
    rfl
  breakglass gates hgates hpass hwithout := by
    rw [preflightCheck_checks, preflightCheck_checks, poolGate_withoutBreakglass] at hgates
    -- the other gates do not read the sessions
    have hother : ∀ gs : List GateCheck, gates ∈ gs.zip gs → gates.1 = gates.2 := by
      intro gs hmem
      induction gs with
      | nil => cases hmem
      | cons g gs ih =>
        rw [List.zip_cons_cons, List.mem_cons] at hmem
        rcases hmem with rfl | hmem
        · rfl
        · exact ih hmem
    have hsame : gates.1 ≠ gates.2 := by
      intro h
      rw [h, hwithout] at hpass
      cases hpass
    simp only [List.cons_append, List.nil_append, List.zip_cons_cons, List.mem_cons] at hgates
    rcases hgates with rfl | rfl | rfl | rfl | rfl | rfl | rfl | hpool
    · exact absurd rfl hsame
    · refine ⟨.policyOverride, ?_, policyGate_authorized hswept hpass hwithout⟩
      rw [policyGate_name]
      rfl
    · refine ⟨.windowOverrun, ?_, windowGate_authorized hswept hpass hwithout⟩
      rw [windowGate_name]
      rfl
    · exact absurd rfl hsame
    · exact absurd rfl hsame
    · exact absurd rfl hsame
    · exact absurd rfl hsame
    · exact absurd (hother _ hpool) hsame
  block k rule hrule hbehavior hmatches := by
    have hblocked : (preflightCheck env change profile actor s.now s).freezeConflictsOk = false := by
      rw [← Bool.not_eq_true]
      intro hpass
      have hlifts := freezeGate_ok.1 hpass k rule hrule hmatches
      rw [freezeRuleBlocks, hbehavior] at hlifts
      cases hlifts
    exact ⟨hblocked, preflightCheck_result hblocked⟩
  freeze k rule hrule hpass hmatches := 
    lifted_of_not_blocks (freezeGate_ok.1 hpass k rule hrule hmatches)

/-- Recording the outcome changes nothing that the gates read. -/
theorem recordPreflight_exec {change : ℕ} {actor : Option AuditActor} {now : Time}
    {check : Loaded DispatchEligibilityCheck}
    (h : (recordPreflight env change actor now).exec s = (.ok check, s')) :
    ∃ row profile, s.changes.get? change = some row ∧
      s.reference.profiles.get? row.operationProfile = some profile ∧
        check.row = preflightCheck env ⟨change, row⟩ profile actor now s ∧
          ∃ preflights audit, s' = { s with preflights, audit } := by
  simp only [recordPreflight, Prog.exec_bind_ok, Prog.exec_read_ok, Prog.exec_atomic_ok,
    Query.bind_ok, lookup_ok, select_ok, Prog.exec_pure, Prod.mk.injEq, Except.ok.injEq] at h
  obtain ⟨_, _, ⟨⟨row, hrow, profile, hprofile, rfl⟩, rfl⟩, id, s1, hinsert, u, s2, hemit, rfl, rfl⟩ :=
    h
  obtain ⟨-, rfl⟩ := insertRow_ok.1 hinsert
  obtain rfl := emit_ok.1 hemit
  exact ⟨row, profile, hrow, hprofile, rfl, _, _, rfl⟩

/-- **Emergency override is bounded by scope**: a preflight, in whatever state it begins, passes
by emergency authority only within the scope of that authority. -/
theorem emergency_override_scoped {change : ℕ} {actor : Option AuditActor}
    {check : Loaded DispatchEligibilityCheck}
    (h : (runDispatchPreflight env change actor).exec s = (.ok check, s')) :
    ∃ row profile, s'.changes.get? change = some row ∧
      s'.reference.profiles.get? row.operationProfile = some profile ∧
        OverridesScoped env ⟨change, row⟩ profile actor check.row s' := by
  simp only [runDispatchPreflight, enforceEmergencyExpiryForChange, Prog.exec_bind_ok,
    Prog.exec_read_ok, Prog.exec_lift] at h
  obtain ⟨now, s, ⟨hnow, rfl⟩, u1, s2, ⟨u2, s1, hexceptions, hsessions⟩, hrecord⟩ := h
  rw [timezoneNow, select_ok] at hnow
  subst hnow
  have hclock : s.now = s2.now := by
    have h1 := Prog.exec_frame (c := .clock) (expireExceptions change s.now) s (by decide)
    have h2 := Prog.exec_frame (c := .clock) (expireBreakglassSessions (some change) s.now) s1
      (by decide)
    rw [hexceptions] at h1
    rw [hsessions] at h2
    exact h1.trans h2
  have hswept : ∀ i session, s2.sessions.get? i = some session →
      session.changeRecord = change → session.status = .active → s2.now < session.expiresAt := by
    intro i session hi hchange hactive
    obtain ⟨old, -, ⟨hfresh, rfl⟩ | ⟨-, rfl⟩⟩ := expireBreakglassSessions_exec hsessions hi
    · refine Nat.lt_of_not_le fun hover => hfresh ⟨hactive, hclock ▸ hover, ?_⟩
      rintro c ⟨⟩
      exact hchange.symm
    · cases hactive
  obtain ⟨row, profile, hrow, hprofile, hcheck, preflights, audit, rfl⟩ :=
    recordPreflight_exec hrecord
  refine ⟨row, profile, hrow, hprofile, ?_⟩
  rw [hcheck, hclock]
  have hpool : poolGate env ⟨change, row⟩ s2 =
      poolGate env ⟨change, row⟩ { s2 with preflights, audit } :=
    poolGate_congr fun c hc => by
      simp only [List.mem_cons, List.not_mem_nil, or_false] at hc
      rcases hc with rfl | rfl | rfl
      all_goals rfl
  have hsame : preflightCheck env ⟨change, row⟩ profile actor s2.now s2 =
      preflightCheck env ⟨change, row⟩ profile actor s2.now { s2 with preflights, audit } := by
    simp only [preflightCheck, hpool]
    rfl
  rw [hsame]
  exact preflightCheck_scoped (s := { s2 with preflights, audit }) profile actor hswept

/-- A change whose window has not begun, with a session for it and for an early dispatch. -/
def earlyRun : Db :=
  { runOps .sample [.createChange .sample .sample,
      .saveWindow 0 { startsAt := seconds 60, endsAt := seconds 120 } .sample]
      (.initial (.sample .sample) 0) with
    sessions := ⟨[
      { organization := 0
        changeRecord := 0
        scopeJson := .obj [("allowed_actions", .arr [.str "dispatch"]),
          ("target_ids", .arr [.str "0"]), ("gate_types", .arr [.str "window_overrun"])]
        scopeSha256 := ""
        reason := "It hangs."
        activatedBy := some "operator"
        startedAt := 0
        expiresAt := seconds 30
        reviewDueAt := seconds 86400 }]⟩ }

/-- The session opens the window of the change, and covers it. -/
theorem emergency_override_scoped_early : ∃ check row profile s',
    check.windowOpenOk = true ∧ OverridesScoped .sample ⟨0, row⟩ profile none check s' := by
  have hrun : ((runDispatchPreflight .sample 0 none).exec earlyRun).1.toOption.any
      (·.row.windowOpenOk) = true := by decide
  obtain ⟨check, hok, hopen⟩ := (Option.any_eq_true _ _).1 hrun
  obtain ⟨⟨result, s'⟩, hexec⟩ : ∃ r, (runDispatchPreflight .sample 0 none).exec earlyRun = r :=
    ⟨_, rfl⟩
  rw [hexec] at hok
  cases result with
  | error => cases hok
  | ok =>
    cases hok
    obtain ⟨row, profile, -, -, hscoped⟩ := emergency_override_scoped hexec
    exact ⟨_, row, profile, s', hopen, hscoped⟩

end RunbookPlatform
