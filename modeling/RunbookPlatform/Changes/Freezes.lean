import RunbookPlatform.Emergency.Scope

/-!
# The two freeze queries

The freeze gate of the preflight asks for the rules of all targets of a change at once,
`get_active_matching_freeze_rules` for the rules of one target. The helper leaves out the
scopes of an empty type and an empty identifier; on the targets and the rules that the
services let in, nothing is lost by that.

## Main definitions

- `getActiveMatchingFreezeRules` — the active rules that match one target
- `FreezeMatchingAgrees` — the gate and the helper agree about a change

## Main results

- `targets_named` — every target of every run has an identifier
- `freezeRules_typed` — every rule for a target type names one
- `freeze_matching_agrees` — the two queries agree in every run
-/

namespace RunbookPlatform

open Transactional

-- ════════════════════════════════════════════════════════════════════════
-- The helper
-- ════════════════════════════════════════════════════════════════════════

/-- The scope filter of `get_active_matching_freeze_rules`. -/
def FreezeRule.inScope (rule : FreezeRule) (targetType normalized : String) : Bool :=
  match rule.scopeType with
  | .allProduction => true
  | .targetType => targetType ≠ "" && rule.targetType = targetType
  | .targetIdentifier => normalized ≠ "" && rule.normalizedIdentifier = normalized

/-- `get_active_matching_freeze_rules`, at instant `instant` or now. -/
def getActiveMatchingFreezeRules (env : Env) (organization : ℕ) (targetType targetIdentifier : String)
    (instant : Option Time) (s : Db) : List (Loaded FreezeRule) :=
  let now := instant.getD s.now
  let normalized :=
    if targetIdentifier = "" then "" else normalizeTargetIdentifier env targetIdentifier
  (rowsWhere s.freezeRules fun r =>
    r.activeAt organization now && r.inScope targetType normalized).foldr insertByStart []

/-- The target has an identifier, as `_validate_targets` demands. -/
def ChangeTarget.Named (env : Env) (t : ChangeTarget) : Prop :=
  normalizeTargetIdentifier env t.targetIdentifier ≠ ""

/-- A rule for a target type names one, as both services demand. -/
def FreezeRule.Typed (rule : FreezeRule) : Prop :=
  rule.scopeType = .targetType → rule.targetType ≠ ""

variable {env : Env} {s s' : Db}

theorem mem_getActiveMatchingFreezeRules {organization : ℕ} {targetType targetIdentifier : String}
    {now : Time} {rule : Loaded FreezeRule} :
    rule ∈ getActiveMatchingFreezeRules env organization targetType targetIdentifier (some now) s ↔
      s.freezeRules.get? rule.id = some rule.row ∧ rule.row.activeAt organization now = true ∧
        rule.row.inScope targetType (if targetIdentifier = "" then ""
          else normalizeTargetIdentifier env targetIdentifier) = true := by
  obtain ⟨k, row⟩ := rule
  rw [getActiveMatchingFreezeRules, mem_foldr_insertByStart, mem_rowsWhere, Option.getD_some,
    Bool.and_eq_true]

/-- On a named target both queries filter by scope alike, when the target or the rule has a
type. -/
theorem FreezeRule.inScope_iff {rule : FreezeRule} {t : ChangeTarget} (hlower : env.lower "" = "")
    (hnamed : t.Named env) (htyped : rule.Typed ∨ t.targetType ≠ "") :
    rule.inScope t.targetType (if t.targetIdentifier = "" then ""
      else normalizeTargetIdentifier env t.targetIdentifier) = true ↔
        rule.matchesTarget env t = true := by
  have hpresent : t.targetIdentifier ≠ "" := by
    intro hempty
    refine hnamed ?_
    rw [normalizeTargetIdentifier, hempty]
    exact hlower
  rw [if_neg hpresent, inScope, matchesTarget]
  cases hscope : rule.scopeType with
  | allProduction => rfl
  | targetType =>
    simp only [Bool.and_eq_true, decide_eq_true_eq, and_iff_right_iff_imp]
    intro hsame
    exact htyped.elim (fun htyped => hsame ▸ htyped hscope) id
  | targetIdentifier =>
    simp only [Bool.and_eq_true, decide_eq_true_eq, and_iff_right_iff_imp]
    exact fun _ => hnamed

-- ════════════════════════════════════════════════════════════════════════
-- The targets
-- ════════════════════════════════════════════════════════════════════════

theorem validateTargetsFrom_named {profile : OperationProfile} {targets : List TargetInput}
    {position : ℕ} {seen : List (String × String)} {u : Unit}
    (h : validateTargetsFrom env profile position seen targets s = .ok u) :
    ∀ t ∈ targets, normalizeTargetIdentifier env t.targetIdentifier ≠ "" := by
  induction targets generalizing position seen with
  | nil => exact fun t ht => absurd ht List.not_mem_nil
  | cons t targets ih =>
    simp only [validateTargetsFrom, Query.bind_ok, ensure_ok] at h
    obtain ⟨-, -, -, -, -, hnamed, -, -, -, -, hrest⟩ := h
    exact List.forall_mem_cons.2 ⟨hnamed, ih hrest⟩

theorem validateChangeRequest_named {req : ChangeRequest} {profile : ℕ}
    (h : validateChangeRequest env req s = .ok profile) :
    ∀ t ∈ req.targets, normalizeTargetIdentifier env t.targetIdentifier ≠ "" := by
  simp only [validateChangeRequest, validateTargets, Query.bind_ok] at h
  obtain ⟨_, -, _, -, -, -, -, -, -, -, -, -, _, -, _, -, -, -, -, -, -, -, _, ⟨-, -, htargets⟩, -⟩ :=
    h
  exact validateTargetsFrom_named htargets

/-- A target after the step was there before, or is named. -/
def TargetStep (env : Env) (s s' : Db) : Prop :=
  ∀ i t, s'.changeTargets.get? i = some t → s.changeTargets.get? i = some t ∨ t.Named env

theorem TargetStep.of_sameOn (h : SameOn [.changeTargets] s s') : TargetStep env s s' := by
  intro i t ht
  have htargets : s.changeTargets = s'.changeTargets := h .changeTargets (by decide)
  exact .inl (htargets ▸ ht)

theorem TargetStep.trans {s1 : Db} (h1 : TargetStep env s s1) (h2 : TargetStep env s1 s') :
    TargetStep env s s' :=
  fun i t ht => (h2 i t ht).elim (h1 i t) .inr

theorem insertTargets_step {change organization position : ℕ} {targets : List TargetInput} {u : Unit}
    (hnamed : ∀ t ∈ targets, normalizeTargetIdentifier env t.targetIdentifier ≠ "")
    (h : (insertTargets env change organization position targets).run s = .ok (u, s')) :
    TargetStep env s s' := by
  induction targets generalizing position s with
  | nil =>
    simp only [insertTargets, Tx.run_pure, Except.ok.injEq, Prod.mk.injEq] at h
    obtain ⟨-, rfl⟩ := h
    exact .of_sameOn (.refl _ s)
  | cons t targets ih =>
    rw [List.forall_mem_cons] at hnamed
    simp only [insertTargets, Tx.bind_ok, insertRow_ok] at h
    obtain ⟨_, s1, ⟨-, rfl⟩, h⟩ := h
    refine TargetStep.trans (fun i row hrow => ?_) (ih hnamed.2 h)
    rw [Rel.changeTargets_set, Rel.changeTargets_get, Table.get?_insert] at hrow
    split_ifs at hrow with hi
    · obtain rfl := Option.some.inj hrow
      exact .inr hnamed.1
    · exact .inl hrow

/-- **Every request** adds only named targets. -/
theorem Op.targetSteps (env : Env) (op : Op) (s : Db) :
    (op.prog env).Follows historyCells (fun _ => TargetStep env) s := by
  cases op with
  | createChange req actor =>
    refine .bind (.read (fun s => .of_sameOn (.refl _ s)) fun profile s1 _ hvalid => ?_)
      fun _ _ => .pure _
    refine .atomic fun s2 _ c s3 h => ?_
    simp only [insertChangeRecord, Tx.bind_ok, Tx.lift_query_ok, Tx.run_lift,
      Tx.run_pure, Except.ok.injEq, Prod.mk.injEq] at h
    obtain ⟨now, _, ⟨-, rfl⟩, c, s4, hinsert, _, s5, htargets, _, s6, hemit, -, rfl⟩ := h
    exact ((TargetStep.of_sameOn (Tx.sameOn hinsert _ (by decide))).trans
      (insertTargets_step (validateChangeRequest_named hvalid) htargets)).trans
        (.of_sameOn (Tx.sameOn hemit _ (by decide)))
  | _ =>
    refine Prog.Follows.frame (C := [.changeTargets]) ?_ (fun _ _ _ => .of_sameOn) _ s
    dsimp only [Op.cells]
    decide

/-- **Every target of every run has an identifier.** -/
theorem targets_named {A : Admission} (h : Interleaved env A s) {i : ℕ} {t : ChangeTarget}
    (ht : s.changeTargets.get? i = some t) : t.Named env := by
  refine h.invariant (I := fun s => ∀ i t, s.changeTargets.get? i = some t → t.Named env)
    (Op.targetSteps env) (fun _ _ i t ht => ?_) ?_ i t ht
  · cases ht
  · intro _ s s' hstep _ ih i t ht
    exact (hstep i t ht).elim (ih i t) id

-- ════════════════════════════════════════════════════════════════════════
-- The rules
-- ════════════════════════════════════════════════════════════════════════

/-- Every rule for a target type names one. -/
def Db.FreezeTyped (s : Db) : Prop :=
  ∀ i rule, s.freezeRules.get? i = some rule → rule.Typed

/-- A step that keeps rules typed. -/
def KeepsTyped (s s' : Db) : Prop := s.FreezeTyped → s'.FreezeTyped

instance : IsPreorder Db KeepsTyped where
  refl _ h := h
  trans _ _ _ h1 h2 h := h2 (h1 h)

theorem KeepsTyped.of_sameOn (h : SameOn [.freezeRules] s s') : KeepsTyped s s' := by
  intro htyped i rule hrule
  have hrules : s.freezeRules = s'.freezeRules := h .freezeRules (by decide)
  exact htyped i rule (hrules ▸ hrule)

theorem validateFreezeRule_typed {rule : FreezeRule} {u : Unit}
    (h : validateFreezeRule rule s = .ok u) : rule.Typed := by
  simp only [validateFreezeRule, Query.bind_ok, ensure_ok] at h
  obtain ⟨-, -, -, -, -, htyped, -⟩ := h
  exact htyped

/-- **Every request** that runs to its end keeps rules typed. -/
theorem Op.keepsTyped (env : Env) (op : Op) (s : Db) : (op.prog env).Runs KeepsTyped s := by
  cases op with
  | createFreezeRule rule actor =>
    refine .bind (.read fun _ hvalid => .atomicBind fun i s1 hinsert => ⟨?_, ?_⟩) fun _ _ => .pure _
    · obtain ⟨-, rfl⟩ := insertRow_ok.1 hinsert
      intro htyped j row hrow
      rw [Rel.freezeRules_set, Rel.freezeRules_get, Table.get?_insert] at hrow
      by_cases hj : j = s.freezeRules.next
      · rw [if_pos hj] at hrow
        obtain rfl := Option.some.inj hrow
        exact validateFreezeRule_typed hvalid
      · rw [if_neg hj] at hrow
        exact htyped j row hrow
    · exact .bind (.atomic fun _ _ h => .of_sameOn (Tx.sameOn h _ (by decide))) fun _ _ => .pure _
  | updateFreezeRule rule update actor =>
    refine .read fun row hrow => .read fun _ hvalid => .atomicBind fun u s1 hupdate => ⟨?_, ?_⟩
    · simp only [Query.bind_ok, ensure_ok] at hvalid
      obtain ⟨-, -, hvalid⟩ := hvalid
      obtain rfl := updateRow_ok.1 hupdate
      intro htyped j later hlater
      rw [Rel.freezeRules_set, Rel.freezeRules_get, Table.get?_modify] at hlater
      split_ifs at hlater with hj
      · obtain ⟨old, hold, rfl⟩ := Option.map_eq_some_iff.1 hlater
        obtain rfl : old = row := by
          rw [hj, lookup_ok.1 hrow] at hold
          exact (Option.some.inj hold).symm
        exact validateFreezeRule_typed hvalid
      · exact htyped j later hlater
    · exact .atomic fun _ _ h => .of_sameOn (Tx.sameOn h _ (by decide))
  | deactivateFreezeRule rule actor =>
    refine .read fun row hrow => ?_
    unfold RunbookPlatform.deactivateFreezeRule
    split_ifs
    · exact .pure _
    · refine .atomicBind fun u s1 hupdate =>
        ⟨?_, .atomic fun _ _ h => .of_sameOn (Tx.sameOn h _ (by decide))⟩
      obtain rfl := updateRow_ok.1 hupdate
      intro htyped j later hlater
      rw [Rel.freezeRules_set, Rel.freezeRules_get, Table.get?_modify] at hlater
      split_ifs at hlater with hj
      · obtain ⟨old, hold, rfl⟩ := Option.map_eq_some_iff.1 hlater
        exact htyped j old hold
      · exact htyped j later hlater
  | _ =>
    refine KeepsTyped.of_sameOn (Prog.Runs.sameOn _ ?_)
    dsimp only [Op.cells]
    decide

/-- **Every rule of a sequential run for a target type names one.** -/
theorem freezeRules_typed {A : Admission} (h : Reachable env A s) : s.FreezeTyped := by
  induction h with
  | initial reference now => exact fun i rule hrule => nomatch hrule
  | request op _ _ ih => exact Op.keepsTyped env op _ ih

-- ════════════════════════════════════════════════════════════════════════
-- The gate
-- ════════════════════════════════════════════════════════════════════════

theorem foldl_isSome {α : Type} {f : Option α → α → Option α}
    (hf : ∀ best x, (f best x).isSome = true) {found : List α} (best : Option α)
    (h : best.isSome = true ∨ found ≠ []) : (found.foldl f best).isSome = true := by
  induction found generalizing best with
  | nil => exact h.resolve_right (· rfl)
  | cons x found ih => exact ih _ (.inl (hf best x))

/-- An exception that covers the scope is found, or another one is. -/
theorem approvedExceptionForScope_isSome {change : ℕ} {exceptionType : ExceptionType}
    {covers : Json → Bool} {now : Time} {e : ℕ} {exc : ChangeException}
    (hexc : s.exceptions.get? e = some exc) (hchange : exc.changeRecord = change)
    (htype : exc.exceptionType = exceptionType) (hstatus : exc.status = .approved)
    (hunexpired : now < exc.expiresAt) (hcovers : covers (exc.scopeJson.orElse (.obj [])) = true) :
    (approvedExceptionForScope change exceptionType covers now s).isSome = true := by
  refine foldl_isSome (fun best exc => ?_) none (.inr ?_)
  · cases best with
    | none => rfl
    | some b =>
      dsimp only
      split_ifs <;> rfl
  · refine List.ne_nil_of_mem (a := ⟨e, exc⟩) (mem_rowsWhere.2 ⟨hexc, ?_⟩)
    simp [hchange, htype, hstatus, hunexpired, hcovers]

/-- A rule does not block exactly when it is one for exceptions that an exception lifts. -/
theorem freezeRuleBlocks_eq_false {change : ℕ} {targetIds : List ℕ} {now : Time}
    {rule : Loaded FreezeRule} : freezeRuleBlocks env change targetIds now s rule = false ↔
      rule.row.behavior ≠ .block ∧ (rule.row.behavior = .allowWithException →
        ∃ e exc, s.exceptions.get? e = some exc ∧ exc.Lifts env change rule.id targetIds now) := by
  constructor
  · intro h
    obtain ⟨hbehavior, hlifts⟩ := lifted_of_not_blocks h
    exact ⟨by rw [hbehavior]; exact nofun, fun _ => hlifts⟩
  · rintro ⟨hblock, hlifts⟩
    have hbehavior : rule.row.behavior = .allowWithException := by
      cases hbehavior : rule.row.behavior with
      | block => exact absurd hbehavior hblock
      | allowWithException => rfl
    obtain ⟨e, exc, hexc, hchange, htype, happroved, hunexpired, hrule, htargets⟩ :=
      hlifts hbehavior
    rw [freezeRuleBlocks, hbehavior]
    dsimp only
    rw [Option.isNone_eq_false_iff]
    refine approvedExceptionForScope_isSome hexc hchange htype happroved hunexpired ?_
    simp only [Bool.and_eq_true, beq_iff_eq, List.all_map, List.all_eq_true]
    exact ⟨hrule, fun t ht => by simpa using htargets t ht⟩

/-- Whether a rule blocks depends on the exceptions only. -/
theorem freezeRuleBlocks_congr (h : s.exceptions = s'.exceptions) (change : ℕ)
    (targetIds : List ℕ) (now : Time) (rule : Loaded FreezeRule) :
    freezeRuleBlocks env change targetIds now s rule =
      freezeRuleBlocks env change targetIds now s' rule := by
  simp only [freezeRuleBlocks, approvedExceptionForScope, h]

/-- More rules open no gate. -/
theorem freezeGate_mono {change : Loaded ChangeRecord} {targets : List (Loaded ChangeTarget)}
    {now : Time} (hexceptions : s.exceptions = s'.exceptions)
    (hrules : ∀ k rule, s.freezeRules.get? k = some rule → s'.freezeRules.get? k = some rule)
    (h : (freezeGate env change targets now s).1.ok = false) :
    (freezeGate env change targets now s').1.ok = false := by
  rw [← Bool.not_eq_true] at h ⊢
  refine fun hpass => h (freezeGate_ok.2 fun k rule hrule hmatches => ?_)
  rw [freezeRuleBlocks_congr hexceptions]
  exact freezeGate_ok.1 hpass k rule (hrules k rule hrule) hmatches

/-- A new rule leaves the others alone. -/
theorem createFreezeRule_keeps (rule : FreezeRule) (actor : AuditActor) :
    (createFreezeRule env rule actor).Runs (fun s s' => ∀ k row,
      s.freezeRules.get? k = some row → s'.freezeRules.get? k = some row) s := by
  have : IsPreorder Db fun s s' => ∀ k row,
      s.freezeRules.get? k = some row → s'.freezeRules.get? k = some row :=
    { refl := fun _ _ _ h => h
      trans := fun _ _ _ h1 h2 k row h => h2 k row (h1 k row h) }
  refine .read fun _ _ => .atomicBind fun i s1 hinsert => ⟨fun k row hrow => ?_, ?_⟩
  · obtain ⟨-, rfl⟩ := insertRow_ok.1 hinsert
    exact Table.get?_insert_of_some _ hrow
  · refine .bind (.atomic fun _ s2 hemit k row hrow => ?_) fun _ _ => .pure _
    have hrules : s1.freezeRules = s2.freezeRules :=
      Tx.sameOn hemit [.freezeRules] (by decide) .freezeRules (by decide)
    exact hrules ▸ hrow

/-- The freeze gate and the helper agree about a change at an instant. -/
structure FreezeMatchingAgrees (env : Env) (change : Loaded ChangeRecord) (now : Time) (s : Db) :
    Prop where
  /-- The gate considers the rules of the targets. -/
  considered : ∀ rule, rule ∈ matchingFreezeRules env change.row
      ((targetsOf change.id s).map (·.row)) now s ↔
    ∃ t ∈ targetsOf change.id s, rule ∈ getActiveMatchingFreezeRules env change.row.organization
      t.row.targetType t.row.targetIdentifier (some now) s
  /-- It passes when none of them blocks and exceptions for all targets lift the others. -/
  passes : (freezeGate env change (targetsOf change.id s) now s).1.ok = true ↔
    ∀ rule ∈ matchingFreezeRules env change.row ((targetsOf change.id s).map (·.row)) now s,
      rule.row.behavior ≠ .block ∧ (rule.row.behavior = .allowWithException →
        ∃ e exc, s.exceptions.get? e = some exc ∧
          exc.Lifts env change.id rule.id ((targetsOf change.id s).map (·.id)) now)
  /-- A new rule opens no gate. -/
  added : ∀ rule actor s', ((createFreezeRule env rule actor).exec s).2 = s' →
    (freezeGate env change (targetsOf change.id s) now s).1.ok = false →
      (freezeGate env change (targetsOf change.id s') now s').1.ok = false

/-- **The two freeze queries agree**: in every sequential run, and in every interleaved one for
targets with a type, as the change serializer demands. -/
theorem freeze_matching_agrees {A : Admission} {change : Loaded ChangeRecord}
    (hlower : env.lower "" = "") (h : Interleaved env A s)
    (htypes : Reachable env A s ∨ ∀ t ∈ targetsOf change.id s, t.row.targetType ≠ "")
    (now : Time) : FreezeMatchingAgrees env change now s where
  considered rule := by
    have hscope : ∀ t ∈ targetsOf change.id s, s.freezeRules.get? rule.id = some rule.row →
        (rule.row.inScope t.row.targetType (if t.row.targetIdentifier = "" then ""
          else normalizeTargetIdentifier env t.row.targetIdentifier) = true ↔
            rule.row.matchesTarget env t.row = true) := by
      intro t ht hrule
      refine FreezeRule.inScope_iff hlower (targets_named h (mem_targetsOf.1 ht).1) ?_
      exact htypes.imp (fun h => freezeRules_typed h rule.id rule.row hrule) fun htypes => htypes t ht
    simp only [mem_matchingFreezeRules, mem_getActiveMatchingFreezeRules, FreezeRule.Matches]
    constructor
    · rintro ⟨hrule, hactive, t, ht, hmatches⟩
      exact ⟨t, ht, hrule, hactive, (hscope t ht hrule).2 hmatches⟩
    · rintro ⟨t, ht, hrule, hactive, hmatches⟩
      exact ⟨hrule, hactive, t, ht, (hscope t ht hrule).1 hmatches⟩
  passes := by
    refine freezeGate_ok.trans ⟨fun hpass rule hrule => ?_, fun hpass k rule hrule hmatches => ?_⟩
    · obtain ⟨hrow, hmatches⟩ := mem_matchingFreezeRules.1 hrule
      exact freezeRuleBlocks_eq_false.1 (hpass rule.id rule.row hrow hmatches)
    · exact freezeRuleBlocks_eq_false.2
        (hpass ⟨k, rule⟩ (mem_matchingFreezeRules.2 ⟨hrule, hmatches⟩))
  added rule actor s' hexec hfails := by
    subst hexec
    have hsame : SameOn [.exceptions, .changeTargets] s ((createFreezeRule env rule actor).exec s).2 :=
      Prog.Runs.sameOn _ (by decide)
    have htargets : targetsOf change.id ((createFreezeRule env rule actor).exec s).2 =
        targetsOf change.id s := by
      have htable : s.changeTargets = ((createFreezeRule env rule actor).exec s).2.changeTargets :=
        hsame .changeTargets (by decide)
      rw [targetsOf, targetsOf, htable]
    rw [htargets]
    exact freezeGate_mono (hsame .exceptions (by decide)) (createFreezeRule_keeps rule actor) hfails

/-- A change with a target, while a freeze is active. -/
def frozenChange : Db :=
  runOps .sample [.createChange .sample .sample, .createFreezeRule .sample .sample]
    (.initial (.sample .sample) 0)

theorem freeze_matching_agrees_frozen : ∃ change : Loaded ChangeRecord,
    frozenChange.changes.get? change.id = some change.row ∧
      targetsOf change.id frozenChange ≠ [] ∧ FreezeMatchingAgrees .sample change 5 frozenChange := by
  have hchecked : ((frozenChange.changes.get? 0).isSome &&
      !(targetsOf 0 frozenChange).isEmpty) = true := by decide
  rw [Bool.and_eq_true, Option.isSome_iff_exists] at hchecked
  obtain ⟨⟨row, hrow⟩, htargets⟩ := hchecked
  have hrun : Reachable .sample anyAdmission frozenChange := (Reachable.initial _ 0).runOps _
  refine ⟨⟨0, row⟩, hrow, fun hnil => ?_,
    freeze_matching_agrees rfl hrun.interleaved (.inl hrun) 5⟩
  rw [hnil] at htargets
  cases htargets

end RunbookPlatform
