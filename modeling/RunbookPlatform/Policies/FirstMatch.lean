import RunbookPlatform.Core.Ranked
import RunbookPlatform.System

/-!
# The first matching rule decides

The evaluation of a step follows the first matching rule of the global order, blocks where an
invalid rule comes before it, and falls back to the workflow default; the order in which the
rules were retrieved does not matter.

## Main definitions

- `ActiveRule.verdict` — what one rule says of a step
- `FirstMatch` — the law of an evaluation

## Main results

- `evaluateRules_firstMatch` — the scan of the sorted rules obeys the law
- `first_matching_rule_decides` — so does the evaluation of a step
-/

namespace RunbookPlatform

open Transactional

variable {env : Env} {step : ExecutionStep} {context : EvaluationContext} {rules : List ActiveRule}
  {r : ActiveRule}

/-- What one rule says of a step: that it decides, that it does not apply, or nothing, since
its condition is invalid or cannot be evaluated. -/
inductive RuleVerdict where
  | applies | passes | invalid
  deriving DecidableEq

/-- What the rule says of a step in the context. -/
def ActiveRule.verdict (env : Env) (context : EvaluationContext) (r : ActiveRule) : RuleVerdict :=
  match validateConditionParams env r.rule.row.conditionType r.rule.row.conditionParams with
  | .error _ => .invalid
  | .ok () =>
    match evaluateCondition env r.rule.row.conditionType r.rule.row.conditionParams context with
    | .error _ => .invalid
    | .ok true => .applies
    | .ok false => .passes

/-- The decision of a rule that applies. -/
def ActiveRule.decision (r : ActiveRule) (step : ExecutionStep) : Evaluated where
  policy := some r.policy.id
  rule := some r.rule.id
  matched := true
  outcome := r.rule.row.outcome
  effectiveOutcome := applyRequiresApprovalFloor r.rule.row.outcome step
  reason := r.rule.row.reason

/-- The step is blocked. -/
def Evaluated.Blocks (found : Evaluated) : Prop :=
  found.outcome = .block ∧ found.effectiveOutcome = .block

/-- The law of an evaluation by the rules. -/
structure FirstMatch (env : Env) (step : ExecutionStep) (context : EvaluationContext)
    (rules : List ActiveRule) (found : Evaluated) : Prop where
  /-- The first rule that applies decides, if no rule before it is invalid. -/
  applies : ∀ r ∈ rules, r.verdict env context = .applies →
    (∀ q ∈ rules, q.place < r.place → q.verdict env context = .passes) → found = r.decision step
  /-- An invalid rule blocks, if no rule before it applies. -/
  invalid : ∀ q ∈ rules, q.verdict env context = .invalid →
    (∀ r ∈ rules, r.place < q.place → r.verdict env context ≠ .applies) → found.Blocks
  /-- Without a rule that applies or is invalid, the default of the workflow holds. -/
  default : (∀ r ∈ rules, r.verdict env context = .passes) → found = workflowDefault step
  /-- A step that requires approval is not approved automatically. -/
  floor : step.requiresApproval = true → found.effectiveOutcome ≠ .autoApprove

-- ════════════════════════════════════════════════════════════════════════
-- The scan
-- ════════════════════════════════════════════════════════════════════════

/-- The two checks of a rule decide what the scan does with it. -/
theorem ActiveRule.verdict_cases (env : Env) (context : EvaluationContext) (r : ActiveRule) :
    (r.verdict env context = .invalid ∧ ∃ e,
      validateConditionParams env r.rule.row.conditionType r.rule.row.conditionParams = .error e) ∨
    validateConditionParams env r.rule.row.conditionType r.rule.row.conditionParams = .ok () ∧
      ((r.verdict env context = .invalid ∧ ∃ e,
        evaluateCondition env r.rule.row.conditionType r.rule.row.conditionParams context =
          .error e) ∨
      (r.verdict env context = .applies ∧
        evaluateCondition env r.rule.row.conditionType r.rule.row.conditionParams context =
          .ok true) ∨
      (r.verdict env context = .passes ∧
        evaluateCondition env r.rule.row.conditionType r.rule.row.conditionParams context =
          .ok false)) := by
  unfold ActiveRule.verdict
  cases validateConditionParams env r.rule.row.conditionType r.rule.row.conditionParams with
  | error e => exact .inl ⟨rfl, e, rfl⟩
  | ok =>
    cases evaluateCondition env r.rule.row.conditionType r.rule.row.conditionParams context with
    | error e => exact .inr ⟨rfl, .inl ⟨rfl, e, rfl⟩⟩
    | ok applies => cases applies <;> simp

theorem evaluateRules_passes {rest : List ActiveRule} (h : r.verdict env context = .passes) :
    evaluateRules env step context (r :: rest) = evaluateRules env step context rest := by
  obtain ⟨hinvalid, -⟩ | ⟨hvalid, ⟨hinvalid, -⟩ | ⟨happlies, -⟩ | ⟨-, heval⟩⟩ :=
    r.verdict_cases env context
  · cases hinvalid.symm.trans h
  · cases hinvalid.symm.trans h
  · cases happlies.symm.trans h
  · rw [evaluateRules, hvalid, heval]

theorem evaluateRules_applies {rest : List ActiveRule} (h : r.verdict env context = .applies) :
    evaluateRules env step context (r :: rest) = .ok (r.decision step) := by
  obtain ⟨hinvalid, -⟩ | ⟨hvalid, ⟨hinvalid, -⟩ | ⟨-, heval⟩ | ⟨hpasses, -⟩⟩ :=
    r.verdict_cases env context
  · cases hinvalid.symm.trans h
  · cases hinvalid.symm.trans h
  · rw [evaluateRules, hvalid, heval]
    rfl
  · cases hpasses.symm.trans h

/-- An invalid rule ends the scan, with a failure or with a block. -/
theorem evaluateRules_invalid {rest : List ActiveRule} {found : Evaluated}
    (h : r.verdict env context = .invalid)
    (hfound : evaluateRules env step context (r :: rest) = .ok found) : found.Blocks := by
  rw [evaluateRules] at hfound
  obtain ⟨-, e, hparams⟩ | ⟨hvalid, ⟨-, e, heval⟩ | ⟨happlies, -⟩ | ⟨hpasses, -⟩⟩ :=
    r.verdict_cases env context
  · rw [hparams] at hfound
    dsimp only at hfound
    split_ifs at hfound
    cases hfound
    exact ⟨rfl, rfl⟩
  · rw [hvalid, heval] at hfound
    cases hfound
    exact ⟨rfl, rfl⟩
  · cases happlies.symm.trans h
  · cases hpasses.symm.trans h

/-- The rules before the first one that does not pass leave no trace. -/
theorem evaluateRules_append {before rest : List ActiveRule}
    (h : ∀ q ∈ before, q.verdict env context = .passes) :
    evaluateRules env step context (before ++ rest) = evaluateRules env step context rest := by
  induction before with
  | nil => rfl
  | cons q before ih =>
    rw [List.cons_append, evaluateRules_passes (h q List.mem_cons_self)]
    exact ih fun r hr => h r (List.mem_cons_of_mem q hr)

/-- The evaluation by rules as they were retrieved: a failure of the scan blocks. -/
def evaluateRetrieved (env : Env) (step : ExecutionStep) (context : EvaluationContext)
    (retrieved : List ActiveRule) : Evaluated :=
  match evaluateRules env step context (sortRules retrieved) with
  | .ok found => found
  | .error e => evaluationError none none "policy_evaluation_error" e.text

/-- No two of the rules have the same place. -/
abbrev DistinctPlaces (rules : List ActiveRule) : Prop := Ranked.Distinct ActiveRule.place rules

/-- The scan from the rule that it does not pass. -/
theorem exists_scan (step : ExecutionStep) (hdistinct : DistinctPlaces rules) (hr : r ∈ rules)
    (hbefore : ∀ q ∈ rules, q.place < r.place → q.verdict env context = .passes) :
    ∃ rest, evaluateRules env step context (sortRules rules) =
      evaluateRules env step context (r :: rest) := by
  obtain ⟨before, after, hsplit, hsmaller⟩ := Ranked.exists_split hdistinct hr
  refine ⟨after, ?_⟩
  rw [show sortRules rules = before ++ r :: after from hsplit]
  exact evaluateRules_append fun q hq => hbefore q (hsmaller q hq).1 (hsmaller q hq).2

theorem evaluateRetrieved_applies (hdistinct : DistinctPlaces rules) (hr : r ∈ rules)
    (happlies : r.verdict env context = .applies)
    (hbefore : ∀ q ∈ rules, q.place < r.place → q.verdict env context = .passes) :
    evaluateRetrieved env step context rules = r.decision step := by
  obtain ⟨rest, hscan⟩ := exists_scan step hdistinct hr hbefore
  rw [evaluateRetrieved, hscan, evaluateRules_applies happlies]

theorem evaluateRetrieved_invalid (hdistinct : DistinctPlaces rules) {q : ActiveRule}
    (hq : q ∈ rules) (hinvalid : q.verdict env context = .invalid)
    (hbefore : ∀ r ∈ rules, r.place < q.place → r.verdict env context ≠ .applies) :
    (evaluateRetrieved env step context rules).Blocks := by
  -- the first rule that does not pass comes no later than `q`, so it is invalid too
  obtain ⟨first, hfirst, hstops, hleast⟩ := Ranked.exists_first ActiveRule.place
    (p := fun r => r.verdict env context ≠ .passes) ⟨q, hq, by simp [hinvalid]⟩
  have hpass : ∀ r ∈ rules, r.place < first.place → r.verdict env context = .passes := by
    intro r hr hlt
    by_contra hnot
    exact absurd (hleast r hr hnot) (not_le.2 hlt)
  have hfirstInvalid : first.verdict env context = .invalid := by
    cases hverdict : first.verdict env context with
    | passes => exact absurd hverdict hstops
    | invalid => rfl
    | applies =>
      rcases lt_or_eq_of_le (hleast q hq (by simp [hinvalid])) with hlt | heq
      · exact absurd hverdict (hbefore first hfirst hlt)
      · rw [hdistinct first hfirst q hq heq, hinvalid] at hverdict
        cases hverdict
  obtain ⟨rest, hscan⟩ := exists_scan step hdistinct hfirst hpass
  rw [evaluateRetrieved]
  split
  · rename_i found hfound
    exact evaluateRules_invalid hfirstInvalid (hscan ▸ hfound)
  · exact ⟨rfl, rfl⟩

theorem evaluateRetrieved_default (h : ∀ r ∈ rules, r.verdict env context = .passes) :
    evaluateRetrieved env step context rules = workflowDefault step := by
  have hpass : ∀ q ∈ sortRules rules, q.verdict env context = .passes := fun q hq =>
    h q ((Ranked.mem_rank ActiveRule.place).1 hq)
  have hscan : evaluateRules env step context (sortRules rules ++ []) =
      evaluateRules env step context [] := evaluateRules_append hpass
  rw [List.append_nil] at hscan
  rw [evaluateRetrieved, hscan]
  rfl

theorem evaluateRetrieved_floor (hstep : step.requiresApproval = true) :
    (evaluateRetrieved env step context rules).effectiveOutcome ≠ .autoApprove := by
  rw [evaluateRetrieved]
  split
  · rename_i found hfound
    exact evaluateRules_floor hstep hfound
  · simp [evaluationError]

/-- The evaluation obeys the law. -/
theorem evaluateRetrieved_firstMatch (hdistinct : DistinctPlaces rules) :
    FirstMatch env step context rules (evaluateRetrieved env step context rules) where
  applies _ hr happlies hbefore := evaluateRetrieved_applies hdistinct hr happlies hbefore
  invalid _ hq hinvalid hbefore := evaluateRetrieved_invalid hdistinct hq hinvalid hbefore
  default := evaluateRetrieved_default
  floor := evaluateRetrieved_floor

/-- The evaluation does not depend on how the rules were retrieved. -/
theorem evaluateRetrieved_perm {retrieved : List ActiveRule} (hdistinct : DistinctPlaces rules)
    (hperm : retrieved.Perm rules) :
    evaluateRetrieved env step context retrieved = evaluateRetrieved env step context rules := by
  rw [evaluateRetrieved, evaluateRetrieved,
    show sortRules retrieved = sortRules rules from Ranked.rank_eq_of_perm hdistinct hperm]

-- ════════════════════════════════════════════════════════════════════════
-- The rules of an organization
-- ════════════════════════════════════════════════════════════════════════

theorem mem_activeRules {organization : ℕ} {s : Db} :
    r ∈ activeRules organization s ↔
      (s.reference.policies.get? r.policy.id = some r.policy.row ∧
        r.policy.row.organization = organization ∧ r.policy.row.isActive = true) ∧
      s.reference.policyRules.get? r.rule.id = some r.rule.row ∧
        r.rule.row.policy = r.policy.id ∧ r.rule.row.isActive = true := by
  obtain ⟨⟨p, policy⟩, ⟨i, rule⟩⟩ := r
  simp only [activeRules, List.mem_flatMap, List.mem_map, ActiveRule.mk.injEq]
  constructor
  · rintro ⟨⟨p', policy'⟩, hpolicy, ⟨i', rule'⟩, hrule, hp, hr⟩
    cases hp
    cases hr
    simpa [mem_rowsWhere] using And.intro hpolicy hrule
  · rintro ⟨⟨hget, horg, hactive⟩, hrule, hof, hruleActive⟩
    exact ⟨⟨p, policy⟩, by simp [mem_rowsWhere, hget, horg, hactive], ⟨i, rule⟩,
      by simp [mem_rowsWhere, hrule, hof, hruleActive], rfl, rfl⟩

theorem activeRules_distinct (organization : ℕ) (s : Db) :
    DistinctPlaces (activeRules organization s) := by
  rintro ⟨⟨p, policy⟩, ⟨i, rule⟩⟩ ha ⟨⟨p', policy'⟩, ⟨i', rule'⟩⟩ hb hplace
  simp only [ActiveRule.place, EmbeddingLike.apply_eq_iff_eq, Prod.mk.injEq] at hplace
  obtain ⟨-, -, rfl, rfl⟩ := hplace
  obtain ⟨⟨hpolicy, -, -⟩, hrule, -, -⟩ := mem_activeRules.1 ha
  obtain ⟨⟨hpolicy', -, -⟩, hrule', -, -⟩ := mem_activeRules.1 hb
  cases hpolicy.symm.trans hpolicy'
  cases hrule.symm.trans hrule'
  rfl

/-- The evaluation of a step of the execution obeys the law over the active rules of the
organization, in whatever order they are retrieved. -/
theorem first_matching_rule_decides {execution : Loaded Execution} {step : Loaded ExecutionStep}
    {evaluatedAt : Time} {context : EvaluationContext} (env : Env) (s : Db)
    (hstep : step.row.execution = execution.id)
    (hcontext : buildEvaluationContext execution.row step.row evaluatedAt = .ok context) :
    ∃ found, evaluateStepPolicy env execution step evaluatedAt s = .ok found ∧
      FirstMatch env step.row context (activeRules execution.row.organization s) found ∧
      ∀ retrieved, retrieved.Perm (activeRules execution.row.organization s) →
        evaluateRetrieved env step.row context retrieved = found := by
  have hdistinct := activeRules_distinct execution.row.organization s
  refine ⟨_, ?_, evaluateRetrieved_firstMatch hdistinct,
    fun retrieved hperm => evaluateRetrieved_perm hdistinct hperm⟩
  unfold evaluateStepPolicy evaluateRetrieved
  simp only [hstep, ne_eq, not_true_eq_false, if_false, hcontext, ok_bind]
  cases evaluateRules env step.row context
    (sortRules (activeRules execution.row.organization s)) <;> rfl

/-- Two policies with a rule of one priority each; the second policy is the older one. -/
def twoPolicies : Db :=
  .initial
    { Reference.sample with
      policies := ⟨[{ organization := 0, createdAt := 5 }, { organization := 0, createdAt := 3 }]⟩
      policyRules := ⟨[
        { policy := 0
          priority := 1
          conditionType := .riskLevel
          conditionParams := .obj [("operator", .str "equals"), ("value", .str "high")]
          outcome := .block },
        { policy := 1
          priority := 1
          conditionType := .stepType
          conditionParams := .obj [("operator", .str "equals"), ("value", .str "manual_task")]
          outcome := .approvalRequired }]⟩ } 10

/-- An execution of the organization. -/
def Execution.sample : Execution :=
  { organization := 0, workflow := 0, workflowVersion := 1, workflowSnapshot := .obj [] }

/-- A risky step of the execution that a human does. -/
def ExecutionStep.sample : ExecutionStep where
  execution := 0
  position := 0
  stepKey := "restart"
  name := "Restart"
  stepType := "manual_task"
  riskLevel := "high"

/-- What conditions see of the step. -/
def EvaluationContext.sample : EvaluationContext where
  riskLevel := "high"
  stepType := "manual_task"
  executionMode := "live"
  actionType := .str ""
  actionVersion := .str ""
  idempotencyMode := .str ""
  mutatesTarget := ""
  evaluatedAt := 0

theorem first_matching_rule_decides_sample :
    ∃ found, evaluateStepPolicy .sample ⟨0, .sample⟩ ⟨0, .sample⟩ 0 twoPolicies = .ok found ∧
      FirstMatch .sample .sample .sample (activeRules 0 twoPolicies) found ∧
      ∀ retrieved, retrieved.Perm (activeRules 0 twoPolicies) →
        evaluateRetrieved .sample .sample .sample retrieved = found :=
  @first_matching_rule_decides ⟨0, .sample⟩ ⟨0, .sample⟩ 0 .sample .sample twoPolicies rfl rfl

/-- The rule of the older policy decides. -/
example : (evaluateStepPolicy .sample ⟨0, .sample⟩ ⟨0, .sample⟩ 0 twoPolicies).toOption.map
    Evaluated.outcome = some .approvalRequired := by decide

end RunbookPlatform
