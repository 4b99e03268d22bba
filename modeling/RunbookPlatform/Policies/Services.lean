import RunbookPlatform.Policies.Evaluation
import RunbookPlatform.Sessions.Machine

/-!
# Policy services

Administrators create policies and their rules, and edit both. Each service is a program of
statements, so that calls can overlap: an edit is checked against the row that was loaded for the
request, and its fields are written to the row as it is when the lock is given.

## Main definitions

- `StoredPolicy`, `StoredRule`, `PolicyDb` — the tables of the services
- `PolicyChanges`, `RuleChanges` — the fields of an edit
- `checkPolicyName`, `checkRulePriority`, `checkRuleName`, `checkRuleCondition` — the guards
- `PolicyOp`, `PolicyPos`, `policyMachine` — the services as programs
-/

namespace RunbookPlatform

open Transactional Sessions

-- ════════════════════════════════════════════════════════════════════════
-- Tables
-- ════════════════════════════════════════════════════════════════════════

/-- The policy table, with the column that only its own services read. -/
structure StoredPolicy extends Policy where
  name : String

/-- The rule table, with the column that only its own services read. -/
structure StoredRule extends PolicyRule where
  name : String

/-- The tables of the services. -/
structure PolicyDb where
  policies : Table StoredPolicy := .empty
  rules : Table StoredRule := .empty

/-- The rules as an evaluation reads them. -/
def PolicyDb.policyRules (d : PolicyDb) : Table PolicyRule :=
  ⟨d.rules.rows.map StoredRule.toPolicyRule⟩

/-- The name belongs to an active policy of the organization other than policy `self`. -/
def PolicyDb.policyNameTaken (d : PolicyDb) (organization : ℕ) (name : String)
    (self : Option ℕ) : Bool :=
  (d.policies.find? fun j row =>
    row.organization = organization && row.name = name && row.isActive && self ≠ some j).isSome

/-- The priority belongs to a rule of the policy other than rule `self`. -/
def PolicyDb.priorityTaken (d : PolicyDb) (policy priority : ℕ) (self : Option ℕ) : Bool :=
  (d.rules.find? fun j row =>
    row.policy = policy && row.priority = priority && self ≠ some j).isSome

/-- The name belongs to a rule of the policy other than rule `self`. -/
def PolicyDb.ruleNameTaken (d : PolicyDb) (policy : ℕ) (name : String) (self : Option ℕ) : Bool :=
  (d.rules.find? fun j row =>
    row.policy = policy && row.name = name && self ≠ some j).isSome

/-- The fields that `update_policy` is called with. -/
structure PolicyChanges where
  name : Option String := none
  isActive : Option Bool := none

/-- `setattr` of every field. -/
def PolicyChanges.apply (changes : PolicyChanges) (row : StoredPolicy) : StoredPolicy :=
  { row with
    name := changes.name.getD row.name
    isActive := changes.isActive.getD row.isActive }

/-- The fields that `update_rule` is called with. -/
structure RuleChanges where
  name : Option String := none
  isActive : Option Bool := none
  priority : Option ℕ := none
  conditionType : Option ConditionType := none
  conditionParams : Option Json := none
  outcome : Option PolicyOutcome := none
  reason : Option String := none

namespace RuleChanges

/-- `setattr` of every field. -/
def apply (changes : RuleChanges) (row : StoredRule) : StoredRule :=
  { row with
    name := changes.name.getD row.name
    isActive := changes.isActive.getD row.isActive
    priority := changes.priority.getD row.priority
    conditionType := changes.conditionType.getD row.conditionType
    conditionParams := changes.conditionParams.getD row.conditionParams
    outcome := changes.outcome.getD row.outcome
    reason := changes.reason.getD row.reason }

/-- `"condition_type" in changes or "condition_params" in changes`. -/
def touchesCondition (changes : RuleChanges) : Bool :=
  changes.conditionType.isSome || changes.conditionParams.isSome

/-- One part of the condition changes, and the other one is kept. -/
def keepsPart (changes : RuleChanges) : Bool :=
  changes.conditionType.isSome != changes.conditionParams.isSome

end RuleChanges

-- ════════════════════════════════════════════════════════════════════════
-- The services
-- ════════════════════════════════════════════════════════════════════════

/-- The error of a name that is taken by an active policy. -/
def duplicateActivePolicyName (name : String) : Err :=
  .conflict "duplicate_active_policy_name"
    s!"An active policy named '{name}' already exists for this organization."

/-- The error of a priority that is not positive. -/
def invalidRulePriority : Err :=
  .validation "invalid_rule_priority" "Rule priority must be greater than 0."

/-- The error of a priority that is taken. -/
def duplicateRulePriority (priority : ℕ) : Err :=
  .conflict "duplicate_rule_priority"
    s!"A rule with priority {priority} already exists in this policy."

/-- The error of a name that is taken. -/
def duplicateRuleName (name : String) : Err :=
  .conflict "duplicate_rule_name" s!"A rule named '{name}' already exists in this policy."

/-- The check of `create_policy`. -/
def checkNewPolicy (d : PolicyDb) (row : StoredPolicy) : Except Err Unit :=
  check ((row.isActive && d.policyNameTaken row.organization row.name none) = false)
    (duplicateActivePolicyName row.name)

/-- The check of `update_policy`, on the policy that was loaded: of a name that an active policy
gets, and of the name of a policy that becomes active. -/
def checkPolicyName (d : PolicyDb) (i : ℕ) (row : StoredPolicy) (changes : PolicyChanges) :
    Except Err Unit :=
  let name := (changes.apply row).name
  if (changes.apply row).isActive = true ∧ (name ≠ row.name ∨ row.isActive = false) then
    check (d.policyNameTaken row.organization name (some i) = false)
      (duplicateActivePolicyName name)
  else .ok ()

/-- The check of the priority in `update_rule`, on the rule that was loaded. -/
def checkRulePriority (d : PolicyDb) (i : ℕ) (row : StoredRule) (changes : RuleChanges) :
    Except Err Unit :=
  match changes.priority with
  | none => .ok ()
  | some priority =>
    if priority = row.priority then .ok ()
    else do
      check (0 < priority) invalidRulePriority
      check (d.priorityTaken row.policy priority (some i) = false) (duplicateRulePriority priority)

/-- The check of the name in `update_rule`. -/
def checkRuleName (d : PolicyDb) (i : ℕ) (row : StoredRule) (changes : RuleChanges) :
    Except Err Unit :=
  match changes.name with
  | none => .ok ()
  | some name =>
    if name = row.name then .ok ()
    else check (d.ruleNameTaken row.policy name (some i) = false) (duplicateRuleName name)

/-- What the services lock. -/
inductive PolicyLock where
  | policy (i : ℕ)
  | rule (i : ℕ)
  deriving DecidableEq

/-- The saves of the services, each with its audit event. -/
inductive PolicyWrite where
  | insertPolicy (row : StoredPolicy)
  | updatePolicy (policy : ℕ) (changes : PolicyChanges)
  | insertRule (row : StoredRule)
  | updateRule (rule : ℕ) (changes : RuleChanges)

/-- What a save does. -/
def PolicyWrite.apply : PolicyWrite → PolicyDb → PolicyDb
  | insertPolicy row, d => { d with policies := d.policies.insert row }
  | updatePolicy i changes, d => { d with policies := d.policies.modify i changes.apply }
  | insertRule row, d => { d with rules := d.rules.insert row }
  | updateRule i changes, d => { d with rules := d.rules.modify i changes.apply }

/-- The calls with their arguments. -/
inductive PolicyOp where
  | createPolicy (row : StoredPolicy)
  | updatePolicy (policy : ℕ) (changes : PolicyChanges)
  | createRule (row : StoredRule)
  | updateRule (rule : ℕ) (changes : RuleChanges)

/-- `deactivate_rule`. -/
def PolicyOp.deactivateRule (rule : ℕ) : PolicyOp := .updateRule rule { isActive := some false }

/-- Where the program of a call is. -/
inductive PolicyPos where
  | call (op : PolicyOp)
  /-- The name of a new policy is free. -/
  | policyNamed (row : StoredPolicy)
  | policyInserted (row : StoredPolicy)
  /-- The view has loaded policy `policy` as `row`. -/
  | policyLoaded (policy : ℕ) (row : StoredPolicy) (changes : PolicyChanges)
  /-- Before the lock of the policy. -/
  | policyChecked (policy : ℕ) (row : StoredPolicy) (changes : PolicyChanges)
  | policyLocked (policy : ℕ) (row : StoredPolicy) (changes : PolicyChanges)
  | policyUpdated (policy : ℕ) (row : StoredPolicy) (changes : PolicyChanges)
  /-- Before the priority of a new rule is looked for, its name, and the insertion. -/
  | validated (row : StoredRule)
  | prioritized (row : StoredRule)
  | named (row : StoredRule)
  | inserted (row : StoredRule)
  /-- The view has loaded rule `rule` as `row`. -/
  | loaded (rule : ℕ) (row : StoredRule) (changes : RuleChanges)
  | reprioritized (rule : ℕ) (row : StoredRule) (changes : RuleChanges)
  /-- Before the lock of the rule. -/
  | checked (rule : ℕ) (row : StoredRule) (changes : RuleChanges)
  | locked (rule : ℕ) (row : StoredRule) (changes : RuleChanges)
  | updated (rule : ℕ) (row : StoredRule) (changes : RuleChanges)
  | failed (e : Err)
  | raised (e : Err)
  | done

/-- Go on where a guard leads. -/
def PolicyPos.after (guarded : Except Err Unit) (next : PolicyPos) : PolicyPos :=
  match guarded with
  | .ok () => next
  | .error e => .failed e

theorem PolicyPos.after_elim {p : PolicyPos → Prop} {guarded : Except Err Unit} {next : PolicyPos}
    (hfailed : ∀ e, p (.failed e)) (hnext : guarded = .ok () → p next) :
    p (PolicyPos.after guarded next) := by
  cases guarded with
  | error e => exact hfailed e
  | ok => exact hnext rfl

section

variable (env : Env)

/-- The guards of `create_rule` on its arguments. -/
def checkNewRule (row : StoredRule) : Except Err Unit := do
  check (0 < row.priority) invalidRulePriority
  validateConditionParams env row.conditionType row.conditionParams

/-- The check of the condition in `update_rule`: of what the changes make of the loaded rule. -/
def checkRuleCondition (row : StoredRule) (changes : RuleChanges) : Except Err Unit :=
  if changes.touchesCondition then
    validateConditionParams env (changes.apply row).conditionType
      (changes.apply row).conditionParams
  else .ok ()

/-- The first statement of a call. For all but `create_policy` the view loads a row. -/
def PolicyOp.stmt : PolicyOp → Stmt PolicyDb PolicyLock PolicyWrite Unit PolicyPos
  | createPolicy row => .query fun d => .after (checkNewPolicy d row) (.policyNamed row)
  | updatePolicy i changes =>
    .query fun d =>
      match d.policies.get? i with
      | some row => .policyLoaded i row changes
      | none => .failed (.notFound "Policy")
  | createRule row =>
    .query fun d =>
      match d.policies.get? row.policy with
      | some _ => .after (checkNewRule env row) (.validated row)
      | none => .failed (.notFound "Policy")
  | updateRule i changes =>
    .query fun d =>
      match d.rules.get? i with
      | some row => .loaded i row changes
      | none => .failed (.notFound "PolicyRule")

/-- The statement at a position. -/
def PolicyPos.stmt : PolicyPos → Stmt PolicyDb PolicyLock PolicyWrite Unit PolicyPos
  | call op => op.stmt env
  | policyNamed row => .write (.insertPolicy row) (.policyInserted row)
  | policyInserted _ => .commit fun _ => .done
  | policyLoaded i row changes =>
    .query fun d => .after (checkPolicyName d i row changes) (.policyChecked i row changes)
  | policyChecked i row changes =>
    .lock (fun d => (d.policies.get? i).elim [] fun _ => [.policy i]) fun d =>
      match d.policies.get? i with
      | some _ => .policyLocked i row changes
      | none => .failed (.notFound "Policy")
  | policyLocked i row changes => .write (.updatePolicy i changes) (.policyUpdated i row changes)
  | policyUpdated _ _ _ => .commit fun _ => .done
  | validated row =>
    .query fun d =>
      if d.priorityTaken row.policy row.priority none then
        .failed (duplicateRulePriority row.priority)
      else .prioritized row
  | prioritized row =>
    .query fun d =>
      if d.ruleNameTaken row.policy row.name none then .failed (duplicateRuleName row.name)
      else .named row
  | named row => .write (.insertRule row) (.inserted row)
  | inserted _ => .commit fun _ => .done
  | loaded i row changes =>
    .query fun d => .after (checkRulePriority d i row changes) (.reprioritized i row changes)
  | reprioritized i row changes =>
    .query fun d =>
      .after (do checkRuleName d i row changes; checkRuleCondition env row changes)
        (.checked i row changes)
  | checked i row changes =>
    .lock (fun d => (d.rules.get? i).elim [] fun now => [.rule i, .policy now.policy]) fun d =>
      match d.rules.get? i with
      | some _ => .locked i row changes
      | none => .failed (.notFound "PolicyRule")
  | locked i row changes => .write (.updateRule i changes) (.updated i row changes)
  | updated _ _ _ => .commit fun _ => .done
  | failed e => .rollback (.raised e)
  | raised _ | done => .stop

/-- The services. -/
def policyMachine : Machine PolicyDb PolicyLock PolicyWrite Unit PolicyPos where
  stmt := PolicyPos.stmt env
  apply := PolicyWrite.apply
  rescue _ := .raised (.uncaught "Exception")
  start
    | .call _ => true
    | _ => false

end

/-- A database in which no service has been called. -/
def PolicyDb.Fresh (d : PolicyDb) (_ : Unit) : Prop := d.policies = .empty ∧ d.rules = .empty

/-- What the transaction of a position has written. -/
def PolicyPos.written : PolicyPos → List PolicyWrite
  | policyInserted row => [.insertPolicy row]
  | policyUpdated i _ changes => [.updatePolicy i changes]
  | inserted row => [.insertRule row]
  | updated i _ changes => [.updateRule i changes]
  | _ => []

/-- A session moves on, statement by statement. -/
def policyMoves (i n : ℕ) : List (Label PolicyPos) := List.replicate n (.move i)

/-- A policy to run examples with. -/
def StoredPolicy.sample : StoredPolicy where
  organization := 0
  name := "Safety"
  createdAt := 0

end RunbookPlatform
