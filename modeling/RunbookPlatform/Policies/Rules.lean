import RunbookPlatform.Policies.FirstMatch
import RunbookPlatform.Policies.Services
import RunbookPlatform.Policies.TimeWindow

/-!
# The rules that are stored

An edit of a rule is checked against the rule as it was loaded, and written to the rule as it is:
two edits that overlap can each be valid and leave a rule that is not. When no edit of a condition
is committed while another one rests on it, every stored rule is valid, and no evaluation fails
because of one.

## Main definitions

- `PolicyRule.Valid` — the rule passes the checks of the services
- `PolicyPos.restsOn`, `conditionsInTurn` — which edits may be committed beside which others
- `RuleSession` — what a session knows of the rule it creates or edits

## Main results

- `RuleChanges.valid_apply` — what was checked against one row is valid on another
- `stored_rules_evaluate`
- `edits_overlap` — two edits that together leave an invalid rule
-/

namespace RunbookPlatform

open Transactional Sessions

/-- The rule whose condition an edit has read to keep a part of it. -/
def PolicyPos.restsOn : PolicyPos → Option ℕ
  | loaded i _ changes | reprioritized i _ changes | checked i _ changes | locked i _ changes
  | updated i _ changes => if changes.keepsPart then some i else none
  | _ => none

/-- An edit of a condition may be committed unless another edit rests on the rule. -/
def conditionsInTurn : Schedule PolicyLock PolicyWrite PolicyPos where
  move s t :=
    match s.pos with
    | .updated i _ changes => !changes.touchesCondition || t.pos.restsOn ≠ some i
    | _ => true

-- ════════════════════════════════════════════════════════════════════════
-- Valid rules
-- ════════════════════════════════════════════════════════════════════════

/-- The condition of a rule. -/
def PolicyRule.condition (row : PolicyRule) : ConditionType × Json :=
  (row.conditionType, row.conditionParams)

/-- The rule passes the checks of the services. -/
structure PolicyRule.Valid (env : Env) (row : PolicyRule) : Prop where
  priority : 0 < row.priority
  condition : validateConditionParams env row.conditionType row.conditionParams = .ok ()

/-- Every stored rule is valid. -/
def RulesValid (env : Env) (d : PolicyDb) : Prop :=
  ∀ i row, d.rules.get? i = some row → row.Valid env

variable {env : Env} {d d' : PolicyDb} {i : ℕ} {row now : StoredRule} {changes : RuleChanges}

/-- The priority that an edit writes is positive. -/
def RuleChanges.Positive (changes : RuleChanges) : Prop :=
  ∀ priority, changes.priority = some priority → 0 < priority

/-- The rule was loaded, and its condition is as it was, if the edit keeps a part of it. -/
structure RuleChanges.Rests (changes : RuleChanges) (d : PolicyDb) (i : ℕ) (row : StoredRule) :
    Prop where
  loaded : i < d.rules.next
  kept : changes.keepsPart = true →
    ∀ now, d.rules.get? i = some now → now.condition = row.condition

theorem checkNewRule_ok (h : checkNewRule env row = .ok ()) : row.Valid env := by
  obtain ⟨⟨⟩, hpriority, hcondition⟩ := except_bind_ok.1 h
  exact ⟨check_ok.1 hpriority, hcondition⟩

theorem checkRulePriority_ok (hrow : 0 < row.priority)
    (h : checkRulePriority d i row changes = .ok ()) : changes.Positive := by
  intro priority hpriority
  simp only [checkRulePriority, hpriority] at h
  split_ifs at h with hsame
  · exact hsame ▸ hrow
  · obtain ⟨⟨⟩, hpositive, -⟩ := except_bind_ok.1 h
    exact check_ok.1 hpositive

/-- **What was checked against one row** is valid on another one, which has the condition that the
edit keeps. -/
theorem RuleChanges.valid_apply (hnow : now.Valid env) (hpositive : changes.Positive)
    (hchecked : checkRuleCondition env row changes = .ok ())
    (hkept : changes.keepsPart = true → now.condition = row.condition) :
    (changes.apply now).Valid env := by
  refine ⟨?_, ?_⟩
  · cases hpriority : changes.priority with
    | none => simpa [apply, hpriority] using hnow.priority
    | some priority => simpa [apply, hpriority] using hpositive priority hpriority
  · unfold checkRuleCondition touchesCondition at hchecked
    unfold keepsPart at hkept
    cases htype : changes.conditionType <;> cases hparams : changes.conditionParams <;>
      simp only [htype, hparams, apply, Option.isSome_none, Option.isSome_some, Option.getD_none,
        Option.getD_some, Bool.or_false, Bool.or_true, Bool.false_eq_true, if_false, if_true,
        bne_self_eq_false, Bool.false_bne, Bool.true_bne, Bool.not_false,
        PolicyRule.condition, Prod.mk.injEq, forall_const, IsEmpty.forall_iff]
        at hchecked hkept ⊢
    · exact hnow.condition
    · rw [hkept.1]
      exact hchecked
    · rw [hkept.2]
      exact hchecked
    · exact hchecked

/-- An edit that leaves the condition alone. -/
theorem RuleChanges.condition_apply (h : changes.touchesCondition = false) (row : StoredRule) :
    (changes.apply row).condition = row.condition := by
  simp only [touchesCondition, Bool.or_eq_false_iff, Option.isSome_eq_false_iff,
    Option.isNone_iff_eq_none] at h
  simp [apply, PolicyRule.condition, h.1, h.2]

-- ════════════════════════════════════════════════════════════════════════
-- Sessions
-- ════════════════════════════════════════════════════════════════════════

/-- What the program knows at a position. -/
def PolicyPos.KnowsRule (env : Env) (d : PolicyDb) : PolicyPos → Prop
  | validated row | prioritized row | named row | inserted row => row.Valid env
  | loaded i row changes => 0 < row.priority ∧ changes.Rests d i row
  | reprioritized i row changes => changes.Positive ∧ changes.Rests d i row
  | checked i row changes | locked i row changes | updated i row changes =>
    changes.Positive ∧ changes.Rests d i row ∧ checkRuleCondition env row changes = .ok ()
  | _ => True

/-- What a session knows. -/
structure RuleSession (env : Env) (d : PolicyDb) (s : Session PolicyLock PolicyWrite PolicyPos) :
    Prop where
  pending : s.pending = s.pos.written
  knows : s.pos.KnowsRule env d

theorem RuleSession.failed {held : List PolicyLock} (e : Err) :
    RuleSession env d ⟨.failed e, [], held⟩ := ⟨rfl, trivial⟩

theorem RuleSession.after {held : List PolicyLock} {guarded : Except Err Unit} {next : PolicyPos}
    (hnext : guarded = .ok () → RuleSession env d ⟨next, [], held⟩) :
    RuleSession env d ⟨.after guarded next, [], held⟩ :=
  PolicyPos.after_elim (p := fun pos => RuleSession env d ⟨pos, [], held⟩) .failed hnext

/-- A new rule. -/
theorem RulesValid.insert (h : RulesValid env d) (hrow : row.Valid env) :
    RulesValid env (PolicyWrite.apply (.insertRule row) d) := by
  intro j later hlater
  change (d.rules.insert row).get? j = some later at hlater
  rw [Table.get?_insert] at hlater
  split_ifs at hlater
  · cases hlater
    exact hrow
  · exact h j later hlater

/-- An edit of a rule. -/
theorem RulesValid.update (h : RulesValid env d) (hpositive : changes.Positive)
    (hrests : changes.Rests d i row) (hchecked : checkRuleCondition env row changes = .ok ()) :
    RulesValid env (PolicyWrite.apply (.updateRule i changes) d) := by
  intro j later hlater
  change (d.rules.modify i changes.apply).get? j = some later at hlater
  rw [Table.get?_modify] at hlater
  split_ifs at hlater with hj
  · subst hj
    obtain ⟨now, hnow, rfl⟩ := Option.map_eq_some_iff.1 hlater
    exact changes.valid_apply (h j now hnow) hpositive hchecked fun hkept =>
      hrests.kept hkept now hnow
  · exact h j later hlater

/-- **One statement** keeps the rules valid, and what its session knows. -/
theorem RuleSession.advance {s : Session PolicyLock PolicyWrite PolicyPos} (w : Unit)
    (hvalid : RulesValid env d) (h : RuleSession env d s) :
    RulesValid env ((policyMachine env).advance d w s).1 ∧
      RuleSession env ((policyMachine env).advance d w s).1
        ((policyMachine env).advance d w s).2.2 := by
  obtain ⟨pos, pending, held⟩ := s
  obtain ⟨hpending, hknows⟩ := h
  change pending = pos.written at hpending
  subst hpending
  cases pos with
  | call op =>
    cases op with
    | createPolicy row => exact ⟨hvalid, .after fun _ => ⟨rfl, trivial⟩⟩
    | updatePolicy i changes =>
      refine ⟨hvalid, ?_⟩
      simp only [Machine.advance, policyMachine, PolicyPos.stmt, PolicyOp.stmt]
      split
      · exact ⟨rfl, trivial⟩
      · exact .failed _
    | createRule row =>
      refine ⟨hvalid, ?_⟩
      simp only [Machine.advance, policyMachine, PolicyPos.stmt, PolicyOp.stmt]
      split
      · exact .after fun hok => ⟨rfl, checkNewRule_ok hok⟩
      · exact .failed _
    | updateRule i changes =>
      refine ⟨hvalid, ?_⟩
      simp only [Machine.advance, policyMachine, PolicyPos.stmt, PolicyOp.stmt]
      split
      · rename_i row hrow
        refine ⟨rfl, (hvalid i row hrow).priority, Table.lt_next hrow, fun _ now hnow => ?_⟩
        cases hrow.symm.trans hnow
        rfl
      · exact .failed _
  | policyNamed row => exact ⟨hvalid, rfl, trivial⟩
  | policyInserted row => exact ⟨hvalid, rfl, trivial⟩
  | policyLoaded i row changes => exact ⟨hvalid, .after fun _ => ⟨rfl, trivial⟩⟩
  | policyChecked i row changes =>
    refine ⟨hvalid, ?_⟩
    simp only [Machine.advance, policyMachine, PolicyPos.stmt]
    split
    · exact ⟨rfl, trivial⟩
    · exact ⟨rfl, trivial⟩
  | policyLocked i row changes => exact ⟨hvalid, rfl, trivial⟩
  | policyUpdated i row changes => exact ⟨hvalid, rfl, trivial⟩
  | validated row =>
    refine ⟨hvalid, ?_⟩
    change RuleSession env d ⟨if d.priorityTaken row.policy row.priority none then
      .failed (duplicateRulePriority row.priority) else .prioritized row, [], held⟩
    split_ifs
    · exact .failed _
    · exact ⟨rfl, hknows⟩
  | prioritized row =>
    refine ⟨hvalid, ?_⟩
    change RuleSession env d ⟨if d.ruleNameTaken row.policy row.name none then
      .failed (duplicateRuleName row.name) else .named row, [], held⟩
    split_ifs
    · exact .failed _
    · exact ⟨rfl, hknows⟩
  | named row => exact ⟨hvalid, rfl, hknows⟩
  | inserted row => exact ⟨hvalid.insert hknows, rfl, trivial⟩
  | loaded i row changes =>
    exact ⟨hvalid, .after fun hok => ⟨rfl, checkRulePriority_ok hknows.1 hok, hknows.2⟩⟩
  | reprioritized i row changes =>
    refine ⟨hvalid, .after fun hok => ?_⟩
    obtain ⟨⟨⟩, -, hchecked⟩ := except_bind_ok.1 hok
    exact ⟨rfl, hknows.1, hknows.2, hchecked⟩
  | checked i row changes =>
    refine ⟨hvalid, ?_⟩
    simp only [Machine.advance, policyMachine, PolicyPos.stmt]
    split
    · exact ⟨rfl, hknows⟩
    · exact ⟨rfl, trivial⟩
  | locked i row changes => exact ⟨hvalid, rfl, hknows⟩
  | updated i row changes =>
    exact ⟨hvalid.update hknows.1 hknows.2.1 hknows.2.2, rfl, trivial⟩
  | failed e => exact ⟨hvalid, rfl, trivial⟩
  | raised e => exact ⟨hvalid, rfl, trivial⟩
  | done => exact ⟨hvalid, rfl, trivial⟩

/-- **A statement beside an edit** leaves what the edit rests on, unless it commits an edit of the
condition that the schedule keeps back. -/
theorem RuleChanges.Rests.beside {s : Session PolicyLock PolicyWrite PolicyPos} (w : Unit)
    (h : changes.Rests d i row) (hs : RuleSession env d s)
    (hmay : ∀ r c, s.pos = .updated i r c → c.touchesCondition = true →
      changes.keepsPart = false) :
    changes.Rests ((policyMachine env).advance d w s).1 i row := by
  obtain ⟨pos, pending, held⟩ := s
  have hpending : pending = pos.written := hs.pending
  subst hpending
  cases pos with
  | call op => cases op <;> exact h
  | inserted new =>
    refine ⟨?_, fun hkept now hnow => h.kept hkept now ?_⟩
    · change i < (d.rules.insert new).next
      rw [Table.next_insert]
      exact h.loaded.trans (Nat.lt_succ_self _)
    · change (d.rules.insert new).get? i = some now at hnow
      rwa [Table.get?_insert, if_neg (Nat.ne_of_lt h.loaded)] at hnow
  | updated j r c =>
    refine ⟨?_, fun hkept now hnow => ?_⟩
    · change i < (d.rules.modify j c.apply).next
      rw [Table.next_modify]
      exact h.loaded
    · change (d.rules.modify j c.apply).get? i = some now at hnow
      rw [Table.get?_modify] at hnow
      split_ifs at hnow with hj
      · subst hj
        obtain ⟨old, hold, rfl⟩ := Option.map_eq_some_iff.1 hnow
        cases htouches : c.touchesCondition with
        | true => cases (hmay r c rfl htouches).symm.trans hkept
        | false =>
          rw [c.condition_apply htouches]
          exact h.kept hkept old hold
      · exact h.kept hkept now hnow
  | policyInserted new => exact ⟨h.loaded, h.kept⟩
  | policyUpdated j r c => exact ⟨h.loaded, h.kept⟩
  | _ => exact h

/-- A statement beside a session leaves what it knows, if the schedule admits it. -/
theorem RuleSession.beside {s t : Session PolicyLock PolicyWrite PolicyPos} (w : Unit)
    (hs : RuleSession env d s) (ht : RuleSession env d t)
    (hmay : conditionsInTurn.move s t = true) :
    RuleSession env ((policyMachine env).advance d w s).1 t := by
  refine ⟨ht.pending, ?_⟩
  have hknows := ht.knows
  have hkeeps : ∀ i (changes : RuleChanges),
      t.pos.restsOn = (if changes.keepsPart then some i else none) →
        ∀ r c, s.pos = .updated i r c → c.touchesCondition = true →
          changes.keepsPart = false := by
    intro i changes hrests r c hpos htouches
    simp only [conditionsInTurn, hpos, htouches, hrests] at hmay
    cases hkept : changes.keepsPart with
    | false => rfl
    | true => simp [hkept] at hmay
  cases hpos : t.pos with
  | loaded i row changes =>
    rw [hpos] at hknows
    exact ⟨hknows.1, hknows.2.beside w hs (hkeeps i changes (by rw [hpos]; rfl))⟩
  | reprioritized i row changes =>
    rw [hpos] at hknows
    exact ⟨hknows.1, hknows.2.beside w hs (hkeeps i changes (by rw [hpos]; rfl))⟩
  | checked i row changes | locked i row changes | updated i row changes =>
    rw [hpos] at hknows
    exact ⟨hknows.1, hknows.2.1.beside w hs (hkeeps i changes (by rw [hpos]; rfl)), hknows.2.2⟩
  | _ =>
    rw [hpos] at hknows
    exact hknows

-- ════════════════════════════════════════════════════════════════════════
-- Evaluations
-- ════════════════════════════════════════════════════════════════════════

/-- A time zone that is accepted converts every instant. -/
def Env.ConvertsZones (env : Env) : Prop :=
  ∀ zone now accepted, env.localTime zone 0 = .ok accepted →
    ∃ converted, env.localTime zone now = .ok converted

/-- A condition that passes the checks is evaluated. -/
theorem evaluateCondition_valid {conditionType : ConditionType} {params : Json}
    {context : EvaluationContext} (hzones : env.ConvertsZones)
    (h : validateConditionParams env conditionType params = .ok ()) :
    ∃ applies, evaluateCondition env conditionType params context = .ok applies := by
  cases conditionType with
  | timeWindow =>
    simp only [validateConditionParams, validateTimeWindowCondition, except_bind_ok] at h
    obtain ⟨-, -, zone, hzone, accepted, haccepted, -⟩ := h
    have hname : windowText params "timezone" = zone := by
      cases htext : (params.getD "timezone" .null).str? with
      | none =>
        rw [htext] at hzone
        cases hzone
      | some name =>
        rw [htext] at hzone
        cases hzone
        simp [windowText, htext]
    obtain ⟨⟨day, clock⟩, hconverted⟩ := hzones zone context.evaluatedAt accepted haccepted
    exact ⟨_, evaluateTimeWindowCondition_of_local (hname ▸ hconverted)⟩
  | _ => exact ⟨_, rfl⟩

/-- An evaluation by valid rules does not fail. -/
theorem evaluateRules_valid {step : ExecutionStep} {context : EvaluationContext}
    {rules : List ActiveRule} (hzones : env.ConvertsZones)
    (h : ∀ r ∈ rules, r.rule.row.Valid env) :
    ∃ found, evaluateRules env step context rules = .ok found ∧ found.errorCode = "" := by
  induction rules with
  | nil => exact ⟨_, rfl, rfl⟩
  | cons r rest ih =>
    have hvalid := (h r List.mem_cons_self).condition
    obtain ⟨applies, happlies⟩ : ∃ applies, evaluateCondition env r.rule.row.conditionType
        r.rule.row.conditionParams context = .ok applies :=
      evaluateCondition_valid hzones hvalid
    cases applies with
    | true =>
      refine ⟨r.decision step, ?_, rfl⟩
      rw [evaluateRules, hvalid, happlies]
      rfl
    | false =>
      rw [evaluateRules, hvalid, happlies]
      exact ih fun q hq => h q (List.mem_cons_of_mem r hq)

theorem evaluateStepPolicy_valid {execution : Loaded Execution} {step : Loaded ExecutionStep}
    {evaluatedAt : Time} {s : Db} {found : Evaluated} (hzones : env.ConvertsZones)
    (hrules : RulesValid env d) (hreads : s.reference.policyRules = d.policyRules)
    (h : evaluateStepPolicy env execution step evaluatedAt s = .ok found) :
    found.errorCode = "" := by
  have hvalid : ∀ r ∈ sortRules (activeRules execution.row.organization s),
      r.rule.row.Valid env := by
    intro r hr
    have hstored := (mem_activeRules.1 (((List.perm_insertionSort _ _).mem_iff).1 hr)).2.1
    rw [hreads] at hstored
    simp only [PolicyDb.policyRules, Table.get?, List.getElem?_map, Option.map_eq_some_iff]
      at hstored
    obtain ⟨row, hrow, heq⟩ := hstored
    exact heq ▸ hrules r.rule.id row hrow
  unfold evaluateStepPolicy at h
  split_ifs at h with hstep
  · cases h
  · cases hcontext : buildEvaluationContext execution.row step.row evaluatedAt with
    | error e =>
      rw [hcontext] at h
      cases h
    | ok context =>
      obtain ⟨decided, hdecided, hcode⟩ : ∃ decided, evaluateRules env step.row context
          (sortRules (activeRules execution.row.organization s)) = .ok decided ∧
          decided.errorCode = "" :=
        evaluateRules_valid hzones hvalid
      simp only [hcontext, ok_bind, hdecided] at h
      cases h
      exact hcode

-- ════════════════════════════════════════════════════════════════════════
-- Runs
-- ════════════════════════════════════════════════════════════════════════

/-- What edits of conditions in turn keep to. -/
def ruleDiscipline (env : Env) :
    Discipline (policyMachine env) conditionsInTurn PolicyDb.Fresh where
  Inv d _ := RulesValid env d
  Ok d _ s := RuleSession env d s
  Apart _ _ := True
  symm _ := trivial
  initial {d w} h i row hrow := by
    rw [h.2] at hrow
    simp [Table.empty, Table.get?] at hrow
  started {d w p} hp := by
    cases p with
    | call op => exact ⟨⟨rfl, trivial⟩, fun _ => trivial⟩
    | _ => cases hp
  advance {d w s} hvalid hs := hs.advance w hvalid
  others {d w s t} _ hs ht _ _ hmay := ⟨hs.beside w ht hmay, trivial⟩
  raised {d w s} _ _ _ := ⟨⟨rfl, trivial⟩, fun _ _ => trivial⟩

/-- **Stored rules evaluate.** In every run of the policy services in which no edit of a condition
is committed while another edit rests on it, every stored rule passes the checks of the services,
and no evaluation that reads the rules fails. -/
theorem stored_rules_evaluate {c : Config PolicyDb PolicyLock PolicyWrite Unit PolicyPos}
    (hzones : env.ConvertsZones) (h : (policyMachine env).Reach conditionsInTurn PolicyDb.Fresh c) :
    RulesValid env c.db ∧
      ∀ (s : Db) (execution : Loaded Execution) (step : Loaded ExecutionStep) (evaluatedAt : Time)
        (found : Evaluated), s.reference.policyRules = c.db.policyRules →
          evaluateStepPolicy env execution step evaluatedAt s = .ok found →
            found.errorCode = "" :=
  have hrules := ((ruleDiscipline env).holds h).inv
  ⟨hrules, fun _ _ _ _ _ hreads hfound => evaluateStepPolicy_valid hzones hrules hreads hfound⟩

/-- A rule about steps with a high risk. -/
def highRisk : StoredRule where
  policy := 0
  name := "High risk"
  priority := 1
  conditionType := .riskLevel
  conditionParams := .obj [("operator", .str "equals"), ("value", .str "high")]
  outcome := .block

/-- The values of the condition are edited. -/
def criticalToo : RuleChanges where
  conditionParams := some
    (.obj [("operator", .str "in"), ("values", .arr [.str "high", .str "critical"])])

/-- The condition becomes a time window. -/
def inOfficeHours : RuleChanges where
  conditionType := some .timeWindow
  conditionParams := some officeHours

/-- A policy gets a rule, which is edited twice, one edit after the other. -/
def editsInTurn : List (Label PolicyPos) :=
  .arrive (.call (.createPolicy .sample)) :: policyMoves 0 3 ++
  .arrive (.call (.createRule highRisk)) :: policyMoves 1 5 ++
  .arrive (.call (.updateRule 0 criticalToo)) :: policyMoves 2 6 ++
  .arrive (.call (.updateRule 0 inOfficeHours)) :: policyMoves 3 6

/-- What the edits lead to. -/
def editedInTurn : Config PolicyDb PolicyLock PolicyWrite Unit PolicyPos :=
  ((policyMachine .sample).runLabels conditionsInTurn editsInTurn ⟨{}, (), []⟩).get (by decide)

/-- The platform with these rules. -/
def PolicyDb.platform (d : PolicyDb) : Db :=
  .initial
    { Reference.sample with
      policies := ⟨d.policies.rows.map StoredPolicy.toPolicy⟩
      policyRules := d.policyRules } 0

theorem convertsZones_sample : Env.sample.ConvertsZones := fun _ _ _ _ => ⟨_, rfl⟩

theorem stored_rules_evaluate_editedInTurn :
    RulesValid .sample editedInTurn.db ∧
      ∀ (s : Db) (execution : Loaded Execution) (step : Loaded ExecutionStep) (evaluatedAt : Time)
        (found : Evaluated), s.reference.policyRules = editedInTurn.db.policyRules →
          evaluateStepPolicy .sample execution step evaluatedAt s = .ok found →
            found.errorCode = "" :=
  @stored_rules_evaluate .sample editedInTurn convertsZones_sample
    (Machine.Reach.runLabels (d := {}) ⟨rfl, rfl⟩ (Option.some_get (by decide)).symm)

/-- The rule is a time window now. -/
example : editedInTurn.db.rules.rows.map (·.conditionType) = [.timeWindow] := by decide

/-- The values are checked while the rule is about the risk, and written after it has become a time
window. -/
def editsTogether : List (Label PolicyPos) :=
  .arrive (.call (.createPolicy .sample)) :: policyMoves 0 3 ++
  .arrive (.call (.createRule highRisk)) :: policyMoves 1 5 ++
  [.arrive (.call (.updateRule 0 criticalToo)), .arrive (.call (.updateRule 0 inOfficeHours))] ++
  policyMoves 2 3 ++ policyMoves 3 6 ++ policyMoves 2 3

/-- What they lead to. -/
def editedTogether : Config PolicyDb PolicyLock PolicyWrite Unit PolicyPos :=
  ((policyMachine .sample).runLabels everyOrder editsTogether ⟨{}, (), []⟩).get (by decide)

/-- Two edits that overlap leave a rule that blocks every step. -/
theorem edits_overlap :
    (policyMachine .sample).Reach everyOrder PolicyDb.Fresh editedTogether ∧
      ∃ found, evaluateStepPolicy .sample ⟨0, .sample⟩ ⟨0, .sample⟩ 0 editedTogether.db.platform =
          .ok found ∧
        found.errorCode = "invalid_condition_params" ∧ found.effectiveOutcome = .block :=
  ⟨Machine.Reach.runLabels (d := {}) ⟨rfl, rfl⟩ (Option.some_get (by decide)).symm,
    _, rfl, rfl, rfl⟩

end RunbookPlatform
