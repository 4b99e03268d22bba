import RunbookPlatform.Policies.Services
import RunbookPlatform.System

/-!
# The names of active policies

`create_policy` and `update_policy` look for an active policy with the name before they save, and no
constraint of the table repeats the check. When no policy of an organization is saved between the
look of a call and its own save, the active policies of an organization have different names.

## Main definitions

- `NamesDiffer` — active policies of one organization have different names
- `NameFree` — no other active policy has the name
- `PolicyPos.claims`, `namesInTurn` — which policies may be saved beside which calls

## Main results

- `active_names_differ`
- `creations_overlap` — two creations that together give a name to two policies
-/

namespace RunbookPlatform

open Transactional Sessions

variable {env : Env} {d d' : PolicyDb} {i : ℕ} {row : StoredPolicy} {changes : PolicyChanges}

/-- Active policies of one organization have different names. -/
def NamesDiffer (d : PolicyDb) : Prop :=
  ∀ i j a b, d.policies.get? i = some a → d.policies.get? j = some b →
    a.isActive = true → b.isActive = true → a.organization = b.organization → a.name = b.name →
    i = j

/-- The organization whose policies a call has looked at, and is about to save a policy of. -/
def PolicyPos.claims : PolicyPos → Option ℕ
  | policyNamed row | policyInserted row | policyLoaded _ row _ | policyChecked _ row _
  | policyLocked _ row _ | policyUpdated _ row _ => some row.organization
  | _ => none

/-- A policy may be saved unless another call has looked at the policies of its organization. -/
def namesInTurn : Schedule PolicyLock PolicyWrite PolicyPos where
  move s t :=
    match s.pos with
    | .policyInserted row | .policyUpdated _ row _ => t.pos.claims ≠ some row.organization
    | _ => true

-- ════════════════════════════════════════════════════════════════════════
-- Free names
-- ════════════════════════════════════════════════════════════════════════

/-- No active policy of the organization has the name, but for policy `self`. -/
def NameFree (d : PolicyDb) (organization : ℕ) (name : String) (self : Option ℕ) : Prop :=
  ∀ j other, d.policies.get? j = some other → other.isActive = true →
    other.organization = organization → other.name = name → self = some j

theorem policyNameTaken_eq_false {organization : ℕ} {name : String} {self : Option ℕ} :
    d.policyNameTaken organization name self = false ↔ NameFree d organization name self := by
  rw [PolicyDb.policyNameTaken, Option.isSome_eq_false_iff, Option.isNone_iff_eq_none,
    Table.find?_none]
  refine forall_congr' fun j => forall_congr' fun other => imp_congr_right fun _ => ?_
  constructor
  · intro h hactive horganization hname
    simpa [hactive, horganization, hname] using h
  · intro h
    rw [Bool.eq_false_iff]
    intro hall
    simp only [Bool.and_eq_true, decide_eq_true_eq, ne_eq] at hall
    exact hall.2 (h hall.1.2 hall.1.1.1 hall.1.1.2)

theorem checkNewPolicy_ok (h : checkNewPolicy d row = .ok ()) (hactive : row.isActive = true) :
    NameFree d row.organization row.name none := by
  have hfree := check_ok.1 h
  rw [hactive, Bool.true_and] at hfree
  exact policyNameTaken_eq_false.1 hfree

theorem PolicyChanges.apply_organization (changes : PolicyChanges) (row : StoredPolicy) :
    (changes.apply row).organization = row.organization := rfl

/-- **A check that passes** leaves the name of an edited policy free: a policy that is active and
keeps its name has it alone. -/
theorem checkPolicyName_ok (hdiffer : NamesDiffer d) (hrow : d.policies.get? i = some row)
    (h : checkPolicyName d i row changes = .ok ())
    (hactive : (changes.apply row).isActive = true) :
    NameFree d row.organization (changes.apply row).name (some i) := by
  unfold checkPolicyName at h
  dsimp only at h
  split_ifs at h with hlooks
  · exact policyNameTaken_eq_false.1 (check_ok.1 h)
  · intro j other hother hotherActive horganization hname
    obtain ⟨hsame, hrowActive⟩ : (changes.apply row).name = row.name ∧ row.isActive = true := by
      by_contra hnot
      refine hlooks ⟨hactive, ?_⟩
      by_cases hname : (changes.apply row).name = row.name
      · exact .inr (Bool.eq_false_iff.2 fun hrowActive => hnot ⟨hname, hrowActive⟩)
      · exact .inl hname
    exact congrArg some (hdiffer i j row other hrow hother hrowActive hotherActive
      horganization.symm (hsame.symm.trans hname.symm))

/-- A policy with a free name is added. -/
theorem NamesDiffer.insert (h : NamesDiffer d)
    (hfree : row.isActive = true → NameFree d row.organization row.name none) :
    NamesDiffer (PolicyWrite.apply (.insertPolicy row) d) := by
  have hother : ∀ j other, d.policies.get? j = some other → row.isActive = true →
      other.isActive = true → other.organization = row.organization → other.name ≠ row.name :=
    fun j other hother hrow hactive horganization hname =>
      nomatch hfree hrow j other hother hactive horganization hname
  intro j k a b ha hb haActive hbActive horganization hname
  change (d.policies.insert row).get? j = some a at ha
  change (d.policies.insert row).get? k = some b at hb
  rw [Table.get?_insert] at ha hb
  split_ifs at ha hb with hj hk hk
  · exact hj.trans hk.symm
  · cases ha
    exact absurd hname.symm (hother k b hb haActive hbActive horganization.symm)
  · cases hb
    exact absurd hname (hother j a ha hbActive haActive horganization)
  · exact h j k a b ha hb haActive hbActive horganization hname

/-- A policy gets a free name. -/
theorem NamesDiffer.update (h : NamesDiffer d) (hrow : d.policies.get? i = some row)
    (hfree : (changes.apply row).isActive = true →
      NameFree d row.organization (changes.apply row).name (some i)) :
    NamesDiffer (PolicyWrite.apply (.updatePolicy i changes) d) := by
  intro j k a b ha hb haActive hbActive horganization hname
  change (d.policies.modify i changes.apply).get? j = some a at ha
  change (d.policies.modify i changes.apply).get? k = some b at hb
  rw [Table.get?_modify] at ha hb
  split_ifs at ha hb with hj hk hk
  · exact hj.trans hk.symm
  · subst hj
    rw [hrow] at ha
    cases ha
    exact Option.some_injective _ (hfree haActive k b hb hbActive horganization.symm hname.symm)
  · subst hk
    rw [hrow] at hb
    cases hb
    exact (Option.some_injective _ (hfree hbActive j a ha haActive horganization hname)).symm
  · exact h j k a b ha hb haActive hbActive horganization hname

-- ════════════════════════════════════════════════════════════════════════
-- Sessions
-- ════════════════════════════════════════════════════════════════════════

/-- What the program knows at a position: the policy that it edits is as it was loaded, and a name
that it has looked for is still free. -/
def PolicyPos.KnowsName (d : PolicyDb) : PolicyPos → Prop
  | policyNamed row | policyInserted row =>
    row.isActive = true → NameFree d row.organization row.name none
  | policyLoaded i row _ => d.policies.get? i = some row
  | policyChecked i row changes | policyLocked i row changes | policyUpdated i row changes =>
    d.policies.get? i = some row ∧ ((changes.apply row).isActive = true →
      NameFree d row.organization (changes.apply row).name (some i))
  | _ => True

/-- What a session knows. -/
structure NameSession (d : PolicyDb) (s : Session PolicyLock PolicyWrite PolicyPos) : Prop where
  pending : s.pending = s.pos.written
  knows : s.pos.KnowsName d

theorem NameSession.failed {held : List PolicyLock} (e : Err) :
    NameSession d ⟨.failed e, [], held⟩ := ⟨rfl, trivial⟩

theorem NameSession.after {held : List PolicyLock} {guarded : Except Err Unit} {next : PolicyPos}
    (hnext : guarded = .ok () → NameSession d ⟨next, [], held⟩) :
    NameSession d ⟨.after guarded next, [], held⟩ :=
  PolicyPos.after_elim (p := fun pos => NameSession d ⟨pos, [], held⟩) .failed hnext

/-- **One statement** keeps the names different, and what its session knows. -/
theorem NameSession.advance {s : Session PolicyLock PolicyWrite PolicyPos} (w : Unit)
    (hdiffer : NamesDiffer d) (h : NameSession d s) :
    NamesDiffer ((policyMachine env).advance d w s).1 ∧
      NameSession ((policyMachine env).advance d w s).1
        ((policyMachine env).advance d w s).2.2 := by
  obtain ⟨pos, pending, held⟩ := s
  obtain ⟨hpending, hknows⟩ := h
  change pending = pos.written at hpending
  subst hpending
  cases pos with
  | call op =>
    cases op with
    | createPolicy row => exact ⟨hdiffer, .after fun hok => ⟨rfl, checkNewPolicy_ok hok⟩⟩
    | updatePolicy i changes =>
      refine ⟨hdiffer, ?_⟩
      simp only [Machine.advance, policyMachine, PolicyPos.stmt, PolicyOp.stmt]
      split
      · rename_i row hrow
        exact ⟨rfl, hrow⟩
      · exact .failed _
    | createRule row =>
      refine ⟨hdiffer, ?_⟩
      simp only [Machine.advance, policyMachine, PolicyPos.stmt, PolicyOp.stmt]
      split
      · exact .after fun _ => ⟨rfl, trivial⟩
      · exact .failed _
    | updateRule i changes =>
      refine ⟨hdiffer, ?_⟩
      simp only [Machine.advance, policyMachine, PolicyPos.stmt, PolicyOp.stmt]
      split
      · exact ⟨rfl, trivial⟩
      · exact .failed _
  | policyNamed row => exact ⟨hdiffer, rfl, hknows⟩
  | policyInserted row => exact ⟨hdiffer.insert hknows, rfl, trivial⟩
  | policyLoaded i row changes =>
    exact ⟨hdiffer, .after fun hok => ⟨rfl, hknows, checkPolicyName_ok hdiffer hknows hok⟩⟩
  | policyChecked i row changes =>
    refine ⟨hdiffer, ?_⟩
    simp only [Machine.advance, policyMachine, PolicyPos.stmt]
    split
    · exact ⟨rfl, hknows⟩
    · exact ⟨rfl, trivial⟩
  | policyLocked i row changes => exact ⟨hdiffer, rfl, hknows⟩
  | policyUpdated i row changes => exact ⟨hdiffer.update hknows.1 hknows.2, rfl, trivial⟩
  | validated row =>
    refine ⟨hdiffer, ?_⟩
    change NameSession d ⟨if d.priorityTaken row.policy row.priority none then
      .failed (duplicateRulePriority row.priority) else .prioritized row, [], held⟩
    split_ifs
    · exact .failed _
    · exact ⟨rfl, trivial⟩
  | prioritized row =>
    refine ⟨hdiffer, ?_⟩
    change NameSession d ⟨if d.ruleNameTaken row.policy row.name none then
      .failed (duplicateRuleName row.name) else .named row, [], held⟩
    split_ifs
    · exact .failed _
    · exact ⟨rfl, trivial⟩
  | checked i row changes =>
    refine ⟨hdiffer, ?_⟩
    simp only [Machine.advance, policyMachine, PolicyPos.stmt]
    split
    · exact ⟨rfl, trivial⟩
    · exact ⟨rfl, trivial⟩
  | loaded i row changes => exact ⟨hdiffer, .after fun _ => ⟨rfl, trivial⟩⟩
  | reprioritized i row changes => exact ⟨hdiffer, .after fun _ => ⟨rfl, trivial⟩⟩
  | named | inserted | locked | updated | failed | raised | done => exact ⟨hdiffer, rfl, trivial⟩

/-- Nothing has changed about the policies of the organization. -/
def SamePolicies (organization : ℕ) (d d' : PolicyDb) : Prop :=
  ∀ j other, other.organization = organization →
    (d'.policies.get? j = some other ↔ d.policies.get? j = some other)

theorem PolicyPos.KnowsName.beside {pos : PolicyPos}
    (h : pos.KnowsName d) (hsame : ∀ organization, pos.claims = some organization →
      SamePolicies organization d d') : pos.KnowsName d' := by
  have hfree : ∀ organization name self, pos.claims = some organization →
      NameFree d organization name self → NameFree d' organization name self :=
    fun organization name self hclaims hfree j other hother hactive horganization =>
      hfree j other ((hsame _ hclaims j other horganization).1 hother) hactive horganization
  cases pos with
  | policyNamed row => exact fun hactive => hfree _ _ _ rfl (h hactive)
  | policyInserted row => exact fun hactive => hfree _ _ _ rfl (h hactive)
  | policyLoaded i row changes => exact (hsame _ rfl i row rfl).2 h
  | policyChecked i row changes | policyLocked i row changes | policyUpdated i row changes =>
    exact ⟨(hsame _ rfl i row rfl).2 h.1, fun hactive => hfree _ _ _ rfl (h.2 hactive)⟩
  | _ => exact h

/-- **A statement beside a session** that the schedule admits changes nothing about the policies
that the session has looked at. -/
theorem NameSession.same {s t : Session PolicyLock PolicyWrite PolicyPos} (w : Unit)
    (hs : NameSession d s) (hmay : namesInTurn.move s t = true) {organization : ℕ}
    (hclaims : t.pos.claims = some organization) :
    SamePolicies organization d ((policyMachine env).advance d w s).1 := by
  obtain ⟨pos, pending, held⟩ := s
  have hpending : pending = pos.written := hs.pending
  subst hpending
  have hknows := hs.knows
  cases pos with
  | call op => cases op <;> exact fun _ _ _ => Iff.rfl
  | policyInserted row =>
    have hother : row.organization ≠ organization := fun heq => by
      simp [namesInTurn, hclaims, heq] at hmay
    intro j other horganization
    change (d.policies.insert row).get? j = some other ↔ d.policies.get? j = some other
    rw [Table.get?_insert]
    split_ifs with hj
    · subst hj
      constructor
      · intro h
        cases h
        exact absurd horganization hother
      · exact fun h => absurd (Table.lt_next h) (Nat.lt_irrefl _)
    · exact Iff.rfl
  | policyUpdated i row changes =>
    have hother : row.organization ≠ organization := fun heq => by
      simp [namesInTurn, hclaims, heq] at hmay
    intro j other horganization
    change (d.policies.modify i changes.apply).get? j = some other ↔
      d.policies.get? j = some other
    rw [Table.get?_modify]
    split_ifs with hj
    · subst hj
      rw [hknows.1]
      constructor
      · intro h
        cases h
        exact absurd horganization hother
      · intro h
        cases h
        exact absurd horganization hother
    · exact Iff.rfl
  | _ => exact fun _ _ _ => Iff.rfl

-- ════════════════════════════════════════════════════════════════════════
-- Runs
-- ════════════════════════════════════════════════════════════════════════

/-- What saves of policies in turn keep to. -/
def nameDiscipline (env : Env) :
    Discipline (policyMachine env) namesInTurn PolicyDb.Fresh where
  Inv d _ := NamesDiffer d
  Ok d _ s := NameSession d s
  Apart _ _ := True
  symm _ := trivial
  initial {d w} h i j a b ha := by
    rw [h.1] at ha
    simp [Table.empty, Table.get?] at ha
  started {d w p} hp := by
    cases p with
    | call op => exact ⟨⟨rfl, trivial⟩, fun _ => trivial⟩
    | _ => cases hp
  advance {d w s} hdiffer hs := hs.advance w hdiffer
  others {d w s t} _ hs ht _ _ hmay :=
    ⟨⟨ht.pending, ht.knows.beside fun _ hclaims => hs.same w hmay hclaims⟩, trivial⟩
  raised {d w s} _ _ _ := ⟨⟨rfl, trivial⟩, fun _ _ => trivial⟩

/-- **Active names differ.** In every run of the policy services in which no policy is saved while
another call has looked at the policies of its organization, the active policies of an organization
have different names. -/
theorem active_names_differ {c : Config PolicyDb PolicyLock PolicyWrite Unit PolicyPos}
    (h : (policyMachine env).Reach namesInTurn PolicyDb.Fresh c) : NamesDiffer c.db :=
  ((nameDiscipline env).holds h).inv

/-- A policy is created and deactivated, another one gets its name, and the first one a new name
before it becomes active again. -/
def namesGoRound : List (Label PolicyPos) :=
  .arrive (.call (.createPolicy .sample)) :: policyMoves 0 3 ++
  .arrive (.call (.updatePolicy 0 { isActive := some false })) :: policyMoves 1 5 ++
  .arrive (.call (.createPolicy .sample)) :: policyMoves 2 3 ++
  .arrive (.call (.updatePolicy 0 { name := some "Old", isActive := some true })) ::
    policyMoves 3 5

/-- What the calls lead to. -/
def namedRound : Config PolicyDb PolicyLock PolicyWrite Unit PolicyPos :=
  ((policyMachine .sample).runLabels namesInTurn namesGoRound ⟨{}, (), []⟩).get (by decide)

theorem active_names_differ_namedRound : NamesDiffer namedRound.db :=
  @active_names_differ .sample namedRound
    (Machine.Reach.runLabels (d := {}) ⟨rfl, rfl⟩ (Option.some_get (by decide)).symm)

/-- Both policies are active. -/
example : namedRound.db.policies.rows.map (fun row => (row.name, row.isActive)) =
    [("Old", true), ("Safety", true)] := by
  decide

/-- Two creations look for the name before either one saves. -/
def namesTogether : List (Label PolicyPos) :=
  [.arrive (.call (.createPolicy .sample)), .arrive (.call (.createPolicy .sample))] ++
  policyMoves 0 1 ++ policyMoves 1 3 ++ policyMoves 0 2

/-- What they lead to. -/
def namedTogether : Config PolicyDb PolicyLock PolicyWrite Unit PolicyPos :=
  ((policyMachine .sample).runLabels everyOrder namesTogether ⟨{}, (), []⟩).get (by decide)

/-- Two creations that overlap give the name to two active policies. -/
theorem creations_overlap :
    (policyMachine .sample).Reach everyOrder PolicyDb.Fresh namedTogether ∧
      ¬NamesDiffer namedTogether.db := by
  refine ⟨Machine.Reach.runLabels (d := {}) ⟨rfl, rfl⟩ (Option.some_get (by decide)).symm,
    fun hdiffer => ?_⟩
  exact absurd (hdiffer 0 1 .sample .sample rfl rfl rfl rfl rfl rfl) (by decide)

end RunbookPlatform
