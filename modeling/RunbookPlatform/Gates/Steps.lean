import RunbookPlatform.Runners.Routes

/-!
# How the steps of executions move

Steps are created together with their execution, one for each position, and none of them has
been started. From then on they keep what they are, and a transaction starts those only that it
is about.

## Main definitions

- `ExecutionStep.Moves` — what can become of a step, which may be startable
- `StepsPlaced` — steps belong to executions that are there, one for each position
- `StepsMove` — what a transaction does to the steps, and which of them it may start

## Main results

- `StepsMove.reserves` — requests that reserve an execution start no step
- `StepsMove.updateExecutionStep` — the transition that starts one
-/

namespace RunbookPlatform

open Transactional

set_option synthInstance.maxSize 1000

/-- `RUNNING` or `SUCCEEDED`: the step was started, and has not failed. -/
def StepStatus.isStarted : StepStatus → Bool
  | .running | .succeeded => true
  | _ => false

/-- The row has what the definition says of approvals. -/
def ExecutionStep.AsDeclared (step : ExecutionStep) : Prop :=
  booleanField (step.stepSnapshot.getD "requiresApproval" (.bool false)) = .ok step.requiresApproval

/-- The step may become `later`, and if it is not `startable` then `later` is started only if the
step was. -/
structure ExecutionStep.Moves (startable : Prop) (step later : ExecutionStep) : Prop where
  identity : later.identity = step.identity
  position : later.position = step.position
  final : step.status.isDone = true → later.status = step.status
  started : later.status.isStarted = true → step.status.isStarted = true ∨ startable

namespace ExecutionStep.Moves

variable {P Q : Prop} {a b c : ExecutionStep}

theorem refl (step : ExecutionStep) : step.Moves P step := ⟨rfl, rfl, fun _ => rfl, .inl⟩

theorem trans (h1 : a.Moves P b) (h2 : b.Moves P c) : a.Moves P c where
  identity := h2.identity.trans h1.identity
  position := h2.position.trans h1.position
  final hdone := by
    have hb := h1.final hdone
    rw [h2.final (hb ▸ hdone), hb]
  started hc := by
    rcases h2.started hc with hb | hP
    · exact h1.started hb
    · exact .inr hP

theorem mono (h : a.Moves P b) (hPQ : P → Q) : a.Moves Q b :=
  ⟨h.identity, h.position, h.final, fun hb => (h.started hb).imp_right hPQ⟩

theorem execution (h : a.Moves P b) : b.execution = a.execution := congrArg Prod.fst h.identity

theorem requiresApproval (h : a.Moves P b) : b.requiresApproval = a.requiresApproval :=
  congrArg (·.2.2.1) h.identity

theorem stepSnapshot (h : a.Moves P b) : b.stepSnapshot = a.stepSnapshot :=
  congrArg (·.2.2.2) h.identity

theorem asDeclared (h : a.Moves P b) (ha : a.AsDeclared) : b.AsDeclared := by
  rw [AsDeclared, h.requiresApproval, h.stepSnapshot]
  exact ha

end ExecutionStep.Moves

/-- A move of a step that is not done, to a status that does not count as started unless the
step is startable or was. -/
theorem stepMove_moves {P : ExecutionStep → Prop} {sources : List StepStatus} {new : StepStatus}
    {f : ExecutionStep → ExecutionStep} (hid : ∀ step, (f step).identity = step.identity)
    (hposition : ∀ step, (f step).position = step.position)
    (hsources : ∀ st ∈ sources, st.isDone = false) (step : ExecutionStep)
    (hnew : new.isStarted = true → step.status.isStarted = true ∨ P step) :
    step.Moves (P step) (stepMove sources new f step) := by
  unfold stepMove
  split_ifs with h
  · refine ⟨hid step, hposition step, fun hdone => ?_, hnew⟩
    rw [hsources _ h] at hdone
    cases hdone
  · exact .refl step

-- ════════════════════════════════════════════════════════════════════════
-- The table of steps
-- ════════════════════════════════════════════════════════════════════════

/-- Steps belong to executions that are there, and each position of an execution is that of one
step at most. -/
structure StepsPlaced (s : Db) : Prop where
  known : ∀ i step, s.steps.get? i = some step → step.execution < s.executions.next
  unique : ∀ i j a b, s.steps.get? i = some a → s.steps.get? j = some b →
    a.execution = b.execution → a.position = b.position → i = j

/-- The steps of `s` go on in `s'`, where the `startable` ones may be started, and new steps have
new executions. -/
structure StepsMove (startable : ℕ → Prop) (s s' : Db) : Prop where
  next : s.executions.next ≤ s'.executions.next
  kept : ∀ i step, s.steps.get? i = some step →
    ∃ later, s'.steps.get? i = some later ∧ step.Moves (startable i) later
  created : ∀ i later, s'.steps.get? i = some later → s.steps.get? i = none →
    (later.status.isStarted = true → startable i) ∧ s.executions.next ≤ later.execution ∧
      later.AsDeclared
  placed : StepsPlaced s → StepsPlaced s'

/-- No step is started. -/
abbrev StepsRest : Db → Db → Prop := StepsMove fun _ => False

namespace StepsMove

variable {env : Env} {V W : List Cell} {α : Type} {s s' : Db} {P Q : ℕ → Prop}

theorem refl (s : Db) : StepsMove P s s where
  next := le_rfl
  kept _ step hstep := ⟨step, hstep, .refl step⟩
  created i later hlater hnone := by
    rw [hlater] at hnone
    cases hnone
  placed := id

theorem trans {t : Db} (h1 : StepsMove P s t) (h2 : StepsMove P t s') : StepsMove P s s' where
  next := h1.next.trans h2.next
  kept i step hstep := by
    obtain ⟨mid, hmid, hmoves⟩ := h1.kept i step hstep
    obtain ⟨later, hlater, hmoves'⟩ := h2.kept i mid hmid
    exact ⟨later, hlater, hmoves.trans hmoves'⟩
  created i later hlater hnone := by
    cases hmid : t.steps.get? i with
    | none =>
      obtain ⟨hstarted, hfresh, hdeclared⟩ := h2.created i later hlater hmid
      exact ⟨hstarted, h1.next.trans hfresh, hdeclared⟩
    | some mid =>
      obtain ⟨hstarted, hfresh, hdeclared⟩ := h1.created i mid hmid hnone
      obtain ⟨later', hlater', hmoves⟩ := h2.kept i mid hmid
      rw [hlater] at hlater'
      cases hlater'
      refine ⟨fun h => ?_, hmoves.execution ▸ hfresh, hmoves.asDeclared hdeclared⟩
      exact (hmoves.started h).elim hstarted id
  placed := h2.placed ∘ h1.placed

instance : IsPreorder Db (StepsMove P) where
  refl := .refl
  trans _ _ _ := .trans

theorem mono (h : StepsMove P s s') (hPQ : ∀ i, P i → Q i) : StepsMove Q s s' where
  next := h.next
  kept i step hstep := by
    obtain ⟨later, hlater, hmoves⟩ := h.kept i step hstep
    exact ⟨later, hlater, hmoves.mono (hPQ i)⟩
  created i later hlater hnone := by
    obtain ⟨hstarted, hrest⟩ := h.created i later hlater hnone
    exact ⟨hPQ i ∘ hstarted, hrest⟩
  placed := h.placed

/-- Where no step changes and no execution goes, nothing moves. -/
theorem of_same (hsteps : s.steps = s'.steps) (hnext : s.executions.next ≤ s'.executions.next) :
    StepsMove P s s' where
  next := hnext
  kept i step hstep := ⟨step, hsteps ▸ hstep, .refl step⟩
  created i later hlater hnone := by
    rw [hsteps, hlater] at hnone
    cases hnone
  placed hs := by
    refine ⟨fun i step hstep => ?_, hsteps ▸ hs.unique⟩
    exact (hs.known i step (hsteps ▸ hstep)).trans_le hnext

theorem of_sameOn (h : SameOn [.executions, .steps] s s') : StepsMove P s s' := by
  have hexecutions : s.executions = s'.executions := h .executions (by simp)
  exact .of_same (h .steps (by simp)) (hexecutions ▸ le_rfl)

/-- Executions that keep their routes are still there. -/
theorem of_routes (h : ∀ i e, s.executions.get? i = some e → ∃ e', s'.executions.get? i = some e')
    (hsteps : s.steps = s'.steps) : StepsMove P s s' := by
  refine .of_same hsteps (not_lt.1 fun hlt => ?_)
  obtain ⟨e, he⟩ := Option.isSome_iff_exists.1 (Table.get?_isSome_iff.2 hlt)
  obtain ⟨e', he'⟩ := h _ e he
  rw [Table.get?_next] at he'
  cases he'

/-- **Frame rule**: a transaction that writes no step, and keeps the routes of executions. -/
theorem frame (t : Service W α) (hroutes : t.Follows KeepsRoutes)
    (hdisj : ∀ c ∈ [Cell.steps], c ∉ W) : t.Follows (StepsMove P) := by
  intro s a s' h
  refine .of_routes (fun i e he => ?_) (Tx.sameOn h [.steps] hdisj .steps (by simp))
  obtain ⟨e', he', -⟩ := hroutes s a s' h i e he
  exact ⟨e', he'⟩

/-- **Frame rule** for what touches neither steps nor executions. -/
theorem quiet (t : Service W α) (hdisj : ∀ c ∈ [Cell.executions, .steps], c ∉ W) :
    t.Follows (StepsMove P) :=
  (Tx.Follows.sameOn t hdisj).mono fun _ _ => of_sameOn

/-- Every step becomes what `g` makes of it. -/
theorem of_map {g : ℕ → ExecutionStep → ExecutionStep} (hexecutions : s'.executions = s.executions)
    (hsteps : ∀ j, s'.steps.get? j = (s.steps.get? j).map (g j))
    (hg : ∀ j step, s.steps.get? j = some step → step.Moves (P j) (g j step)) :
    StepsMove P s s' := by
  have hold : ∀ j later, s'.steps.get? j = some later →
      ∃ step, s.steps.get? j = some step ∧ step.Moves (P j) later := by
    intro j later hlater
    rw [hsteps] at hlater
    obtain ⟨step, hstep, rfl⟩ := Option.map_eq_some_iff.1 hlater
    exact ⟨step, hstep, hg j step hstep⟩
  refine ⟨hexecutions ▸ le_rfl, fun j step hstep => ?_, fun j later hlater hnone => ?_, fun hs => ?_⟩
  · exact ⟨g j step, by rw [hsteps, hstep, Option.map_some], hg j step hstep⟩
  · obtain ⟨step, hstep, -⟩ := hold j later hlater
    rw [hstep] at hnone
    cases hnone
  · refine ⟨fun j later hlater => ?_, fun j k a b ha hb hexecution hposition => ?_⟩
    · obtain ⟨step, hstep, hmoves⟩ := hold j later hlater
      rw [hexecutions, hmoves.execution]
      exact hs.known j step hstep
    · obtain ⟨a', ha', hma⟩ := hold j a ha
      obtain ⟨b', hb', hmb⟩ := hold k b hb
      refine hs.unique j k a' b' ha' hb' ?_ ?_
      · rw [← hma.execution, ← hmb.execution, hexecution]
      · rw [← hma.position, ← hmb.position, hposition]

/-- A move of one step. -/
theorem moveStep {i : ℕ} {sources : List StepStatus} {new : StepStatus}
    {f : ExecutionStep → ExecutionStep} {hid hsources} {u : Unit}
    (hposition : ∀ step, (f step).position = step.position)
    (hnew : new.isStarted = true → ∀ step, s.steps.get? i = some step →
      step.status.isStarted = true ∨ P i)
    (h : (moveStep i sources new f hid hsources).run s = .ok (u, s')) : StepsMove P s s' := by
  obtain rfl := moveStep_ok.1 h
  refine of_map (g := fun j => if j = i then stepMove sources new f else id) rfl (fun j => ?_)
    fun j step hstep => ?_
  · rw [Table.get?_modify]
    split_ifs
    · rfl
    · exact Option.map_id.symm ▸ rfl
  · split_ifs with hj
    · subst hj
      exact stepMove_moves (P := fun _ => P _) hid hposition hsources step
        fun hstarted => hnew hstarted step hstep
    · exact .refl step

/-- A move of one step that does not start it. -/
theorem restStep {i : ℕ} {sources : List StepStatus} {new : StepStatus}
    {f : ExecutionStep → ExecutionStep} {hid hsources}
    (hposition : ∀ step, (f step).position = step.position) (hnew : new.isStarted = false) :
    (RunbookPlatform.moveStep i sources new f hid hsources).Follows (StepsMove P) := by
  refine fun s u s' h => moveStep hposition (fun hstarted => ?_) h
  rw [hnew] at hstarted
  cases hstarted

/-- A move of many steps that starts none of them. -/
theorem moveSteps {p : ExecutionStep → Bool} {sources : List StepStatus} {new : StepStatus}
    {f : ExecutionStep → ExecutionStep} {hid hsources}
    (hposition : ∀ step, (f step).position = step.position) (hnew : new.isStarted = false) :
    (moveSteps p sources new f hid hsources).Follows (StepsMove P) := by
  intro s u s' h
  obtain rfl := moveSteps_ok.1 h
  refine of_map (g := fun _ row => if p row then stepMove sources new f row else row) rfl
    (fun j => Table.get?_modifyWhere _ _ _ _) fun j step _ => ?_
  split_ifs
  · refine stepMove_moves (P := fun _ => P j) hid hposition hsources step fun hstarted => ?_
    rw [hnew] at hstarted
    cases hstarted
  · exact .refl step

end StepsMove

-- ════════════════════════════════════════════════════════════════════════
-- Creation
-- ════════════════════════════════════════════════════════════════════════

/-- A row of `bulk_create`, for the step at `position` of the execution. -/
structure ExecutionStep.Fresh (execution position : ℕ) (step : ExecutionStep) : Prop where
  execution : step.execution = execution
  position : step.position = position
  pending : step.status = .pending
  declared : step.AsDeclared

theorem stepRow_fresh {env : Env} {execution position : ℕ} {schemaVersion : String} {json : Json}
    {step : ExecutionStep} (h : stepRow env execution position schemaVersion json = .ok step) :
    step.Fresh execution position := by
  have hbind : ∀ {α β : Type} {x : Except Err α} {f : α → Except Err β} {b : β},
      x >>= f = .ok b → ∃ a, x = .ok a ∧ f a = .ok b := by
    intro α β x f b hx
    cases x with
    | error e => cases hx
    | ok a => exact ⟨a, rfl, hx⟩
  obtain ⟨_, -, h⟩ := hbind h
  obtain ⟨_, -, h⟩ := hbind h
  obtain ⟨_, -, h⟩ := hbind h
  obtain ⟨_, -, h⟩ := hbind h
  obtain ⟨_, -, h⟩ := hbind h
  obtain ⟨_, -, h⟩ := hbind h
  obtain ⟨_, -, h⟩ := hbind h
  obtain ⟨requiresApproval, hrequires, h⟩ := hbind h
  cases h
  exact ⟨rfl, rfl, rfl, hrequires⟩

/-- The rows have the positions from `position` on. -/
theorem stepRows_fresh {env : Env} {execution : ℕ} {schemaVersion : String} {steps : List Json} :
    ∀ {position : ℕ} {rows : List ExecutionStep},
      stepRows env execution schemaVersion position steps = .ok rows →
        ∀ (k : ℕ) (row : ExecutionStep), rows[k]? = some row →
          row.Fresh execution (position + k) := by
  induction steps with
  | nil =>
    intro position rows h k row hrow
    cases h
    cases hrow
  | cons step rest ih =>
    intro position rows h k row hrow
    rw [stepRows] at h
    cases hfirst : stepRow env execution position schemaVersion step with
    | error e =>
      rw [hfirst] at h
      cases h
    | ok first =>
      rw [hfirst] at h
      cases hlater : stepRows env execution schemaVersion (position + 1) rest with
      | error e =>
        rw [hlater] at h
        cases h
      | ok later =>
        rw [hlater] at h
        cases h
        cases k with
        | zero =>
          cases hrow
          exact stepRow_fresh hfirst
        | succ k =>
          have hfresh := ih hlater k row hrow
          rwa [Nat.add_assoc, Nat.add_comm 1 k] at hfresh

theorem insertSteps_ok {rows : List ExecutionStep} {s s' : Db} {u : Unit} :
    (insertSteps rows).run s = .ok (u, s') ↔ s' = { s with steps := ⟨s.steps.rows ++ rows⟩ } := by
  induction rows generalizing s with
  | nil => simp [insertSteps, eq_comm]
  | cons row rows ih =>
    simp only [insertSteps, Tx.bind_ok, insertRow_ok, ih]
    constructor
    · rintro ⟨_, s1, ⟨-, rfl⟩, rfl⟩
      simp [Table.insert]
    · rintro rfl
      exact ⟨_, _, ⟨rfl, rfl⟩, by simp [Table.insert]⟩

namespace StepsMove

variable {env : Env} {s s' : Db} {P : ℕ → Prop}

/-- The new rows are those of a new execution, one for each position. -/
theorem of_created {rows : List ExecutionStep}
    (hexecutions : s'.executions.next = s.executions.next + 1)
    (hsteps : s'.steps = ⟨s.steps.rows ++ rows⟩)
    (hrows : ∀ (k : ℕ) (row : ExecutionStep), rows[k]? = some row →
      row.Fresh s.executions.next (1 + k)) :
    StepsMove P s s' := by
  have hget : ∀ j later, s'.steps.get? j = some later → s.steps.get? j = some later ∨
      s.steps.next ≤ j ∧ rows[j - s.steps.next]? = some later := by
    intro j later hlater
    rw [hsteps, Table.get?, List.getElem?_append] at hlater
    split_ifs at hlater with hj
    · exact .inl hlater
    · exact .inr ⟨Nat.le_of_not_lt hj, hlater⟩
  refine ⟨hexecutions ▸ Nat.le_succ _, fun j step hstep => ?_, fun j later hlater hnone => ?_,
    fun hs => ?_⟩
  · refine ⟨step, ?_, .refl step⟩
    rw [hsteps, Table.get?, List.getElem?_append_left (Table.lt_next hstep)]
    exact hstep
  · rcases hget j later hlater with hold | ⟨-, hnew⟩
    · rw [hold] at hnone
      cases hnone
    · have hfresh := hrows _ _ hnew
      refine ⟨fun hstarted => ?_, hfresh.execution.ge, hfresh.declared⟩
      rw [hfresh.pending] at hstarted
      cases hstarted
  · refine ⟨fun j later hlater => ?_, fun j k a b ha hb hexecution hposition => ?_⟩
    · rcases hget j later hlater with hold | ⟨-, hnew⟩
      · exact (hs.known j later hold).trans (hexecutions ▸ Nat.lt_succ_self _)
      · rw [hexecutions, (hrows _ _ hnew).execution]
        exact Nat.lt_succ_self _
    · -- an old step and a new one are steps of different executions
      rcases hget j a ha with holdA | ⟨hj, hnewA⟩ <;> rcases hget k b hb with holdB | ⟨hk, hnewB⟩
      · exact hs.unique j k a b holdA holdB hexecution hposition
      · have hlt := hs.known j a holdA
        rw [hexecution, (hrows _ _ hnewB).execution] at hlt
        exact absurd hlt (lt_irrefl _)
      · have hlt := hs.known k b holdB
        rw [← hexecution, (hrows _ _ hnewA).execution] at hlt
        exact absurd hlt (lt_irrefl _)
      · rw [(hrows _ _ hnewA).position, (hrows _ _ hnewB).position] at hposition
        omega

theorem insertExecutionRows (workflowId : ℕ) (workflow : Workflow) (mode : ExecutionMode)
    (actor : AuditActor) :
    (insertExecutionRows env workflowId workflow mode actor).Follows (StepsMove P) := by
  intro s i s' h
  simp only [RunbookPlatform.insertExecutionRows, Tx.bind_ok, Tx.run_lift, insertExecution_ok,
    Tx.lift_query_ok] at h
  obtain ⟨_, s1, ⟨rfl, rfl⟩, steps, _, ⟨-, rfl⟩, h⟩ := h
  split at h
  · simp at h
  · rename_i rows hrows
    simp only [Tx.bind_ok, Tx.lift_query_ok, Tx.run_lift, insertSteps_ok, Tx.run_pure,
      Except.ok.injEq, Prod.mk.injEq] at h
    obtain ⟨_, _, ⟨-, rfl⟩, _, s2, rfl, _, s3, hemit, -, rfl⟩ := h
    have hsame : SameOn [.executions, .steps] _ s3 := Tx.sameOn hemit _ (by decide)
    have hexecutions := hsame .executions (by simp)
    have hsteps := hsame .steps (by simp)
    refine of_created ?_ hsteps.symm (stepRows_fresh hrows)
    rw [← hexecutions]
    exact Table.next_insert _ _

end StepsMove

end RunbookPlatform
