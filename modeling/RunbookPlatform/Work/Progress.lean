import RunbookPlatform.Work.Claims

/-!
# How executions go on

Whatever requests are served, in whatever order their transactions commit, an execution only goes
from the queue to a claim, from a claim to its run and from there to its end. An execution that is
over stays as it ended, with the claim that it ended under, and only an execution that was claimed
has an owner.

## Main definitions

- `ExecutionStatus.rank` — how far an execution has come
- `Execution.GoesOn` — what can become of an execution
- `Execution.Held` — the queue has no owners, and work in progress has a token

## Main results

- `WorkStep.goesOn` — one step of the platform
- `executions_go_on` — every run
- `executions_held` — who holds an execution in every run
-/

namespace RunbookPlatform

open Transactional

/-- How far an execution has come. -/
def ExecutionStatus.rank : ExecutionStatus → ℕ
  | queued => 0
  | claimed => 1
  | running => 2
  | succeeded | failed | cancelled => 3

/-- The execution may become `later`: it comes further, and its status and claim stay once it is
over. -/
structure Execution.GoesOn (e later : Execution) : Prop where
  further : e.status.rank ≤ later.status.rank
  stays : e.status.isTerminal = true → later.status = e.status ∧ later.claim = e.claim

namespace Execution.GoesOn

variable {a b c : Execution}

theorem refl (e : Execution) : e.GoesOn e := ⟨le_rfl, fun _ => ⟨rfl, rfl⟩⟩

theorem trans (h1 : a.GoesOn b) (h2 : b.GoesOn c) : a.GoesOn c where
  further := h1.further.trans h2.further
  stays hover := by
    obtain ⟨hstatus, hclaim⟩ := h1.stays hover
    obtain ⟨hstatus', hclaim'⟩ := h2.stays (hstatus ▸ hover)
    exact ⟨hstatus'.trans hstatus, hclaim'.trans hclaim⟩

/-- An execution that is not over goes on when it comes further. -/
theorem of_rank (hactive : a.status.isTerminal = false) (h : a.status.rank ≤ b.status.rank) :
    a.GoesOn b := by
  refine ⟨h, fun hover => ?_⟩
  rw [hactive] at hover
  cases hover

end Execution.GoesOn

theorem ExecutionStatus.rank_le_of_isTerminal {a b : ExecutionStatus} (h : b.isTerminal = true) :
    a.rank ≤ b.rank := by
  cases b with
  | queued | claimed | running => cases h
  | succeeded | failed | cancelled => cases a <;> decide

-- ════════════════════════════════════════════════════════════════════════
-- One step
-- ════════════════════════════════════════════════════════════════════════

section

variable {env : Env} {op : Op} {alone : Prop} {s s' : Db}

/-- **Every step** of the platform keeps the executions, which go on. -/
theorem WorkStep.goesOn (h : WorkStep env op alone s s') :
    s.executions.Evolves Execution.GoesOn s'.executions := by
  have hsame (heq : s.executions = s'.executions) :
      s.executions.Evolves Execution.GoesOn s'.executions := by
    rw [heq]
    exact Table.Evolves.refl Execution.GoesOn.refl _
  have hedited {i : ℕ} {P : Execution → Execution → Prop}
      (hrow : s.executions.Edited i P s'.executions) (hP : ∀ e e', P e e' → e.GoesOn e') :
      s.executions.Evolves Execution.GoesOn s'.executions := by
    intro j e he
    obtain ⟨e', he', rfl | ⟨-, hmove⟩⟩ := hrow.to_new he
    · exact ⟨e', he', .refl e'⟩
    · exact ⟨e', he', hP e e' hmove⟩
  cases h with
  | quiet hexecutions => exact hsame hexecutions
  | create row _ _ hexecutions =>
    rw [hexecutions]
    exact .insert Execution.GoesOn.refl _ row
  | save i hrow =>
    refine hedited hrow fun e e' ⟨hstatus, hclaim⟩ => ⟨by rw [hstatus], fun _ => ⟨hstatus, hclaim⟩⟩
  | start i _ hrow =>
    refine hedited hrow fun e e' ⟨hold, hnew, _⟩ => .of_rank (by rw [hold]; rfl) ?_
    rw [hold, hnew]
    decide
  | claim i r t _ hrow =>
    refine hedited hrow fun e e' ⟨hold, hnew, _⟩ => .of_rank (by rw [hold]; rfl) ?_
    rw [hold, hnew]
    decide
  | reclaim i r t _ _ hrow =>
    refine hedited hrow fun e e' ⟨hactive, hstatus, _⟩ => .of_rank ?_ (by rw [hstatus])
    cases hst : e.status <;> rw [hst] at hactive <;> first | rfl | cases hactive
  | finish i _ hrow =>
    exact hedited hrow fun e e' ⟨hactive, hover, _⟩ =>
      .of_rank hactive (ExecutionStatus.rank_le_of_isTerminal hover)
  | reserve _ _ _ _ _ _ hexecutions => exact hsame hexecutions
  | bind _ _ _ _ _ _ _ _ _ _ hexecutions => exact hsame hexecutions
  | callback _ _ _ _ _ hkept => exact hsame (hkept .executions (by simp))

theorem WorkSteps.goesOn (h : WorkSteps env op alone s s') :
    s.executions.Evolves Execution.GoesOn s'.executions := by
  induction h with
  | refl => exact Table.Evolves.refl Execution.GoesOn.refl _
  | tail _ hstep ih =>
    exact Table.Evolves.trans (R := Execution.GoesOn) (fun _ _ _ => .trans) ih hstep.goesOn

/-- An execution in the queue has no owner, and one that is worked on has a token. -/
structure Execution.Held (e : Execution) : Prop where
  free : e.status = .queued → e.claimedByRunnerId = ""
  token : e.status.isActive = true → e.claimToken.isSome = true

/-- Every execution is held as its status says. -/
def ExecutionsHeld (s : Db) : Prop := ∀ i e, s.executions.get? i = some e → e.Held

/-- What is known of the new claim and the new status. -/
theorem Execution.Held.of_claim {e : Execution} {r t : String} (hstatus : e.status ≠ .queued)
    (hclaim : e.claim = (r, some t)) : e.Held where
  free hqueued := absurd hqueued hstatus
  token _ := by
    have htoken : e.claimToken = some t := congrArg Prod.snd hclaim
    rw [htoken]
    rfl

theorem Execution.Held.of_kept {e e' : Execution} (he : e.Held) (hclaim : e'.claim = e.claim)
    (hqueued : e'.status = .queued → e.status = .queued)
    (hactive : e'.status.isActive = true → e.status.isActive = true) : e'.Held where
  free hq := by
    have howner : e'.claimedByRunnerId = e.claimedByRunnerId := congrArg Prod.fst hclaim
    rw [howner]
    exact he.free (hqueued hq)
  token ha := by
    have htoken : e'.claimToken = e.claimToken := congrArg Prod.snd hclaim
    rw [htoken]
    exact he.token (hactive ha)

theorem WorkStep.held (h : WorkStep env op alone s s') (hs : ExecutionsHeld s) :
    ExecutionsHeld s' := by
  have hsame (heq : s.executions = s'.executions) : ExecutionsHeld s' := by
    intro i e he
    rw [← heq] at he
    exact hs i e he
  have hedited {i : ℕ} {P : Execution → Execution → Prop}
      (hrow : s.executions.Edited i P s'.executions) (hP : ∀ e e', P e e' → e.Held → e'.Held) :
      ExecutionsHeld s' := by
    intro j e' he'
    obtain ⟨e, he, rfl | ⟨-, hmove⟩⟩ := hrow.of_new he'
    · exact hs j e' he
    · exact hP e e' hmove (hs j e he)
  cases h with
  | quiet hexecutions => exact hsame hexecutions
  | create row hqueued hfree hexecutions =>
    intro i e he
    rw [hexecutions, Table.get?_insert] at he
    split_ifs at he
    · cases he
      refine ⟨fun _ => hfree, fun hactive => ?_⟩
      rw [hqueued] at hactive
      cases hactive
    · exact hs i e he
  | save i hrow =>
    refine hedited hrow fun e e' ⟨hstatus, hclaim⟩ he => he.of_kept hclaim ?_ ?_
    · exact fun h => hstatus.symm.trans h
    · exact fun h => hstatus ▸ h
  | start i _ hrow =>
    refine hedited hrow fun e e' ⟨hold, hnew, hclaim⟩ he => he.of_kept hclaim ?_ ?_
    · intro h
      rw [hnew] at h
      cases h
    · intro _
      rw [hold]
      rfl
  | claim i r t _ hrow =>
    refine hedited hrow fun e e' ⟨_, hnew, hclaim⟩ _ => .of_claim ?_ hclaim
    rw [hnew]
    decide
  | reclaim i r t _ _ hrow =>
    refine hedited hrow fun e e' ⟨hactive, hstatus, hclaim⟩ _ => .of_claim ?_ hclaim
    intro h
    rw [← hstatus, h] at hactive
    cases hactive
  | finish i _ hrow =>
    refine hedited hrow fun e e' ⟨_, hover, hclaim⟩ he => he.of_kept hclaim ?_ ?_
    · intro h
      rw [h] at hover
      cases hover
    · intro h
      cases hst : e'.status <;> rw [hst] at h hover <;>
        first | exact Bool.noConfusion hover | exact Bool.noConfusion h
  | reserve _ _ _ _ _ _ hexecutions => exact hsame hexecutions
  | bind _ _ _ _ _ _ _ _ _ _ hexecutions => exact hsame hexecutions
  | callback _ _ _ _ _ hkept => exact hsame (hkept .executions (by simp))

theorem WorkSteps.held (h : WorkSteps env op alone s s') (hs : ExecutionsHeld s) :
    ExecutionsHeld s' := by
  induction h with
  | refl => exact hs
  | tail _ hstep ih => exact hstep.held ih

end

-- ════════════════════════════════════════════════════════════════════════
-- Every run
-- ════════════════════════════════════════════════════════════════════════

section

variable {env : Env} {c c' : ServedConf}

/-- **Executions** go on in every run, and so do their steps: they stay what they are, and a step
that has succeeded or was skipped stays so. -/
theorem executions_go_on (h : Serving env anyServed c)
    (hrun : Relation.ReflTransGen (ServedStep env anyServed) c c') :
    c.db.executions.Evolves Execution.GoesOn c'.db.executions ∧
      c.db.steps.Evolves ExecutionStep.Evolves c'.db.steps := by
  constructor
  · refine h.stays (R := WorkMove env False)
      (I := fun s => c.db.executions.Evolves Execution.GoesOn s.executions)
      Op.interleavedWorkMoves (fun op n s s' hmove _ hs => ?_) hrun
      (Table.Evolves.refl Execution.GoesOn.refl _)
    exact Table.Evolves.trans (R := Execution.GoesOn) (fun _ _ _ => .trans) hs (hmove nofun).goesOn
  · refine h.stays (R := fun _ _ => SameOn historyCells)
      (I := fun s => c.db.steps.Evolves ExecutionStep.Evolves s.steps)
      (Op.history env) (fun op n s s' hmove _ hs => ?_) hrun
      (Table.Evolves.refl ExecutionStep.Evolves.refl _)
    exact Table.Evolves.trans (R := ExecutionStep.Evolves) (fun _ _ _ => .trans) hs
      (hmove .stepHistory (by simp))

/-- The watchdog comes to the executions of the held run. -/
theorem executions_go_on_recovered :
    heldRun.executions.Evolves Execution.GoesOn
        (((Op.recoverStuckExecutions 300).prog .sample).exec heldRun).2.executions ∧
      heldRun.steps.Evolves ExecutionStep.Evolves
        (((Op.recoverStuckExecutions 300).prog .sample).exec heldRun).2.steps :=
  executions_go_on ((Serving.initial _ 0).runOps _)
    (ServedStep.exec (.recoverStuckExecutions 300)
      (Prog.Meets.of_forall (fun _ _ => trivial) _ heldRun))

/-- **Owners**: in every run, an execution in the queue has none, and one that is worked on has a
token. -/
theorem executions_held (h : Serving env anyServed c) : ExecutionsHeld c.db := by
  refine h.invariant (R := WorkMove env False) Op.interleavedWorkMoves (fun reference now => ?_)
    fun op n s s' hmove _ hs => (hmove nofun).held hs
  intro i e he
  cases he

/-- The executions of the held run. -/
theorem executions_held_heldRun : ExecutionsHeld heldRun :=
  executions_held ((Serving.initial _ 0).runOps _)

end

end RunbookPlatform
