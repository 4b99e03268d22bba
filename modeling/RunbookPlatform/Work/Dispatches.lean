import RunbookPlatform.Work.Requests
import RunbookPlatform.Locks.Invariants

/-!
# Changes in dispatch have work

A change in dispatch waits for a runner to claim and bind its execution. That execution is
still there as long as no cancellation ends it while it is queued: all other ends of an
execution settle its change.

## Main definitions

- `Db.OneToOne` — bindings tie each change to one execution
- `Db.Working` — the invariant

## Main results

- `dispatchable_changes_have_work` — a change in dispatch has a queued or claimed execution
-/

namespace RunbookPlatform

open Transactional

set_option synthInstance.maxSize 1000

/-- At most one binding for each change, and for each execution. -/
def Db.OneToOne (s : Db) : Prop :=
  ∀ i j b b', s.bindings.get? i = some b → s.bindings.get? j = some b' →
    b.changeRecord = b'.changeRecord ∨ b.execution = b'.execution → i = j

/-- The change has an execution that a runner has or can claim, and did not start. -/
def Db.HasWork (s : Db) (c : ℕ) : Prop :=
  ∃ i b e, s.bindings.get? i = some b ∧ b.changeRecord = c ∧
    s.executions.get? b.execution = some e ∧ (e.status = .queued ∨ e.status = .claimed)

/-- Every change in dispatch has work. -/
structure Db.Working (s : Db) : Prop where
  oneToOne : s.OneToOne
  work : ∀ c, s.ChangeIn .dispatchable c → s.HasWork c

theorem Db.OneToOne.of_replaced {s s' : Db} {id : ℕ} {b b' : ChangeExecutionBinding}
    (h : s.OneToOne) (hb : s.bindings.Replaced id b b' s'.bindings)
    (hkept : b'.changeRecord = b.changeRecord ∧ b'.execution = b.execution) : s'.OneToOne := by
  -- the keys are those of the old rows, and these agree with the new ones
  have hold : ∀ {i r}, s'.bindings.get? i = some r → ∃ r', s.bindings.get? i = some r' ∧
      r'.changeRecord = r.changeRecord ∧ r'.execution = r.execution := by
    intro i r hr
    rcases hb.cases hr with ⟨rfl, rfl⟩ | ⟨-, hr⟩
    · exact ⟨b, hb.before, hkept.1.symm, hkept.2.symm⟩
    · exact ⟨r, hr, rfl, rfl⟩
  intro i j r r' hr hr' hsame
  obtain ⟨q, hq, hqc, hqe⟩ := hold hr
  obtain ⟨q', hq', hqc', hqe'⟩ := hold hr'
  exact h i j q q' hq hq' (by rwa [hqc, hqe, hqc', hqe'])

theorem Db.OneToOne.insert {s s' : Db} {b : ChangeExecutionBinding} (h : s.OneToOne)
    (hfresh : ∀ j b', s.bindings.get? j = some b' →
      b'.changeRecord ≠ b.changeRecord ∧ b'.execution ≠ b.execution)
    (hbindings : s'.bindings = s.bindings.insert b) : s'.OneToOne := by
  intro i j r r' hr hr' hsame
  rw [hbindings, Table.get?_insert] at hr hr'
  split_ifs at hr hr' with hi hj
  · exact hi.trans hj.symm
  · cases hr
    obtain ⟨hc, he⟩ := hfresh j r' hr'
    exact (hsame.elim (fun h => hc h.symm) fun h => he h.symm).elim
  · cases hr'
    obtain ⟨hc, he⟩ := hfresh i r hr
    exact (hsame.elim hc he).elim
  · exact h i j r r' hr hr' hsame

/-- The binding of an execution is the one that a search finds. -/
theorem Db.OneToOne.reservedFor {s : Db} (h : s.OneToOne) {i : ℕ} {b : ChangeExecutionBinding}
    (hb : s.bindings.get? i = some b) : ReservedFor s b.execution b.changeRecord := by
  cases hfound : bindingOf? b.execution s with
  | none =>
    have hno := Table.find?_none.1 hfound i b hb
    simp at hno
  | some found =>
    obtain ⟨j, b'⟩ := found
    obtain ⟨hb', he⟩ := Table.find?_some hfound
    obtain rfl := h i j b b' hb hb' (.inr (by simpa using he : b'.execution = b.execution).symm)
    rw [hb] at hb'
    cases hb'
    exact ⟨i, b, hfound, rfl⟩

/-- The search for the binding of a change finds its only one. -/
theorem Db.OneToOne.bindingOfChange? {s : Db} (h : s.OneToOne) {i : ℕ}
    {b : ChangeExecutionBinding} (hb : s.bindings.get? i = some b) :
    RunbookPlatform.bindingOfChange? b.changeRecord s = some (i, b) := by
  cases hfound : RunbookPlatform.bindingOfChange? b.changeRecord s with
  | none =>
    have hno := Table.find?_none.1 hfound i b hb
    simp at hno
  | some found =>
    obtain ⟨j, b'⟩ := found
    obtain ⟨hb', hc⟩ := Table.find?_some hfound
    obtain rfl := h i j b b' hb hb'
      (.inl (by simpa using hc : b'.changeRecord = b.changeRecord).symm)
    rw [hb] at hb'
    cases hb'
    rfl

/-- Work steps keep bindings one to one. -/
theorem WorkStep.oneToOne {env : Env} {op : Op} {alone : Prop} {s s' : Db}
    (h : WorkStep env op alone s s') (hs : s.OneToOne) : s'.OneToOne := by
  have hkept : Falls s s' → s'.OneToOne := fun hfalls => by
    unfold Db.OneToOne
    rw [← hfalls.bindings]
    exact hs
  cases h with
  | quiet _ hfalls => exact hkept hfalls
  | create _ _ _ _ hfalls => exact hkept hfalls
  | save _ _ hfalls => exact hkept hfalls
  | start _ _ _ hfalls => exact hkept hfalls
  | claim _ _ _ _ _ hfalls => exact hkept hfalls
  | reclaim _ _ _ _ _ _ hfalls => exact hkept hfalls
  | finish _ _ _ hfalls => exact hkept hfalls
  | reserve b _ _ hfresh hbindings _ _ => exact hs.insert hfresh hbindings
  | bind req id b e _ _ _ _ hbindings _ _ => exact hs.of_replaced hbindings ⟨rfl, rfl⟩
  | callback id b b' hbindings hb' _ => exact hs.of_replaced hbindings ⟨hb'.1, hb'.2.1⟩

namespace Db.HasWork

variable {s s' : Db} {c : ℕ}

/-- Work stays when bindings stay and its execution does not start or end. -/
theorem of_edited {i : ℕ} {P : Execution → Execution → Prop} (h : s.HasWork c)
    (hbindings : s.bindings = s'.bindings) (hrow : s.executions.Edited i P s'.executions)
    (hP : ∀ e e', P e e' → s.executions.get? i = some e → (e.status = .queued ∨ e.status = .claimed) →
      (∃ j b, s.bindings.get? j = some b ∧ b.changeRecord = c ∧ b.execution = i) →
        e'.status = .queued ∨ e'.status = .claimed) : s'.HasWork c := by
  obtain ⟨j, b, e, hb, hc, he, hstatus⟩ := h
  obtain ⟨e', he', hmove⟩ := hrow.to_new he
  refine ⟨j, b, e', hbindings ▸ hb, hc, he', ?_⟩
  rcases hmove with rfl | ⟨rfl, hmove⟩
  · exact hstatus
  · exact hP e e' hmove he hstatus ⟨j, b, hb, hc, rfl⟩

/-- Work stays when a binding is changed in other columns. -/
theorem of_replaced {id : ℕ} {b b' : ChangeExecutionBinding} (h : s.HasWork c)
    (hb : s.bindings.Replaced id b b' s'.bindings)
    (hkept : b'.changeRecord = b.changeRecord ∧ b'.execution = b.execution)
    (hexecutions : s.executions = s'.executions) : s'.HasWork c := by
  obtain ⟨j, r, e, hr, hc, he, hstatus⟩ := h
  by_cases hj : j = id
  · subst hj
    obtain rfl : b = r := Option.some.inj (hb.before.symm.trans hr)
    exact ⟨j, b', e, hb.after, hkept.1.trans hc, by rw [← hexecutions, hkept.2, he], hstatus⟩
  · exact ⟨j, r, e, (hb.others j hj).trans hr, hc, hexecutions ▸ he, hstatus⟩

end Db.HasWork

/-- Every work step of a request that runs alone keeps changes in dispatch at work. -/
theorem WorkStep.working {env : Env} {op : Op} {s s' : Db} (h : WorkStep env op True s s')
    (hs : s.Working) : s'.Working := by
  refine ⟨h.oneToOne hs.oneToOne, fun c hc => ?_⟩
  have hreserved : ∀ {i}, (∃ j b, s.bindings.get? j = some b ∧ b.changeRecord = c ∧
      b.execution = i) → ReservedFor s i c := by
    rintro i ⟨j, b, hb, rfl, rfl⟩
    exact hs.oneToOne.reservedFor hb
  cases h with
  | quiet hexecutions hfalls =>
    obtain ⟨i, b, e, hb, hbc, he, hstatus⟩ := hs.work c (hfalls.dispatchable c hc)
    exact ⟨i, b, e, hfalls.bindings ▸ hb, hbc, hexecutions ▸ he, hstatus⟩
  | create row hqueued _ hexecutions hfalls =>
    obtain ⟨i, b, e, hb, hbc, he, hstatus⟩ := hs.work c (hfalls.dispatchable c hc)
    exact ⟨i, b, e, hfalls.bindings ▸ hb, hbc, hexecutions ▸ Table.get?_insert_of_some row he, hstatus⟩
  | save i hrow hfalls =>
    exact (hs.work c (hfalls.dispatchable c hc)).of_edited hfalls.bindings hrow
      fun e e' he _ hstatus _ => he.1 ▸ hstatus
  | start i hready hrow hfalls =>
    have hd := hfalls.dispatchable c hc
    exact (hs.work c hd).of_edited hfalls.bindings hrow fun e e' _ _ _ hwork =>
      absurd hd ((hready trivial).not_dispatchable (hreserved hwork))
  | claim i r t hop hrow hfalls =>
    exact (hs.work c (hfalls.dispatchable c hc)).of_edited hfalls.bindings hrow
      fun e e' he _ _ _ => .inr he.2.1
  | reclaim i r t hop hfree hrow hfalls =>
    exact (hs.work c (hfalls.dispatchable c hc)).of_edited hfalls.bindings hrow
      fun e e' he _ hstatus _ => he.2.1 ▸ hstatus
  | finish i hsettled hrow hfalls =>
    exact (hs.work c (hfalls.dispatchable c hc)).of_edited hfalls.bindings hrow
      fun e e' _ _ _ hwork => absurd hc (hsettled trivial c (hreserved hwork))
  | reserve b hqueued _ hfresh hbindings hmoved hexecutions =>
    rcases hmoved.iff.1 hc with ⟨rfl, -⟩ | ⟨-, hd⟩
    · obtain ⟨e, he, hstatus⟩ := hqueued
      exact ⟨_, b, e, by rw [hbindings, Table.get?_insert_next], rfl, hexecutions ▸ he, .inl hstatus⟩
    · obtain ⟨i, b', e, hb', hbc, he, hstatus⟩ := hs.work c hd
      exact ⟨i, b', e, hbindings ▸ Table.get?_insert_of_some b hb', hbc, hexecutions ▸ he, hstatus⟩
  | bind req id b e _ _ _ _ hbindings hmoved hexecutions =>
    rcases hmoved.iff.1 hc with ⟨-, hst⟩ | ⟨-, hd⟩
    · cases hst
    · exact (hs.work c hd).of_replaced hbindings ⟨rfl, rfl⟩ hexecutions
  | callback id b b' hbindings hb' hsame =>
    exact (hs.work c ((hsame (.changeStatus .dispatchable) (by simp) c).2 hc)).of_replaced hbindings
      ⟨hb'.1, hb'.2.1⟩ (hsame .executions (by simp))

theorem WorkSteps.working {env : Env} {op : Op} {s s' : Db} (h : WorkSteps env op True s s')
    (hs : s.Working) : s'.Working := by
  induction h with
  | refl => exact hs
  | tail _ hstep ih => exact hstep.working ih

/-- A request that runs alone keeps changes in dispatch at work. -/
theorem Op.working {env : Env} {op : Op} {s : Db} (hm : (op.prog env).Meets KeepsWork s)
    (hs : s.Working) : ((op.prog env).exec s).2.Working := by
  by_cases hsweep : ∃ threshold, op = .recoverStuckExecutions threshold
  · obtain ⟨threshold, rfl⟩ := hsweep
    have hsteps : WorkSteps env (.recoverStuckExecutions threshold) True s
        ((RunbookPlatform.recoverStuckExecutions env threshold).exec s).2 :=
      WorkSteps.recoverStuckExecutions threshold s
    exact hsteps.working hs
  · have hmoves : (op.prog env).Follows [.bindings, .changeStatus .running] (WorkMove env True op) s :=
      op.workMoves s (fun _ => by simp) (by decide) fun _ threshold hop => hsweep ⟨threshold, hop⟩
    refine hmoves.exec_invariant hm ?_ hs
    exact fun n s s' hmove hadmitted hs => (hmove fun _ => hadmitted).working hs

/-- **Changes in dispatch have work**: in every run of requests, none of which cancels the
queued execution of a change in dispatch, a change in dispatch has a queued or claimed
execution. -/
theorem dispatchable_changes_have_work {env : Env} {s : Db} (h : Reachable env KeepsWork s) :
    ∀ c row, s.changes.get? c = some row → row.status = .dispatchable →
      ∃ i b e, bindingOfChange? c s = some (i, b) ∧ s.executions.get? b.execution = some e ∧
        (e.status = .queued ∨ e.status = .claimed) := by
  have hworking : s.Working := by
    induction h with
    | initial reference now =>
      exact ⟨by simp [Db.OneToOne, Db.initial], fun c ⟨row, hrow, _⟩ => by simp [Db.initial] at hrow⟩
    | request op _ hm ih => exact Op.working hm ih
  intro c row hrow hstatus
  obtain ⟨i, b, e, hb, rfl, he, hwork⟩ := hworking.work c ⟨row, hrow, hstatus⟩
  exact ⟨i, b, e, hworking.oneToOne.bindingOfChange? hb, he, hwork⟩

/-- The execution of a dispatched change is cancelled before a runner claims it. -/
def cancelledRun : Db :=
  runOps .sample [.createChange .sample .sample, .submitChange 0 .sample "nonce",
    .cancelExecution 0 .sample] (.initial (.sample .sample) 0)

/-- The cancellation leaves the change in dispatch. -/
theorem cancellation_strands_change :
    ¬∀ (env : Env) (s : Db), Reachable env anyAdmission s →
      ∀ c row, s.changes.get? c = some row → row.status = .dispatchable →
        ∃ i b e, bindingOfChange? c s = some (i, b) ∧ s.executions.get? b.execution = some e ∧
          (e.status = .queued ∨ e.status = .claimed) := by
  intro h
  obtain ⟨hchange, hexecutions⟩ :
      (cancelledRun.changes.get? 0).any (·.status = .dispatchable) = true ∧
      cancelledRun.executions.rows.all (·.status = .cancelled) = true := by
    decide +kernel
  obtain ⟨row, hrow, hstatus⟩ := (Option.any_eq_true _ _).1 hchange
  have hreach : Reachable .sample anyAdmission cancelledRun := Reachable.sample _ _
  obtain ⟨i, b, e, -, he, hlive⟩ := h .sample cancelledRun hreach 0 row hrow (by simpa using hstatus)
  have hcancelled := List.all_eq_true.1 hexecutions e (List.mem_of_getElem? he)
  rw [decide_eq_true_eq] at hcancelled
  rcases hlive with hlive | hlive <;> rw [hcancelled] at hlive <;> cases hlive

theorem dispatchable_changes_have_work_dispatched :
    ∃ row, dispatchedRun.changes.get? 0 = some row ∧ row.status = .dispatchable ∧
      ∃ i b e, bindingOfChange? 0 dispatchedRun = some (i, b) ∧
        dispatchedRun.executions.get? b.execution = some e ∧
          (e.status = .queued ∨ e.status = .claimed) := by
  have hadmitted : ∀ n s, TxName.precedesDispatch n = true → KeepsWork n s := by
    intro n s hn
    cases n <;> simp only [TxName.precedesDispatch, Bool.false_eq_true] at hn <;> trivial
  have hinitial : Reachable .sample KeepsWork (.initial (.sample .sample) 0) := .initial _ _
  have hcreated := hinitial.request (.createChange .sample .sample)
    (meets_of_names hadmitted (by decide))
  have hdispatched : Reachable .sample KeepsWork dispatchedRun := by
    rw [dispatchedRun, runOps, runOps, runOps]
    exact hcreated.request (.submitChange 0 .sample "nonce")
      (meets_of_names hadmitted (by decide +kernel))
  obtain ⟨row, hrow, hstatus⟩ := (Option.any_eq_true _ _).1 (by decide +kernel :
    (dispatchedRun.changes.get? 0).any (·.status = .dispatchable) = true)
  rw [decide_eq_true_eq] at hstatus
  exact ⟨row, hrow, hstatus, dispatchable_changes_have_work hdispatched 0 row hrow hstatus⟩

end RunbookPlatform
