import RunbookPlatform.Work.Calls
import RunbookPlatform.Work.Dispatches

/-!
# Binding safety

A change starts to run when the owner of its execution binds it with the live token of its
dispatch, and at no other moment. A binding, once bound, stays with its runner, and so does
the claim of its execution, so that the guards of the internal endpoints, which compare a
call with both, let no other call through.

## Main definitions

- `Db.BoundHeld` — the runner of a bound binding holds its execution
- `FromBoundRunner` — the call of that runner, with the current token

## Main results

- `Op.entersRunning` — what makes a change run
- `dispatch_binding_safe` — the three parts of binding safety
-/

namespace RunbookPlatform

open Transactional

set_option synthInstance.maxSize 1000

/-- The request binds the execution reserved for change `c`. -/
def BindRequest.Binds (env : Env) (req : BindRequest) (c : ℕ) (s : Db) : Prop :=
  ∃ i b e, bindingOfChange? c s = some (i, b) ∧ req.change = c ∧ req.Accepted env s b e ∧
    b.boundAt = none ∧ s.ChangeIn .dispatchable c

-- ════════════════════════════════════════════════════════════════════════
-- Who makes a change run
-- ════════════════════════════════════════════════════════════════════════

theorem WorkStep.running {env : Env} {op : Op} {alone : Prop} {s s' : Db}
    (h : WorkStep env op alone s s') (hop : ∀ req, op ≠ .bindExecution req) {c : ℕ}
    (hc : s'.ChangeIn .running c) : s.ChangeIn .running c := by
  cases h with
  | quiet _ hfalls => exact hfalls.running c hc
  | create _ _ _ _ hfalls => exact hfalls.running c hc
  | save _ _ hfalls => exact hfalls.running c hc
  | start _ _ _ hfalls => exact hfalls.running c hc
  | claim _ _ _ _ _ hfalls => exact hfalls.running c hc
  | reclaim _ _ _ _ _ _ hfalls => exact hfalls.running c hc
  | finish _ _ _ hfalls => exact hfalls.running c hc
  | reserve b _ _ _ _ hmoved _ =>
    rcases hmoved.iff.1 hc with ⟨-, hst⟩ | ⟨-, hc⟩
    · cases hst
    · exact hc
  | bind req id b e hreq => exact absurd hreq (hop req)
  | callback id b b' _ _ hsame => exact (hsame (.changeStatus .running) (by simp) c).2 hc

theorem WorkSteps.running {env : Env} {op : Op} {alone : Prop} {s s' : Db}
    (h : WorkSteps env op alone s s') (hop : ∀ req, op ≠ .bindExecution req) {c : ℕ}
    (hc : s'.ChangeIn .running c) : s.ChangeIn .running c := by
  induction h with
  | refl => exact hc
  | tail _ hstep ih => exact ih (hstep.running hop hc)

/-- The changes that run after a commit of `op`: those that ran, and the one it binds. -/
abbrev EntersRunning (env : Env) (op : Op) (s s' : Db) : Prop :=
  ∀ c, s'.ChangeIn .running c →
    s.ChangeIn .running c ∨ ∃ req, op = .bindExecution req ∧ req.Binds env c s

/-- **Only an accepted bind makes a change run.** -/
theorem Op.entersRunning {env : Env} (op : Op) (s : Db) :
    (op.prog env).Follows historyCells (fun _ => EntersRunning env op) s := by
  by_cases hbind : ∃ req, op = .bindExecution req
  · obtain ⟨req, rfl⟩ := hbind
    -- what follows a rejected bind is not a bind
    have hrest : ∀ {W : List Cell} {α : Type} {p : Handler W α} {s : Db},
        p.Follows historyCells (WorkMove env False (.tick 0)) s →
          p.Follows historyCells (fun _ => EntersRunning env (.bindExecution req)) s :=
      fun h => h.mono fun _ _ _ hmove c hc => .inl ((hmove False.elim).running nofun hc)
    refine .tryCatch (.atomic fun s1 _ u s' h c hc => ?_) fun e s1 => ?_
    · rcases WorkSteps.bindExecutionTx_ok h with hsame | ⟨id, b, e, hfound, haccepted, hunbound,
        hdispatchable, -, hmoved, -⟩
      · exact .inl ((hsame (.changeStatus .running) (by simp) c).2 hc)
      · rcases hmoved.iff.1 hc with ⟨rfl, -⟩ | ⟨-, hc⟩
        · exact .inr ⟨req, rfl, id, b, e, haccepted.change ▸ hfound, haccepted.change.symm,
            haccepted, hunbound, hdispatchable⟩
        · exact .inl hc
    · dsimp only
      refine hrest ?_
      split
      · refine .bind (.tryCatch (.widen (.read WorkMove.refl fun s2 row _ _ =>
          .read WorkMove.refl fun s3 now _ _ => ?_)) fun _ _ => .pure _) fun _ _ => .fail _
        split
        · exact WorkMove.expireStaleChange _ _ _ now _
        · exact .pure _
      · exact .fail _
  · exact (op.interleavedWorkMoves s).mono fun _ _ _ hmove c hc =>
      .inl ((hmove False.elim).running (fun req hop => hbind ⟨req, hop⟩) hc)

-- ════════════════════════════════════════════════════════════════════════
-- Bound once
-- ════════════════════════════════════════════════════════════════════════

/-- A binding keeps its change and its execution, and once it is bound its runner. -/
def BindingsKept (s s' : Db) : Prop :=
  ∀ i b, s.bindings.get? i = some b → ∃ b', s'.bindings.get? i = some b' ∧
    b'.changeRecord = b.changeRecord ∧ b'.execution = b.execution ∧
    (b.boundAt.isSome → b'.boundAt = b.boundAt ∧ b'.boundByRunnerId = b.boundByRunnerId)

instance : IsPreorder Db BindingsKept where
  refl s i b hb := ⟨b, hb, rfl, rfl, fun _ => ⟨rfl, rfl⟩⟩
  trans s t u h1 h2 i b hb := by
    obtain ⟨b1, hb1, hc1, he1, hbound1⟩ := h1 i b hb
    obtain ⟨b2, hb2, hc2, he2, hbound2⟩ := h2 i b1 hb1
    refine ⟨b2, hb2, hc2.trans hc1, he2.trans he1, fun hbound => ?_⟩
    obtain ⟨hat1, hby1⟩ := hbound1 hbound
    obtain ⟨hat2, hby2⟩ := hbound2 (hat1 ▸ hbound)
    exact ⟨hat2.trans hat1, hby2.trans hby1⟩

theorem BindingsKept.of_eq {s s' : Db} (h : s.bindings = s'.bindings) : BindingsKept s s' :=
  fun _ b hb => ⟨b, h ▸ hb, rfl, rfl, fun _ => ⟨rfl, rfl⟩⟩

theorem WorkStep.bindingsKept {env : Env} {op : Op} {alone : Prop} {s s' : Db}
    (h : WorkStep env op alone s s') : BindingsKept s s' := by
  -- one row is replaced, in columns that are not kept
  have hreplaced : ∀ {id b b'}, s.bindings.Replaced id b b' s'.bindings →
      b'.changeRecord = b.changeRecord → b'.execution = b.execution →
      (b.boundAt.isSome → b'.boundAt = b.boundAt ∧ b'.boundByRunnerId = b.boundByRunnerId) →
        BindingsKept s s' := by
    intro id b b' hb hc he hbound i r hr
    by_cases hi : i = id
    · subst hi
      obtain rfl : b = r := Option.some.inj (hb.before.symm.trans hr)
      exact ⟨b', hb.after, hc, he, hbound⟩
    · exact ⟨r, (hb.others i hi).trans hr, rfl, rfl, fun _ => ⟨rfl, rfl⟩⟩
  cases h with
  | quiet _ hfalls => exact .of_eq hfalls.bindings
  | create _ _ _ _ hfalls => exact .of_eq hfalls.bindings
  | save _ _ hfalls => exact .of_eq hfalls.bindings
  | start _ _ _ hfalls => exact .of_eq hfalls.bindings
  | claim _ _ _ _ _ hfalls => exact .of_eq hfalls.bindings
  | reclaim _ _ _ _ _ _ hfalls => exact .of_eq hfalls.bindings
  | finish _ _ _ hfalls => exact .of_eq hfalls.bindings
  | reserve b _ _ _ hbindings _ _ =>
    exact fun i r hr => ⟨r, hbindings ▸ Table.get?_insert_of_some b hr, rfl, rfl,
      fun _ => ⟨rfl, rfl⟩⟩
  | bind req id b e _ _ hunbound _ hbindings _ _ =>
    refine hreplaced hbindings rfl rfl fun hbound => ?_
    simp [hunbound] at hbound
  | callback id b b' hbindings hkept _ =>
    exact hreplaced hbindings hkept.1 hkept.2.1 fun _ => hkept.2.2

theorem WorkSteps.bindingsKept {env : Env} {op : Op} {alone : Prop} {s s' : Db}
    (h : WorkSteps env op alone s s') : BindingsKept s s' := by
  induction h with
  | refl => exact refl_of BindingsKept s
  | tail _ hstep ih => exact trans_of BindingsKept ih hstep.bindingsKept

-- ════════════════════════════════════════════════════════════════════════
-- The runner of a binding holds its execution
-- ════════════════════════════════════════════════════════════════════════

/-- The runner of a bound binding holds the claim of its execution, for good: it is neither
queued nor free to be reclaimed. -/
structure Db.BoundHeld (s : Db) : Prop where
  oneToOne : s.OneToOne
  free : ∀ i e, s.executions.get? i = some e → e.status = .queued → e.claimedByRunnerId = ""
  held : ∀ i b, s.bindings.get? i = some b → b.boundAt.isSome →
    ∃ e, s.executions.get? b.execution = some e ∧ e.claimedByRunnerId = b.boundByRunnerId ∧
      e.status ≠ .queued

namespace Db.BoundHeld

variable {s s' : Db}

/-- An execution is edited: a queued one stays free, and a bound one with its runner. -/
theorem of_edited {i : ℕ} {P : Execution → Execution → Prop} (hs : s.BoundHeld)
    (hbindings : s.bindings = s'.bindings) (hrow : s.executions.Edited i P s'.executions)
    (hfree : ∀ e e', P e e' → e'.status = .queued → e.status = .queued ∧ e'.claim = e.claim)
    (hheld : ∀ e e', P e e' → e.status ≠ .queued → bindingOf? i s ≠ none →
      e'.claim = e.claim ∧ e'.status ≠ .queued) : s'.BoundHeld := by
  refine ⟨?_, fun j e' he' hqueued => ?_, fun j b hb hbound => ?_⟩
  · unfold Db.OneToOne
    rw [← hbindings]
    exact hs.oneToOne
  · obtain ⟨e, he, rfl | ⟨rfl, hmove⟩⟩ := hrow.of_new he'
    · exact hs.free j e' he hqueued
    · obtain ⟨hold, hclaim⟩ := hfree e e' hmove hqueued
      have hsame : e'.claimedByRunnerId = e.claimedByRunnerId := congrArg Prod.fst hclaim
      rw [hsame]
      exact hs.free j e he hold
  · rw [← hbindings] at hb
    obtain ⟨e, he, hrunner, hstatus⟩ := hs.held j b hb hbound
    obtain ⟨e', he', rfl | ⟨rfl, hmove⟩⟩ := hrow.to_new he
    · exact ⟨e', he', hrunner, hstatus⟩
    · obtain ⟨i, b', hfound, -⟩ := hs.oneToOne.reservedFor hb
      obtain ⟨hclaim, hstatus'⟩ := hheld e e' hmove hstatus (by simp [hfound])
      exact ⟨e', he', (congrArg Prod.fst hclaim : e'.claimedByRunnerId = _).trans hrunner, hstatus'⟩

/-- Executions stay, and the bindings that are bound have been so, or their runner holds the
execution. -/
theorem of_bindings (hs : s.BoundHeld) (hone : s'.OneToOne)
    (hexecutions : s.executions = s'.executions)
    (hheld : ∀ i b, s'.bindings.get? i = some b → b.boundAt.isSome →
      ∃ e, s.executions.get? b.execution = some e ∧ e.claimedByRunnerId = b.boundByRunnerId ∧
        e.status ≠ .queued) : s'.BoundHeld := by
  refine ⟨hone, ?_, ?_⟩
  · rw [← hexecutions]
    exact hs.free
  · rw [← hexecutions]
    exact hheld

end Db.BoundHeld

theorem WorkStep.boundHeld {env : Env} {op : Op} {alone : Prop} {s s' : Db}
    (h : WorkStep env op alone s s') (hs : s.BoundHeld) : s'.BoundHeld := by
  have hone := h.oneToOne hs.oneToOne
  cases h with
  | quiet hexecutions hfalls =>
    exact hs.of_bindings hone hexecutions (hfalls.bindings ▸ hs.held)
  | create row hqueued hfree hexecutions hfalls =>
    refine ⟨hone, fun i e he hstatus => ?_, fun i b hb hbound => ?_⟩
    · rw [hexecutions, Table.get?_insert] at he
      split_ifs at he with hi
      · cases he
        exact hfree
      · exact hs.free i e he hstatus
    · obtain ⟨e, he, hrest⟩ := hs.held i b (hfalls.bindings ▸ hb) hbound
      exact ⟨e, hexecutions ▸ Table.get?_insert_of_some row he, hrest⟩
  | save i hrow hfalls =>
    exact hs.of_edited hfalls.bindings hrow (fun e e' h hq => ⟨h.1 ▸ hq, h.2⟩)
      fun e e' h hq _ => ⟨h.2, h.1 ▸ hq⟩
  | start i _ hrow hfalls =>
    refine hs.of_edited hfalls.bindings hrow (fun e e' h hq => ?_) fun e e' h _ _ => ⟨h.2.2, ?_⟩
    · rw [h.2.1] at hq
      cases hq
    · rw [h.2.1]
      decide
  | claim i r t _ hrow hfalls =>
    refine hs.of_edited hfalls.bindings hrow (fun e e' h hq => ?_) fun e e' h hq _ =>
      absurd h.1 hq
    rw [h.2.1] at hq
    cases hq
  | reclaim i r t _ hfree hrow hfalls =>
    refine hs.of_edited hfalls.bindings hrow (fun e e' h hq => ?_) fun e e' _ _ hbound =>
      absurd hfree hbound
    have hactive := h.1
    rw [← h.2.1, hq] at hactive
    cases hactive
  | finish i _ hrow hfalls =>
    refine hs.of_edited hfalls.bindings hrow (fun e e' h hq => ?_) fun e e' h _ _ =>
      ⟨h.2.2, fun hq => ?_⟩
    all_goals
      have hterminal := h.2.1
      rw [hq] at hterminal
      cases hterminal
  | reserve b _ hunbound _ hbindings _ hexecutions =>
    refine hs.of_bindings hone hexecutions fun i r hr hbound => ?_
    rw [hbindings, Table.get?_insert] at hr
    split_ifs at hr
    · cases hr
      simp [hunbound] at hbound
    · exact hs.held i r hr hbound
  | bind req id b e _ haccepted _ _ hbindings _ hexecutions =>
    refine hs.of_bindings hone hexecutions fun i r hr hbound => ?_
    rcases hbindings.cases hr with ⟨-, rfl⟩ | ⟨-, hr⟩
    · refine ⟨e, by rw [← haccepted.row, haccepted.execution], haccepted.owner, fun hqueued => ?_⟩
      -- nobody holds a queued execution
      have hfree := hs.free _ e haccepted.row hqueued
      exact req.runnerId_ne (haccepted.owner.symm.trans hfree)
    · exact hs.held i r hr hbound
  | callback id b b' hbindings hkept hsame =>
    refine hs.of_bindings hone (hsame .executions (by simp)) fun i r hr hbound => ?_
    rcases hbindings.cases hr with ⟨-, rfl⟩ | ⟨-, hr⟩
    · obtain ⟨hc, he, hat, hby⟩ := hkept
      rw [he, hby]
      exact hs.held id b hbindings.before (hat ▸ hbound)
    · exact hs.held i r hr hbound

theorem WorkSteps.boundHeld {env : Env} {op : Op} {alone : Prop} {s s' : Db}
    (h : WorkSteps env op alone s s') (hs : s.BoundHeld) : s'.BoundHeld := by
  induction h with
  | refl => exact hs
  | tail _ hstep ih => exact hstep.boundHeld ih

theorem boundHeld_of_serving {env : Env} {A : ServedAdmission} {c : ServedConf}
    (h : Serving env A c) : c.db.BoundHeld := by
  refine h.invariant (R := WorkMove env False) Op.interleavedWorkMoves (fun reference now => ?_) ?_
  · constructor <;> simp [Db.OneToOne, Db.initial]
  · exact fun op n s s' hmove _ hs => (hmove False.elim).boundHeld hs

-- ════════════════════════════════════════════════════════════════════════
-- Calls about a bound execution
-- ════════════════════════════════════════════════════════════════════════

/-- The call comes from the runner of the binding, with the current token of the execution. -/
def FromBoundRunner (s : Db) (b : ChangeExecutionBinding) (call : RunnerCall) : Prop :=
  call.runnerId = b.boundByRunnerId ∧
    ∃ e, s.executions.get? b.execution = some e ∧ claimTokenText e = call.claimToken

/-- The guard fails for all other calls. -/
theorem checkBindingReady_fails {s : Db} {i : ℕ} {b : ChangeExecutionBinding} {e : Execution}
    {call : RunnerCall} (hfound : bindingOf? b.execution s = some (i, b))
    (he : s.executions.get? b.execution = some e) (hforeign : ¬FromBoundRunner s b call) :
    ∃ err, checkBindingReady ⟨b.execution, e⟩ call.runnerId call.claimToken s = .error err := by
  cases hcheck : checkBindingReady ⟨b.execution, e⟩ call.runnerId call.claimToken s with
  | error err => exact ⟨err, rfl⟩
  | ok change =>
    simp only [checkBindingReady, Query.bind_ok, select_ok] at hcheck
    obtain ⟨found, rfl, hcheck⟩ := hcheck
    rw [hfound] at hcheck
    simp only [Query.bind_ok, lookup_ok, ensure_ok] at hcheck
    obtain ⟨row, -, _, -, _, hrunner, _, -, _, htoken, -⟩ := hcheck
    exact absurd ⟨hrunner.symm, e, he, htoken⟩ hforeign

/-- **Refusal**: alone, a call about a bound execution that does not come from its runner, with
the current token, fails and changes nothing. -/
theorem Op.refused {env : Env} {s : Db} (hs : s.OneToOne) {i : ℕ} {b : ChangeExecutionBinding}
    (hb : s.bindings.get? i = some b) {op : Op} {call : RunnerCall}
    (hop : op.call? = some (b.execution, call)) (hreport : ∀ e c, op ≠ .heartbeat e c)
    (hforeign : ¬FromBoundRunner s b call) :
    ∃ err, (op.prog env).exec s = (.error err, s) := by
  have hload : ∃ err, (loadReadyExecution env b.execution call).exec s = (.error err, s) := by
    rw [loadReadyExecution, Prog.exec_bind, Prog.exec_read]
    cases he : lookup Db.executions "Execution" b.execution s with
    | error err => exact ⟨err, rfl⟩
    | ok e =>
      rw [lookup_ok] at he
      obtain ⟨j, b', hfound, -⟩ := hs.reservedFor hb
      obtain ⟨hb', hexecution⟩ := Table.find?_some hfound
      obtain rfl := hs i j b b' hb hb'
        (.inr (by simpa using hexecution : b'.execution = b.execution).symm)
      rw [hb] at hb'
      cases hb'
      obtain ⟨err, hcheck⟩ := checkBindingReady_fails hfound he hforeign
      refine ⟨err, ?_⟩
      simp only [Prog.exec_bind, assertExecutionChangeBindingReady, Prog.exec_read, hcheck]
  obtain ⟨err, hload⟩ := hload
  refine ⟨err, ?_⟩
  cases op with
  | heartbeat e c => exact absurd rfl (hreport e c)
  | startStep e step c =>
    obtain ⟨rfl, rfl⟩ : e = b.execution ∧ c = call := by simpa [Op.call?] using hop
    simp only [Op.prog, RunbookPlatform.startStep, Prog.exec_bind, Prog.exec_widen, hload]
  | pollApproval e step c =>
    obtain ⟨rfl, rfl⟩ : e = b.execution ∧ c = call := by simpa [Op.call?] using hop
    simp only [Op.prog, RunbookPlatform.pollApproval, Prog.exec_bind, Prog.exec_widen, hload]
  | updateStep e step c update =>
    obtain ⟨rfl, rfl⟩ : e = b.execution ∧ c = call := by simpa [Op.call?] using hop
    simp only [Op.prog, RunbookPlatform.updateStep, Prog.exec_bind, Prog.exec_widen, hload]
  | completeExecution e c outcome =>
    obtain ⟨rfl, rfl⟩ : e = b.execution ∧ c = call := by simpa [Op.call?] using hop
    simp only [Op.prog, completeByRunner, Prog.exec_bind, Prog.exec_widen, hload]
  | _ => simp [Op.call?] at hop

/-- **Binding safety**, in every interleaving: a change starts to run only by the commit of a
bind request from the owner of the claim of its execution, with a token that verifies and has
not expired; bindings are one to one and keep their change, execution and, once bound, runner;
and a step start, poll, update or completion of a bound execution touches it only with the
identity of that runner and the current token, and fails otherwise. -/
theorem dispatch_binding_safe {env : Env} {c : ServedConf} (h : Serving env anyServed c) :
    (∀ op n c', Serves anyServed op n c c' → ∀ x, c'.db.ChangeIn .running x →
      ¬c.db.ChangeIn .running x → ∃ req i b e, op = .bindExecution req ∧ req.change = x ∧
        bindingOfChange? x c.db = some (i, b) ∧ b.boundAt = none ∧ b.execution = req.execution ∧
        c.db.executions.get? req.execution = some e ∧ e.claimedByRunnerId = req.runnerId ∧
        claimTokenText e = req.claimToken ∧ c.db.now < b.dispatchTokenExpiresAt ∧
        verifyDispatchToken env b req.dispatchToken c.db = .ok true) ∧
    (∀ i j b b', c.db.bindings.get? i = some b → c.db.bindings.get? j = some b' →
      b.changeRecord = b'.changeRecord ∨ b.execution = b'.execution → i = j) ∧
    (∀ c', Relation.ReflTransGen (ServedStep env anyServed) c c' →
      ∀ i b, c.db.bindings.get? i = some b → ∃ b', c'.db.bindings.get? i = some b' ∧
        b'.changeRecord = b.changeRecord ∧ b'.execution = b.execution ∧
        (b.boundAt.isSome → b'.boundAt = b.boundAt ∧ b'.boundByRunnerId = b.boundByRunnerId)) ∧
    (∀ i b, c.db.bindings.get? i = some b → b.boundAt.isSome → ∀ op call,
      op.call? = some (b.execution, call) → (∀ e k, op ≠ .heartbeat e k) →
        (∀ n c', Serves anyServed op n c c' →
          c'.db.executions = c.db.executions ∧ c'.db.steps = c.db.steps ∨
            FromBoundRunner c.db b call) ∧
        (¬FromBoundRunner c.db b call → ∃ err, (op.prog env).exec c.db = (.error err, c.db))) := by
  have hheld := boundHeld_of_serving h
  refine ⟨fun op n c' hserves x hx hnot => ?_, hheld.oneToOne, fun c' hrun => ?_,
    fun i b hb hbound op call hop hreport => ⟨fun n c' hserves => ?_, fun hforeign => ?_⟩⟩
  · obtain ⟨henters, -⟩ := hserves.move h (R := fun op _ => EntersRunning env op) Op.entersRunning
    rcases henters x hx with hold | ⟨req, rfl, i, b, e, hfound, hchange, haccepted, hunbound, -⟩
    · exact absurd hold hnot
    · exact ⟨req, i, b, e, rfl, hchange, hfound, hunbound, haccepted.execution, haccepted.row,
        haccepted.owner, haccepted.token, haccepted.alive, haccepted.verified⟩
  · refine h.stays (I := BindingsKept c.db) (R := WorkMove env False) Op.interleavedWorkMoves ?_
      hrun (refl_of BindingsKept c.db)
    exact fun op n s s' hmove _ hkept =>
      trans_of BindingsKept hkept (hmove False.elim).bindingsKept
  · have hfollows : ∀ (o : Op) s, (o.prog env).Follows historyCells
        (fun n s s' => o.call? = some (b.execution, call) → CallMove o b.execution call n s s') s := by
      intro o s
      by_cases ho : o.call? = some (b.execution, call)
      · exact (Op.callMoves ho s).mono fun _ _ _ hmove _ => hmove
      · exact (o.history env s).mono fun _ _ _ _ hcall => absurd hcall ho
    have hmove := (hserves.move h (R := fun (o : Op) n s s' =>
      o.call? = some (b.execution, call) → CallMove o b.execution call n s s') hfollows).1 hop
    have howner : c.db.OwnedBy b.execution call → FromBoundRunner c.db b call := by
      rintro ⟨e, he, hrunner, htoken⟩
      obtain ⟨e', he', hrunner', -⟩ := hheld.held i b hb hbound
      rw [he] at he'
      cases he'
      exact ⟨hrunner.symm.trans hrunner', e, he, htoken⟩
    cases hmove with
    | untouched huntouched => exact .inl ⟨huntouched.1.symm, huntouched.2.symm⟩
    | heartbeat hreported => exact absurd hreported (hreport _ _)
    | step _ hown => exact .inr (howner hown)
    | complete _ _ hown => exact .inr (howner hown)
  · exact Op.refused hheld.oneToOne hb hop hreport hforeign

/-- Another runner, with the token of the first. -/
def RunnerCall.intruder : RunnerCall where
  runnerId := "intruder"
  claimToken := "token"
  runnerId_ne := by decide
  claimToken_ne := RunnerCall.sample.claimToken_ne

/-- After the bind, the step update of another runner fails and changes nothing. -/
theorem dispatch_binding_safe_bound : ∃ err,
    ((Op.updateStep 0 0 .intruder { newStatus := .failed }).prog .sample).exec boundRun =
      (.error err, boundRun) := by
  have hserving : Serving .sample anyServed ⟨boundRun, []⟩ :=
    (Serving.initial (.sample .sample) 0).runOps boundOps
  obtain ⟨b, hb, hbound⟩ := (Option.any_eq_true _ _).1 (by decide +kernel :
    (boundRun.bindings.get? 0).any (fun b =>
      b.execution = 0 && b.boundAt.isSome && b.boundByRunnerId = "runner") = true)
  simp only [Bool.and_eq_true, decide_eq_true_eq] at hbound
  obtain ⟨⟨hexecution, hat⟩, hby⟩ := hbound
  have hop : (Op.updateStep 0 0 .intruder { newStatus := .failed }).call? =
      some (b.execution, .intruder) := by
    rw [hexecution]
    rfl
  have hforeign : ¬FromBoundRunner boundRun b .intruder := by
    rintro ⟨hrunner, -⟩
    rw [hby] at hrunner
    exact absurd hrunner (by decide)
  have hreport : ∀ e k, Op.updateStep 0 0 .intruder { newStatus := .failed } ≠ .heartbeat e k :=
    nofun
  generalize boundRun = s at *
  obtain ⟨-, -, -, hcalls⟩ := dispatch_binding_safe hserving
  exact (hcalls 0 b hb hat _ _ hop hreport).2 hforeign

end RunbookPlatform
