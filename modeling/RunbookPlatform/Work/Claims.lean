import RunbookPlatform.Work.Bindings

/-!
# Exclusive claims

A token is live while its execution is claimed or running and carries it. A recovery ends the
execution and a reclaim replaces the token, so a token that is not live any more never is
again, as tokens are unique. What is left is that calls with such a token do nothing: most
compare the caller inside their transaction, but the save of a heartbeat does not, and the
moves of steps do not look at the status of the execution.

## Main definitions

- `Db.LiveToken` — the token that a runner works under
- `FreshTokens` — claims do not give a token out again
- `TokenChecked` — what the code does not check itself

## Main results

- `exclusive_claim` — a call with a token that is not live touches nothing
-/

namespace RunbookPlatform

open Transactional

set_option synthInstance.maxSize 1000

/-- The execution is claimed or running, and its claim has this token. -/
def Db.LiveToken (s : Db) (execution : ℕ) (token : String) : Prop :=
  ∃ e, s.executions.get? execution = some e ∧ e.status.isActive ∧ claimTokenText e = token

/-- The claim token that a request carries. -/
def Op.token? : Op → Option String
  | .bindExecution req => some req.claimToken
  | .submitRunnerResult req => some req.claimToken
  | .breakglassHeartbeat _ call _ _ => some call.claimToken
  | .uploadArtifact _ call => some call.claimToken
  | op => op.call?.map (·.2.claimToken)

/-- No claim gives the token `token` out. -/
def FreshTokens (token : String) : ServedAdmission := fun op _ _ => ∀ r, ¬op.Grants r token

/-- The save of a heartbeat finds the token of the call live, and the transaction of a step
start, an approval poll or a step update finds its execution claimed or running. -/
def TokenChecked : ServedAdmission := fun op n s =>
  ∀ execution call, op.call? = some (execution, call) →
    (n = .heartbeat execution → s.LiveToken execution call.claimToken) ∧
    (n.movesStep = true → s.Active execution)

-- ════════════════════════════════════════════════════════════════════════
-- Tokens that are over
-- ════════════════════════════════════════════════════════════════════════

/-- The text of a token is a matter of the claim. -/
theorem claimTokenText_congr {e e' : Execution} (h : e'.claim = e.claim) :
    claimTokenText e' = claimTokenText e := by
  have htoken : e'.claimToken = e.claimToken := congrArg Prod.snd h
  simp only [claimTokenText, htoken]

/-- An edit of an execution gives it a live token only as `P` allows. -/
theorem Db.LiveToken.of_edited {s s' : Db} {i execution : ℕ} {token : String}
    {P : Execution → Execution → Prop} (hrow : s.executions.Edited i P s'.executions)
    (hP : ∀ e e', P e e' → e'.status.isActive → claimTokenText e' = token →
      e.status.isActive ∧ claimTokenText e = token) (h : s'.LiveToken execution token) :
    s.LiveToken execution token := by
  obtain ⟨e', he', hactive, htoken⟩ := h
  obtain ⟨e, he, rfl | ⟨-, hmove⟩⟩ := hrow.of_new he'
  · exact ⟨e', he, hactive, htoken⟩
  · exact ⟨e, he, hP e e' hmove hactive htoken⟩

theorem Db.LiveToken.congr {s s' : Db} {execution : ℕ} {token : String}
    (hexecutions : s.executions = s'.executions) (h : s'.LiveToken execution token) :
    s.LiveToken execution token := by
  unfold Db.LiveToken
  rw [hexecutions]
  exact h

/-- Only a claim that grants it makes a token live. -/
theorem WorkStep.liveToken {env : Env} {op : Op} {alone : Prop} {s s' : Db} {execution : ℕ}
    {token : String} (h : WorkStep env op alone s s') (hfresh : ∀ r, ¬op.Grants r token)
    (hlive : s'.LiveToken execution token) : s.LiveToken execution token := by
  cases h with
  | quiet hexecutions => exact hlive.congr hexecutions
  | create row hqueued _ hexecutions =>
    obtain ⟨e, he, hactive, htoken⟩ := hlive
    rw [hexecutions, Table.get?_insert] at he
    split_ifs at he
    · cases he
      rw [hqueued] at hactive
      cases hactive
    · exact ⟨e, he, hactive, htoken⟩
  | save i hrow =>
    exact hlive.of_edited hrow fun e e' h hactive htoken =>
      ⟨h.1 ▸ hactive, (claimTokenText_congr h.2).symm.trans htoken⟩
  | start i _ hrow =>
    exact hlive.of_edited hrow fun e e' h _ htoken =>
      ⟨by rw [h.1]; rfl, (claimTokenText_congr h.2.2).symm.trans htoken⟩
  | claim i r t hop hrow =>
    refine hlive.of_edited hrow fun e e' h _ htoken => ?_
    have hgranted : e'.claimToken = some t := congrArg Prod.snd h.2.2
    rw [claimTokenText, hgranted] at htoken
    exact absurd (htoken ▸ hop) (hfresh r)
  | reclaim i r t hop _ hrow =>
    refine hlive.of_edited hrow fun e e' h _ htoken => ?_
    have hgranted : e'.claimToken = some t := congrArg Prod.snd h.2.2
    rw [claimTokenText, hgranted] at htoken
    exact absurd (htoken ▸ hop) (hfresh r)
  | finish i _ hrow =>
    refine hlive.of_edited hrow fun e e' h hactive _ => ?_
    have hterminal := h.2.1
    cases hst : e'.status <;> rw [hst] at hactive hterminal <;> cases hactive <;> cases hterminal
  | reserve _ _ _ _ _ _ hexecutions => exact hlive.congr hexecutions
  | bind _ _ _ _ _ _ _ _ _ _ hexecutions => exact hlive.congr hexecutions
  | callback _ _ _ _ _ hsame => exact hlive.congr (hsame .executions (by simp))

theorem WorkSteps.liveToken {env : Env} {op : Op} {alone : Prop} {s s' : Db} {execution : ℕ}
    {token : String} (h : WorkSteps env op alone s s') (hfresh : ∀ r, ¬op.Grants r token)
    (hlive : s'.LiveToken execution token) : s.LiveToken execution token := by
  induction h with
  | refl => exact hlive
  | tail _ hstep ih => exact ih (hstep.liveToken hfresh hlive)

/-- A token that is not live stays so while it is not given out again. -/
theorem stays_dead {env : Env} {A : ServedAdmission} {c c' : ServedConf} {execution : ℕ}
    {token : String} (h : Serving env A c) (hdead : ¬c.db.LiveToken execution token)
    (hrun : Relation.ReflTransGen (ServedStep env (FreshTokens token)) c c') :
    ¬c'.db.LiveToken execution token :=
  h.stays (R := WorkMove env False) (I := fun s => ¬s.LiveToken execution token)
    Op.interleavedWorkMoves
    (fun _ _ _ _ hmove hfresh hdead hlive => hdead ((hmove nofun).liveToken hfresh hlive)) hrun hdead

-- ════════════════════════════════════════════════════════════════════════
-- Calls with tokens
-- ════════════════════════════════════════════════════════════════════════

/-- What a commit of a request with a claim token does. -/
def TokenMove (op : Op) (n : TxName) (s s' : Db) : Prop :=
  op.token?.isSome → Untouched s s' ∨
    ∃ execution call, op.call? = some (execution, call) ∧ CallMove op execution call n s s'

theorem Op.tokenMoves {env : Env} (op : Op) (s : Db) :
    (op.prog env).Follows historyCells (TokenMove op) s := by
  cases hcall : op.call? with
  | some called =>
    obtain ⟨execution, call⟩ := called
    exact (Op.callMoves hcall s).mono fun _ _ _ hmove _ => .inr ⟨execution, call, hcall, hmove⟩
  | none =>
    have hframe : ∀ {W : List Cell} {α : Type} (p : Handler W α),
        (∀ c ∈ [Cell.executions, .steps], c ∉ W) → p.Follows historyCells (TokenMove op) s :=
      fun p hdisj => .frame hdisj (fun _ _ _ h _ => .inl (.of_sameOn h)) p s
    cases op with
    | bindExecution req => exact hframe _ (by dsimp only [Op.cells]; decide)
    | submitRunnerResult req => exact hframe _ (by dsimp only [Op.cells]; decide)
    | breakglassHeartbeat change call session observedAt =>
      exact hframe _ (by dsimp only [Op.cells]; decide)
    | uploadArtifact req call => exact hframe _ (by dsimp only [Op.cells]; decide)
    | heartbeat | startStep | pollApproval | updateStep | completeExecution =>
      simp [Op.call?] at hcall
    | _ =>
      exact (Op.history env _ s).mono fun _ _ _ _ htoken => by simp [Op.token?, Op.call?] at htoken

/-- The ownership check accepts one pair of runner and token. -/
theorem validateRunnerOwnership_unique {e : Execution} {r t r' t' : String} {s : Db} {u u' : Unit}
    (h : validateRunnerOwnership e r t s = .ok u)
    (h' : validateRunnerOwnership e r' t' s = .ok u') : r = r' ∧ t = t' := by
  simp only [validateRunnerOwnership, Query.bind_ok, ensure_ok] at h h'
  obtain ⟨_, hr, ht⟩ := h
  obtain ⟨_, hr', ht'⟩ := h'
  exact ⟨hr.symm.trans hr', ht.symm.trans ht'⟩

/-- **Exclusive claims**, in every interleaving: the ownership check of an execution accepts one
pair of runner and token; and once a token is not live for an execution, because that was
recovered or reclaimed, and is not given out again, no commit of a request that carries it
changes the execution or one of its steps, provided that the save of a heartbeat finds the
token of its call live and a move of a step finds its execution claimed or running. -/
theorem exclusive_claim {env : Env} {c c' : ServedConf} {execution : ℕ} {token : String}
    (h : Serving env anyServed c) (hover : ¬c.db.LiveToken execution token)
    (hrun : Relation.ReflTransGen (ServedStep env (FreshTokens token)) c c') :
    (∀ e r t r' t', c'.db.executions.get? execution = some e →
      validateRunnerOwnership e r t c'.db = .ok () →
        validateRunnerOwnership e r' t' c'.db = .ok () → r = r' ∧ t = t') ∧
    ∀ op n c'', Serves TokenChecked op n c' c'' → op.token? = some token →
      c''.db.executions.get? execution = c'.db.executions.get? execution ∧
      ∀ k st, c'.db.steps.get? k = some st → st.execution = execution →
        c''.db.steps.get? k = some st := by
  refine ⟨fun e r t r' t' _ hv hv' => validateRunnerOwnership_unique hv hv',
    fun op n c'' hserves htoken => ?_⟩
  have hdead := stays_dead h hover hrun
  have hserving : Serving env anyServed c' :=
    h.steps (ServedStep.runs_mono hrun fun _ _ _ _ => trivial)
  obtain ⟨hmove, hadmitted⟩ := hserves.move hserving (R := TokenMove) Op.tokenMoves
  rcases hmove (by simp [htoken]) with huntouched | ⟨i, call, hcall, hmove⟩
  · exact ⟨by rw [huntouched.1], fun k st hst _ => huntouched.2 ▸ hst⟩
  · have hcarried : call.claimToken = token := by
      cases op <;> simp_all [Op.token?, Op.call?]
    obtain ⟨hheartbeat, hstep⟩ := hadmitted i call hcall
    -- the call cannot be about the execution itself
    have helsewhere : c'.db.LiveToken i token → OnlyTouches i c'.db c''.db →
        c''.db.executions.get? execution = c'.db.executions.get? execution ∧
        ∀ k st, c'.db.steps.get? k = some st → st.execution = execution →
          c''.db.steps.get? k = some st := by
      intro hlive hother
      have hne : execution ≠ i := by
        rintro rfl
        exact hdead hlive
      exact ⟨hother.executions execution hne, fun k st hst hexecution =>
        hother.steps k st hst (hexecution ▸ hne)⟩
    have howned : c'.db.OwnedBy i call → c'.db.Active i → c'.db.LiveToken i token := by
      rintro ⟨e, he, -, htext⟩ ⟨e', he', hactive⟩
      rw [he] at he'
      cases he'
      exact ⟨e, he, hactive, htext.trans hcarried⟩
    cases hmove with
    | untouched huntouched => exact ⟨by rw [huntouched.1], fun k st hst _ => huntouched.2 ▸ hst⟩
    | heartbeat _ hn _ hother => exact helsewhere (hcarried ▸ hheartbeat hn) hother
    | step hn hown hother => exact helsewhere (howned hown (hstep hn)) hother
    | complete _ _ hown hactive hother => exact helsewhere (howned hown hactive) hother

/-- A runner holds an execution that no change has reserved. -/
def heldRun : Db :=
  runOps .sample
    [.createExecution 0 .live .sample, .claimNext "runner" true "token" fun _ => "nonce", .tick 1]
    (.initial (.sample { OperationProfile.sample with isActive := false }) 0)

/-- The heartbeat of that runner: its view has loaded the execution and checked the caller. -/
def lateHeartbeat : Prog Db Err (Op × TxName) allCells Unit × Db :=
  ((Op.heartbeat 0 .sample).served .sample).advance 5 heldRun

/-- Meanwhile the watchdog finds the execution stale, and recovers it. -/
def recoveredRun : Db :=
  runOps .sample [.tick 400000000, .recoverStuckExecutions 300] lateHeartbeat.2

theorem serving_recovered : Serving .sample anyServed ⟨recoveredRun, [lateHeartbeat.1]⟩ := by
  have hheld : Serving .sample anyServed ⟨heldRun, []⟩ := (Serving.initial _ 0).runOps _
  exact (hheld.advance (.heartbeat 0 .sample) (Prog.Meets.of_forall (fun _ _ => trivial) _ _) 5).runOps
    [.tick 400000000, .recoverStuckExecutions 300]

theorem recovered_not_live : ¬recoveredRun.LiveToken 0 "token" := by
  rintro ⟨e, he, hactive, -⟩
  have hover : recoveredRun.executions.rows.all (·.status = .failed) = true := by decide
  have hfailed := List.all_eq_true.1 hover e (List.mem_of_getElem? he)
  rw [decide_eq_true_eq] at hfailed
  rw [hfailed] at hactive
  cases hactive

/-- The save of the heartbeat changes the recovered execution. -/
theorem late_heartbeat_saves :
    ¬∀ (env : Env) (c c' : ServedConf) (execution : ℕ) (token : String),
      Serving env anyServed c → ¬c.db.LiveToken execution token →
        Relation.ReflTransGen (ServedStep env (FreshTokens token)) c c' →
          ∀ op n c'', Serves anyServed op n c' c'' → op.token? = some token →
            c''.db.executions.get? execution = c'.db.executions.get? execution := by
  intro h
  have hsave : (lateHeartbeat.1.next? recoveredRun).any (fun (n, s') =>
      n.1.token? = some "token" && (s'.executions.get? 0).any fun e' =>
        (recoveredRun.executions.get? 0).any fun e => e.lastHeartbeatAt ≠ e'.lastHeartbeatAt) =
      true := by
    decide
  obtain ⟨⟨⟨op, n⟩, s'⟩, hnext, hchanged⟩ := (Option.any_eq_true _ _).1 hsave
  simp only [Bool.and_eq_true, decide_eq_true_eq] at hchanged
  obtain ⟨htoken, hchanged⟩ := hchanged
  obtain ⟨e', he', hchanged⟩ := (Option.any_eq_true _ _).1 hchanged
  obtain ⟨e, he, hne⟩ := (Option.any_eq_true _ _).1 hchanged
  obtain ⟨p', hcommit⟩ : ∃ p', Serves anyServed op n ⟨recoveredRun, [lateHeartbeat.1]⟩
      ⟨s', [p']⟩ :=
    Conf.Commits.of_next hnext trivial
  have hsame := h .sample _ _ 0 "token" serving_recovered recovered_not_live .refl op n _ hcommit
    htoken
  rw [he, he'] at hsame
  cases hsame
  simp at hne

/-- A step update with the token of the recovered execution arrives, and loads the execution. -/
theorem exclusive_claim_recovered :
    ∃ c'', Serves TokenChecked (.updateStep 0 0 .sample { newStatus := .failed }) .service
        ⟨recoveredRun, [(Op.updateStep 0 0 .sample { newStatus := .failed }).served .sample]⟩ c'' ∧
      c''.db.executions.get? 0 = recoveredRun.executions.get? 0 := by
  obtain ⟨e, he⟩ := Option.isSome_iff_exists.1
    (by decide : (recoveredRun.executions.get? 0).isSome = true)
  have hserving := serving_recovered.step (.crash (i := 0))
  have hdead := recovered_not_live
  generalize recoveredRun = s at *
  have hnext : ((Op.updateStep 0 0 .sample { newStatus := .failed }).served .sample).next? s =
      some ((.updateStep 0 0 .sample { newStatus := .failed }, .service), s) := by
    obtain ⟨k, hprog⟩ : ∃ k, (Op.updateStep 0 0 .sample { newStatus := .failed }).prog .sample =
        .commit .service (Tx.widen (V := sweepCells)
          (Tx.read (lookup Db.executions "Execution" 0))) k := ⟨_, rfl⟩
    rw [Op.served, Prog.next?_widen, Prog.next?_rename, hprog, Prog.next?, Tx.run_widen,
      Tx.read_ok.2 ⟨lookup_ok.2 he, rfl⟩]
    rfl
  have hchecked : TokenChecked (.updateStep 0 0 .sample { newStatus := .failed }) .service s :=
    fun _ _ _ => ⟨by rintro ⟨⟩, by rintro ⟨⟩⟩
  obtain ⟨p', hcommit⟩ : ∃ p', Serves TokenChecked (.updateStep 0 0 .sample { newStatus := .failed })
      .service ⟨s, [(Op.updateStep 0 0 .sample { newStatus := .failed }).served .sample]⟩
      ⟨s, [p']⟩ :=
    Conf.Commits.of_next hnext hchecked
  refine ⟨_, hcommit, ?_⟩
  have harrived : ServedStep .sample (FreshTokens "token") ⟨s, []⟩
      ⟨s, [(Op.updateStep 0 0 .sample { newStatus := .failed }).served .sample]⟩ :=
    .arrive ⟨_, rfl⟩
  exact ((exclusive_claim hserving hdead (.single harrived)).2 _ _ _ hcommit rfl).1

end RunbookPlatform
