import Mathlib.Algebra.Order.Ring.Int
import RunbookPlatform.Interaction.Comp

/-!
# The poll loop

`runner/poller.py`: the runner asks for work, runs what it claims to the end, and sleeps when there
is nothing to do or when the control plane does not answer, for longer each time. The loop is
modelled by its first turns, however many; a sleep ends by itself, by the shutdown event or by a
keyboard interrupt, which `threading.Event.wait` is the only one to raise.

## Main definitions

- `Poller.pollOnce`, `Poller.runForever` — `_poll_once` and `run_forever`
- `Poller.failures`, `Poller.empties` — the failures and the empty answers in a row
- `Poller.Turn`, `Poller.Rounds` — what one turn can do, and what the loop can

## Main results

- `Poller.sleeps_back_off` — how long every sleep of every run is
- `Poller.works_off_claims` — what is claimed is run, once and in order, and after a drain nothing
  is claimed
-/

namespace RunbookPlatform

open Interaction Interaction.Comp

-- ════════════════════════════════════════════════════════════════════════
-- The loop
-- ════════════════════════════════════════════════════════════════════════

/-- What a call of the loop raises: `KeyboardInterrupt`, an `Exception`, or anything else. -/
inductive PollExn where
  | interrupt | exception | exit
  deriving DecidableEq

/-- What comes of `client.claim_next()`: a response without an execution has an action, and one with
an execution has a token, unless the control plane forgot it. -/
inductive ClaimAnswer where
  | httpError
  | raised (e : PollExn)
  | nothing (runnerAction : String)
  | claimed (execution : ℕ) (claimToken : Option String)

/-- The calls of the loop. -/
inductive PollCall where
  /-- `self._shutdown_event.is_set()` -/
  | isSet
  | claimNext
  /-- `self._shutdown_event.wait(timeout=...)` -/
  | sleep (seconds : ℤ)
  /-- `self._shutdown_event.set()` -/
  | shutdown
  /-- `time.sleep(5)` -/
  | pause
  /-- `self._executor.run(...)` -/
  | run (execution : ℕ) (claimToken : String)

/-- The answers: a sleep says whether it was interrupted. -/
@[reducible] def PollCall.Answer : PollCall → Type
  | isSet | sleep _ | pause => Bool
  | claimNext => ClaimAnswer
  | shutdown => Unit
  | run .. => Except PollExn Unit

abbrev PollEvent : Type := Event PollCall PollCall.Answer

abbrev PollTask (α : Type) : Type := Comp PollCall PollCall.Answer PollExn α

/-- `_empty_backoff` and `_error_backoff`. -/
structure Backoffs where
  empty : ℤ := 2
  error : ℤ := 5

/-- A `Poller` with a shutdown event. -/
structure Poller where
  maxEmptyBackoff : ℤ

namespace Poller

/-- `_MAX_ERROR_BACKOFF`. -/
def maxErrorBackoff : ℤ := 60

variable (p : Poller)

/-- `client.claim_next()`. -/
def claimNext : PollTask ClaimAnswer := request PollCall.claimNext

/-- `_sleep`: whether a keyboard interrupt ended it. -/
def sleep (seconds : ℤ) : PollTask Bool := request (PollCall.sleep seconds)

/-- `_poll_once`: the backoffs after it, and what it raises. -/
def pollOnce (b : Backoffs) : PollTask (Backoffs × Except PollExn Unit) := do
  match ← claimNext with
  | .raised e => pure (b, .error e)
  | .httpError =>
    if ← sleep b.error then pure (b, .error .interrupt)
    else pure ({ b with error := min (b.error * 2) maxErrorBackoff }, .ok ())
  | .nothing runnerAction =>
    let b := { b with error := 5 }
    if runnerAction = "drain" then do
      let () ← (request PollCall.shutdown : PollTask Unit)
      pure (b, .ok ())
    else if ← sleep b.empty then pure (b, .error .interrupt)
    else pure ({ b with empty := min (b.empty * 2) p.maxEmptyBackoff }, .ok ())
  | .claimed _ none => pure ({}, .ok ())
  | .claimed execution (some claimToken) => do
    let outcome ← (request (PollCall.run execution claimToken) : PollTask (Except PollExn Unit))
    pure ({}, outcome)

/-- `run_forever`, for some turns. -/
def runForever : ℕ → Backoffs → PollTask Unit
  | 0, _ => pure ()
  | n + 1, b => do
    if ← (request PollCall.isSet : PollTask Bool) then pure ()
    else
      let (b, outcome) ← p.pollOnce b
      match outcome with
      | .ok () => runForever n b
      | .error .interrupt => pure ()
      | .error .exit => .fail .exit
      | .error .exception =>
        if ← (request PollCall.pause : PollTask Bool) then .fail .interrupt else runForever n b

/-- **One turn**: its calls, the backoffs after it, and what it raises. -/
inductive Turn (p : Poller) (b : Backoffs) :
    List PollEvent → Backoffs → Except PollExn Unit → Prop where
  | raised (e : PollExn) : Turn p b [⟨.claimNext, .raised e⟩] b (.error e)
  | failed : Turn p b [⟨.claimNext, .httpError⟩, ⟨.sleep b.error, false⟩]
      { b with error := min (b.error * 2) maxErrorBackoff } (.ok ())
  | failedInterrupted : Turn p b [⟨.claimNext, .httpError⟩, ⟨.sleep b.error, true⟩] b
      (.error .interrupt)
  | drained : Turn p b [⟨.claimNext, .nothing "drain"⟩, ⟨.shutdown, ()⟩] { b with error := 5 }
      (.ok ())
  | idle (runnerAction : String) (hcontinue : runnerAction ≠ "drain") :
      Turn p b [⟨.claimNext, .nothing runnerAction⟩, ⟨.sleep b.empty, false⟩]
        { error := 5, empty := min (b.empty * 2) p.maxEmptyBackoff } (.ok ())
  | idleInterrupted (runnerAction : String) (hcontinue : runnerAction ≠ "drain") :
      Turn p b [⟨.claimNext, .nothing runnerAction⟩, ⟨.sleep b.empty, true⟩]
        { b with error := 5 } (.error .interrupt)
  | unnamed (execution : ℕ) : Turn p b [⟨.claimNext, .claimed execution none⟩] {} (.ok ())
  | worked (execution : ℕ) (claimToken : String) (outcome : Except PollExn Unit) :
      Turn p b [⟨.claimNext, .claimed execution (some claimToken)⟩,
        ⟨.run execution claimToken, outcome⟩] {} outcome

variable {p} {b b' : Backoffs} {t : List PollEvent} {n : ℕ}

theorem runs_pollOnce {r : Except PollExn (Backoffs × Except PollExn Unit)}
    (h : (p.pollOnce b).Runs t r) :
    ∃ b' outcome, r = .ok (b', outcome) ∧ p.Turn b t b' outcome := by
  obtain ⟨answer, t, rfl, hanswered⟩ := runs_request_bind.1 h
  match answer with
  | .raised e =>
    obtain ⟨rfl, rfl⟩ := runs_pure.1 hanswered
    exact ⟨_, _, rfl, .raised e⟩
  | .httpError =>
    obtain ⟨interrupted, t, rfl, hslept⟩ := runs_request_bind.1 hanswered
    cases interrupted with
    | true =>
      obtain ⟨rfl, rfl⟩ := runs_pure.1 hslept
      exact ⟨_, _, rfl, .failedInterrupted⟩
    | false =>
      obtain ⟨rfl, rfl⟩ := runs_pure.1 hslept
      exact ⟨_, _, rfl, .failed⟩
  | .nothing runnerAction =>
    by_cases hdrain : runnerAction = "drain"
    · subst hdrain
      obtain ⟨u, t, rfl, hset⟩ := runs_request_bind.1 hanswered
      obtain ⟨rfl, rfl⟩ := runs_pure.1 hset
      exact ⟨_, _, rfl, .drained⟩
    · simp only [if_neg hdrain] at hanswered
      obtain ⟨interrupted, t, rfl, hslept⟩ := runs_request_bind.1 hanswered
      cases interrupted with
      | true =>
        obtain ⟨rfl, rfl⟩ := runs_pure.1 hslept
        exact ⟨_, _, rfl, .idleInterrupted runnerAction hdrain⟩
      | false =>
        obtain ⟨rfl, rfl⟩ := runs_pure.1 hslept
        exact ⟨_, _, rfl, .idle runnerAction hdrain⟩
  | .claimed execution none =>
    obtain ⟨rfl, rfl⟩ := runs_pure.1 hanswered
    exact ⟨_, _, rfl, .unnamed execution⟩
  | .claimed execution (some claimToken) =>
    obtain ⟨outcome, t, rfl, hworked⟩ := runs_request_bind.1 hanswered
    obtain ⟨rfl, rfl⟩ := runs_pure.1 hworked
    exact ⟨_, _, rfl, .worked execution claimToken outcome⟩

/-- **The loop**, turn by turn. -/
inductive Rounds (p : Poller) : Backoffs → List PollEvent → Prop where
  | done {b : Backoffs} : Rounds p b []
  | stopped {b : Backoffs} : Rounds p b [⟨.isSet, true⟩]
  /-- The last turn, perhaps with an interrupted pause after it. -/
  | last {b b' : Backoffs} {t between : List PollEvent} {outcome : Except PollExn Unit}
      (hturn : p.Turn b t b' outcome) (hbetween : ∀ event ∈ between, event.1 = .pause) :
      Rounds p b (⟨.isSet, false⟩ :: (t ++ between))
  | next {b b' : Backoffs} {t between rest : List PollEvent} {outcome : Except PollExn Unit}
      (hturn : p.Turn b t b' outcome) (hgoes : outcome ≠ .error .interrupt)
      (hbetween : ∀ event ∈ between, event.1 = .pause) (hrest : Rounds p b' rest) :
      Rounds p b (⟨.isSet, false⟩ :: (t ++ (between ++ rest)))

theorem rounds_of_runs {r : Except PollExn Unit} (h : (p.runForever n b).Runs t r) :
    p.Rounds b t := by
  induction n generalizing b t with
  | zero =>
    obtain ⟨rfl, -⟩ := runs_pure.1 h
    exact .done
  | succ n ih =>
    obtain ⟨stop, t, rfl, hrest⟩ := runs_request_bind.1 h
    cases stop with
    | true =>
      obtain ⟨rfl, -⟩ := runs_pure.1 hrest
      exact .stopped
    | false =>
      obtain ⟨e, rfl, hraised⟩ | ⟨after, t₁, t₂, rfl, hpolled, hnext⟩ := runs_bind.1 hrest
      · obtain ⟨b', outcome, heq, -⟩ := runs_pollOnce hraised
        cases heq
      obtain ⟨b', outcome, heq, hturn⟩ := runs_pollOnce hpolled
      obtain rfl := Except.ok.inj heq
      match outcome with
      | .ok () =>
        have hnone : ∀ event ∈ ([] : List PollEvent), event.1 = .pause := List.forall_mem_nil _
        exact .next hturn (by decide) hnone (ih hnext)
      | .error .interrupt =>
        obtain ⟨rfl, -⟩ := runs_pure.1 hnext
        exact .last hturn (List.forall_mem_nil _)
      | .error .exit =>
        obtain ⟨rfl, -⟩ := runs_fail.1 hnext
        exact .last hturn (List.forall_mem_nil _)
      | .error .exception =>
        obtain ⟨interrupted, t₃, rfl, hpaused⟩ := runs_request_bind.1 hnext
        have hpause : ∀ event ∈ [(⟨.pause, interrupted⟩ : PollEvent)], event.1 = .pause :=
          fun event hevent => by rw [List.mem_singleton.1 hevent]
        cases interrupted with
        | true =>
          obtain ⟨rfl, -⟩ := runs_fail.1 hpaused
          exact .last hturn hpause
        | false => exact .next hturn (by decide) hpause (ih hpaused)

-- ════════════════════════════════════════════════════════════════════════
-- How long it sleeps
-- ════════════════════════════════════════════════════════════════════════

/-- The answers to the claims of a run. -/
def claims (t : List PollEvent) : List ClaimAnswer :=
  t.filterMap fun
    | ⟨.claimNext, answer⟩ => some answer
    | _ => none

/-- The failures in a row at the end; what was raised before a request is not counted. -/
def failures (answers : List ClaimAnswer) : ℕ :=
  answers.foldl (fun k answer => match answer with
    | .httpError => k + 1
    | .raised _ => k
    | .nothing _ | .claimed .. => 0) 0

/-- The empty answers since the last work; failures and drains are not counted. -/
def empties (answers : List ClaimAnswer) : ℕ :=
  answers.foldl (fun k answer => match answer with
    | .nothing runnerAction => if runnerAction = "drain" then k else k + 1
    | .httpError | .raised _ => k
    | .claimed .. => 0) 0

/-- The sleep after a failure that `k` failures in a row precede: 5 s, doubled up to 60 s. -/
def errorWait (k : ℕ) : ℤ := min (5 * 2 ^ k) maxErrorBackoff

/-- The sleep after an empty answer that `k` others precede: 2 s, doubled up to the interval. -/
def emptyWait (p : Poller) : ℕ → ℤ
  | 0 => 2
  | k + 1 => min (2 * 2 ^ (k + 1)) p.maxEmptyBackoff

/-- The sleep is the one that the last of the answers asks for. -/
def Due (p : Poller) (answers : List ClaimAnswer) (seconds : ℤ) : Prop :=
  ∃ earlier, (answers = earlier ++ [.httpError] ∧ seconds = errorWait (failures earlier)) ∨
    ∃ runnerAction, runnerAction ≠ "drain" ∧ answers = earlier ++ [.nothing runnerAction] ∧
      seconds = p.emptyWait (empties earlier)

/-- The backoffs after the answers. -/
def backoffs (p : Poller) (answers : List ClaimAnswer) : Backoffs where
  empty := p.emptyWait (empties answers)
  error := errorWait (failures answers)

theorem errorWait_succ (k : ℕ) : min (errorWait k * 2) maxErrorBackoff = errorWait (k + 1) := by
  rw [errorWait, errorWait, pow_succ, ← mul_assoc, maxErrorBackoff]
  generalize (5 : ℤ) * 2 ^ k = x
  omega

theorem emptyWait_succ (hmax : 0 ≤ p.maxEmptyBackoff) (k : ℕ) :
    min (p.emptyWait k * 2) p.maxEmptyBackoff = p.emptyWait (k + 1) := by
  cases k with
  | zero => rfl
  | succ k =>
    rw [emptyWait, emptyWait, pow_succ _ (k + 1), ← mul_assoc]
    generalize (2 : ℤ) * 2 ^ (k + 1) = x
    omega

/-- **A turn** leaves the backoffs that the answers so far ask for. -/
theorem Turn.backoffs {outcome : Except PollExn Unit} {answers : List ClaimAnswer}
    (hmax : 0 ≤ p.maxEmptyBackoff) (h : p.Turn (p.backoffs answers) t b' outcome)
    (hgoes : outcome ≠ .error .interrupt) : b' = p.backoffs (answers ++ claims t) := by
  cases h with
  | raised e => simp [Poller.backoffs, claims, failures, empties]
  | failed =>
    simp only [Poller.backoffs, claims, List.filterMap_cons, List.filterMap_nil, failures, empties,
      List.foldl_append, List.foldl_cons, List.foldl_nil]
    rw [errorWait_succ]
  | failedInterrupted | idleInterrupted => exact absurd rfl hgoes
  | drained => simp [Poller.backoffs, claims, failures, empties, errorWait, maxErrorBackoff]
  | idle runnerAction hcontinue =>
    simp only [Poller.backoffs, claims, List.filterMap_cons, List.filterMap_nil, failures, empties,
      List.foldl_append, List.foldl_cons, List.foldl_nil, if_neg hcontinue]
    rw [emptyWait_succ hmax]
    rfl
  | unnamed | worked => 
    simp [Poller.backoffs, claims, failures, empties, errorWait, emptyWait, maxErrorBackoff]

/-- Every sleep is the one that the answers before it ask for. -/
def Paced (p : Poller) : List ClaimAnswer → List PollEvent → Prop
  | _, [] => True
  | answers, ⟨.claimNext, answer⟩ :: t => Paced p (answers ++ [answer]) t
  | answers, ⟨.sleep seconds, _⟩ :: t => p.Due answers seconds ∧ Paced p answers t
  | answers, _ :: t => Paced p answers t

theorem claims_append (t₁ t₂ : List PollEvent) : claims (t₁ ++ t₂) = claims t₁ ++ claims t₂ :=
  List.filterMap_append

theorem paced_append {answers : List ClaimAnswer} {t₁ t₂ : List PollEvent} :
    p.Paced answers (t₁ ++ t₂) ↔ p.Paced answers t₁ ∧ p.Paced (answers ++ claims t₁) t₂ := by
  induction t₁ generalizing answers with
  | nil => simp [Paced, claims]
  | cons event t₁ ih =>
    obtain ⟨c, a⟩ := event
    cases c with
    | claimNext =>
      have hclaims : claims (⟨.claimNext, a⟩ :: t₁) = [a] ++ claims t₁ := rfl
      rw [List.cons_append, Paced, Paced, ih, hclaims, ← List.append_assoc]
    | sleep seconds =>
      have hclaims : claims (⟨.sleep seconds, a⟩ :: t₁) = claims t₁ := rfl
      rw [List.cons_append, Paced, Paced, ih, hclaims, and_assoc]
    | isSet | shutdown | pause | run => exact ih

/-- Pauses are no claims and no sleeps. -/
theorem quiet_between {between : List PollEvent} (h : ∀ event ∈ between, event.1 = .pause)
    (answers : List ClaimAnswer) : claims between = [] ∧ p.Paced answers between := by
  induction between with
  | nil => exact ⟨rfl, trivial⟩
  | cons event between ih =>
    obtain ⟨c, a⟩ := event
    obtain rfl : c = .pause := h _ List.mem_cons_self
    exact ih fun other hother => h other (List.mem_cons_of_mem _ hother)

theorem Turn.paced {outcome : Except PollExn Unit} {answers : List ClaimAnswer}
    (h : p.Turn (p.backoffs answers) t b' outcome) : p.Paced answers t := by
  cases h with
  | raised | drained | unnamed | worked => simp [Paced]
  | failed | failedInterrupted => exact ⟨⟨answers, .inl ⟨rfl, rfl⟩⟩, trivial⟩
  | idle runnerAction hcontinue | idleInterrupted runnerAction hcontinue =>
    exact ⟨⟨answers, .inr ⟨runnerAction, hcontinue, rfl, rfl⟩⟩, trivial⟩

theorem Rounds.paced (hmax : 0 ≤ p.maxEmptyBackoff) {answers : List ClaimAnswer}
    (hb : b = p.backoffs answers) (h : p.Rounds b t) : p.Paced answers t := by
  induction h generalizing answers with
  | done => trivial
  | stopped => trivial
  | last hturn hbetween =>
    subst hb
    show p.Paced answers (_ ++ _)
    exact paced_append.2 ⟨hturn.paced, (quiet_between hbetween _).2⟩
  | next hturn hgoes hbetween _ ih =>
    subst hb
    show p.Paced answers (_ ++ _)
    refine paced_append.2 ⟨hturn.paced, paced_append.2 ⟨(quiet_between hbetween _).2, ih ?_⟩⟩
    rw [(quiet_between (p := p) hbetween []).1, List.append_nil]
    exact hturn.backoffs hmax hgoes

/-- **Sleeps back off**: in every run, a sleep after a failure doubles with the failures in a row
before it, from 5 s to 60 s, and a sleep after an empty answer doubles with the empty answers since
the last work, from 2 s to the poll interval. -/
theorem sleeps_back_off (hmax : 0 ≤ p.maxEmptyBackoff) {r : Except PollExn Unit}
    (hrun : (p.runForever n {}).Runs t r) {before after : List PollEvent} {seconds : ℤ}
    {interrupted : Bool} (ht : t = before ++ ⟨.sleep seconds, interrupted⟩ :: after) :
    p.Due (claims before) seconds := by
  have hstart : ({} : Backoffs) = p.backoffs [] := rfl
  have hpaced := (rounds_of_runs hrun).paced hmax hstart
  rw [ht, paced_append] at hpaced
  exact hpaced.2.1

/-- A failure, and the sleep after it, which is interrupted. -/
def failedRun : List PollEvent :=
  [⟨.isSet, false⟩, ⟨.claimNext, .httpError⟩, ⟨.sleep 5, true⟩]

theorem failedRun_runs : ((⟨5⟩ : Poller).runForever 1 {}).Runs failedRun (.ok ()) :=
  ⟨false, _, rfl, .httpError, _, rfl, true, _, rfl, rfl, rfl⟩

theorem sleeps_back_off_failed :
    (⟨5⟩ : Poller).Due (claims [⟨.isSet, false⟩, ⟨.claimNext, .httpError⟩]) 5 :=
  sleeps_back_off (by decide) failedRun_runs
    (rfl : failedRun = [⟨.isSet, false⟩, ⟨.claimNext, .httpError⟩] ++ ⟨.sleep 5, true⟩ :: [])

-- ════════════════════════════════════════════════════════════════════════
-- What it runs
-- ════════════════════════════════════════════════════════════════════════

/-- The executions that a run was given, with their tokens. -/
def granted (t : List PollEvent) : List (ℕ × String) :=
  (claims t).filterMap fun
    | .claimed execution (some claimToken) => some (execution, claimToken)
    | _ => none

/-- The executions that it ran. -/
def ran (t : List PollEvent) : List (ℕ × String) :=
  t.filterMap fun
    | ⟨.run execution claimToken, _⟩ => some (execution, claimToken)
    | _ => none

/-- Once the shutdown event is set and seen, nothing is claimed. -/
def Drains : List PollEvent → Prop
  | [] => True
  | ⟨.shutdown, _⟩ :: t => (⟨.isSet, false⟩ ∉ t → claims t = []) ∧ Drains t
  | _ :: t => Drains t

theorem granted_append (t₁ t₂ : List PollEvent) :
    granted (t₁ ++ t₂) = granted t₁ ++ granted t₂ := by
  rw [granted, claims_append, List.filterMap_append]
  rfl

theorem ran_append (t₁ t₂ : List PollEvent) : ran (t₁ ++ t₂) = ran t₁ ++ ran t₂ :=
  List.filterMap_append

theorem ran_between {between : List PollEvent} (h : ∀ event ∈ between, event.1 = .pause) :
    ran between = [] := by
  induction between with
  | nil => rfl
  | cons event between ih =>
    obtain ⟨c, a⟩ := event
    obtain rfl : c = .pause := h _ List.mem_cons_self
    exact ih fun other hother => h other (List.mem_cons_of_mem _ hother)

theorem granted_between {between : List PollEvent} (h : ∀ event ∈ between, event.1 = .pause) :
    granted between = [] := by
  rw [granted, (quiet_between (p := ⟨0⟩) h []).1]
  rfl

theorem Turn.ran_eq {outcome : Except PollExn Unit} (h : p.Turn b t b' outcome) :
    ran t = granted t := by
  cases h <;> rfl

/-- **What is claimed** with a token is run, in order, and nothing else is. -/
theorem Rounds.ran_eq (h : p.Rounds b t) : ran t = granted t := by
  induction h with
  | done => rfl
  | stopped => rfl
  | last hturn hbetween =>
    show ran (_ ++ _) = granted (_ ++ _)
    rw [ran_append, granted_append, hturn.ran_eq, ran_between hbetween, granted_between hbetween]
  | next hturn hgoes hbetween _ ih =>
    show ran (_ ++ (_ ++ _)) = granted (_ ++ (_ ++ _))
    rw [ran_append, ran_append, granted_append, granted_append, hturn.ran_eq, ih,
      ran_between hbetween, granted_between hbetween]

theorem drains_append {t₁ t₂ : List PollEvent} (h : ∀ event ∈ t₁, event.1 ≠ .shutdown) :
    Drains (t₁ ++ t₂) ↔ Drains t₂ := by
  induction t₁ with
  | nil => exact Iff.rfl
  | cons event t₁ ih =>
    have hrest := ih fun other hother => h other (List.mem_cons_of_mem _ hother)
    obtain ⟨c, a⟩ := event
    cases c with
    | shutdown => exact absurd rfl (h _ List.mem_cons_self)
    | claimNext | sleep | isSet | pause | run => exact hrest

/-- A turn that does not end in a drain leaves the shutdown event alone. -/
theorem Turn.shutdown {outcome : Except PollExn Unit} (h : p.Turn b t b' outcome) :
    (∀ event ∈ t, event.1 ≠ .shutdown) ∨
      t = [⟨.claimNext, .nothing "drain"⟩, ⟨.shutdown, ()⟩] := by
  cases h with
  | drained => exact .inr rfl
  | raised | unnamed =>
    refine .inl fun event hevent => ?_
    rw [List.mem_singleton.1 hevent]
    exact PollCall.noConfusion
  | failed | failedInterrupted | idle | idleInterrupted | worked =>
    refine .inl fun event hevent => ?_
    obtain rfl | hevent := List.mem_cons.1 hevent
    · exact PollCall.noConfusion
    · rw [List.mem_singleton.1 hevent]
      exact PollCall.noConfusion

theorem Rounds.drains (h : p.Rounds b t) : Drains t := by
  -- The turn is followed by pauses, and by turns that start with a look at the event.
  have hturn {b b' : Backoffs} {t rest : List PollEvent} {outcome : Except PollExn Unit}
      (hturn : p.Turn b t b' outcome) (hrest : Drains rest)
      (hclaims : ⟨.isSet, false⟩ ∉ rest → claims rest = []) : Drains (t ++ rest) := by
    obtain hnone | rfl := hturn.shutdown
    · exact (drains_append hnone).2 hrest
    · exact ⟨hclaims, hrest⟩
  have hquiet {between : List PollEvent} (h : ∀ event ∈ between, event.1 = .pause) :
      ∀ event ∈ between, event.1 ≠ .shutdown := by
    intro event hevent
    rw [h event hevent]
    exact PollCall.noConfusion
  induction h with
  | done => trivial
  | stopped => trivial
  | @last b b' t between outcome hmade hbetween =>
    have hdrains : Drains between := by
      have h : Drains (between ++ []) ↔ Drains [] := drains_append (hquiet hbetween)
      rw [List.append_nil] at h
      exact h.2 trivial
    exact hturn hmade hdrains fun _ => (quiet_between (p := p) hbetween []).1
  | @next b b' t between rest outcome hmade _ hbetween hrest ih =>
    refine hturn hmade ((drains_append (hquiet hbetween)).2 ih) fun hseen => ?_
    rw [claims_append, (quiet_between (p := p) hbetween []).1, List.nil_append]
    cases hrest with
    | done => rfl
    | stopped => rfl
    | last | next =>
      exact absurd (List.mem_append_right _ List.mem_cons_self) hseen

theorem drains_of_append {t₁ t₂ : List PollEvent} (h : Drains (t₁ ++ t₂)) : Drains t₂ := by
  induction t₁ with
  | nil => exact h
  | cons event t₁ ih =>
    obtain ⟨c, a⟩ := event
    cases c with
    | shutdown => exact ih h.2
    | claimNext | sleep | isSet | pause | run => exact ih h

/-- **Claims are worked off**: in every run, the executions that the runner runs are those that it
was given with a token, each once and in order; and once it has set the shutdown event, it claims
nothing more, as long as the event stays set. -/
theorem works_off_claims {r : Except PollExn Unit} (hrun : (p.runForever n b).Runs t r) :
    ran t = granted t ∧
      ∀ before after, t = before ++ ⟨.shutdown, ()⟩ :: after → ⟨.isSet, false⟩ ∉ after →
        claims after = [] := by
  have hrounds := rounds_of_runs hrun
  refine ⟨hrounds.ran_eq, fun before after ht hset => ?_⟩
  have hdrains := hrounds.drains
  rw [ht] at hdrains
  exact (drains_of_append hdrains).1 hset

/-- An execution is claimed and run, and then the runner is drained. -/
def drainedRun : List PollEvent :=
  [⟨.isSet, false⟩, ⟨.claimNext, .claimed 0 (some "token")⟩, ⟨.run 0 "token", .ok ()⟩,
    ⟨.isSet, false⟩, ⟨.claimNext, .nothing "drain"⟩, ⟨.shutdown, ()⟩, ⟨.isSet, true⟩]

theorem works_off_claims_drained :
    ran drainedRun = granted drainedRun ∧
      ∀ before after, drainedRun = before ++ ⟨.shutdown, ()⟩ :: after → ⟨.isSet, false⟩ ∉ after →
        claims after = [] :=
  works_off_claims (p := ⟨5⟩) (n := 3) (b := {}) (r := .ok ())
    ⟨false, _, rfl, .claimed 0 (some "token"), _, rfl, .ok (), _, rfl, false, _, rfl,
      .nothing "drain", _, rfl, (), _, rfl, true, _, rfl, rfl, rfl⟩

end Poller

end RunbookPlatform
