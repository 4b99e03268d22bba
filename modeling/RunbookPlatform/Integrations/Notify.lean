import Mathlib.Data.List.Infix
import RunbookPlatform.Interaction.Comp

/-!
# The notification of an event

`IntegrationService.notify` goes through the active connections of an organization in the order of
their creation and delivers the event to those that are subscribed to it, up to a number of
connections and as long as its time budget lasts. A delivery that fails does not keep the others
from theirs, and no failure reaches the service that reports the event.

## Main definitions

- `notify`, `notifyAll` — `IntegrationService.notify` and its loop
- `attempted`, `listed`, `started` — what a run delivers, to which connections, and since when
- `Dispatched` — the law of a run

## Main results

- `loops_of_runs` — the loop keeps the law
- `notify_dispatches`
-/

namespace RunbookPlatform.IntegrationService

open Interaction Interaction.Comp

-- ════════════════════════════════════════════════════════════════════════
-- The loop
-- ════════════════════════════════════════════════════════════════════════

/-- What a call raises: an `Exception`, or anything else. -/
inductive TriggerExn where
  | exception | exit
  deriving DecidableEq

/-- What `notify` reads of a connection. -/
structure Subscriber where
  id : ℕ
  eventTypes : List String
  deriving DecidableEq

/-- The calls of `notify`. -/
inductive TriggerCall where
  /-- `time.monotonic()`, in milliseconds. -/
  | monotonic
  /-- The active connections of the organization, by `created_at` and `id`. -/
  | connections
  /-- `_notify_connection` -/
  | notifyConnection (connection : Subscriber)

/-- The answers. -/
@[reducible] def TriggerCall.Answer : TriggerCall → Type
  | monotonic => ℤ
  | connections => Except TriggerExn (List Subscriber)
  | notifyConnection _ => Except TriggerExn Unit

abbrev TriggerEvent : Type := Event TriggerCall TriggerCall.Answer

abbrev TriggerTask (α : Type) : Type := Comp TriggerCall TriggerCall.Answer TriggerExn α

/-- `_matches_event_type`. -/
def matchesEventType (eventType : String) (connection : Subscriber) : Bool :=
  connection.eventTypes.isEmpty || connection.eventTypes.contains eventType

/-- The settings of the dispatch: `_max_per_trigger` and `_dispatch_budget_seconds`, in
milliseconds. -/
structure DispatchLimits where
  maxPerTrigger : ℕ := 25
  budget : ℤ := 10000

variable (limits : DispatchLimits) (eventType : String)

/-- `_dispatch_budget_exhausted`. -/
def dispatchBudgetExhausted (started : ℤ) : TriggerTask Bool :=
  if limits.budget ≤ 0 then pure true
  else do
    let now ← (request TriggerCall.monotonic : TriggerTask ℤ)
    pure (limits.budget ≤ now - started)

/-- The loop of `notify`, after `notified` deliveries. -/
def notifyAll (started : ℤ) : ℕ → List Subscriber → TriggerTask Unit
  | _, [] => pure ()
  | notified, connection :: rest =>
    if matchesEventType eventType connection then
      if limits.maxPerTrigger ≤ notified then pure ()
      else do
        if ← dispatchBudgetExhausted limits started then pure ()
        else
          match ← (request (TriggerCall.notifyConnection connection) :
            TriggerTask (Except TriggerExn Unit)) with
          | .error .exit => .fail .exit
          | _ => notifyAll started (notified + 1) rest
    else notifyAll started notified rest

/-- `notify`. -/
def notify : TriggerTask Unit := do
  let started ← (request TriggerCall.monotonic : TriggerTask ℤ)
  match ← (request TriggerCall.connections : TriggerTask (Except TriggerExn (List Subscriber))) with
  | .ok connections => notifyAll limits eventType started 0 connections
  | .error .exit => .fail .exit
  | .error .exception => pure ()

-- ════════════════════════════════════════════════════════════════════════
-- Runs
-- ════════════════════════════════════════════════════════════════════════

/-- The connections that a run delivers to, in their order. -/
def attempted (t : List TriggerEvent) : List Subscriber :=
  t.filterMap fun
    | ⟨.notifyConnection connection, _⟩ => some connection
    | _ => none

/-- The connections that a run has found. -/
def listed (t : List TriggerEvent) : List Subscriber :=
  t.flatMap fun
    | ⟨.connections, .ok connections⟩ => connections
    | _ => []

/-- When a run has started. -/
def started : List TriggerEvent → ℤ
  | ⟨.monotonic, now⟩ :: _ => now
  | _ => 0

/-- Every delivery follows a reading of the clock that is in the budget. -/
def InBudget (start : ℤ) (t : List TriggerEvent) : Prop :=
  ∀ before connection answer after, t = before ++ ⟨.notifyConnection connection, answer⟩ :: after →
    ∃ earlier now, before = earlier ++ [⟨.monotonic, now⟩] ∧ now - start < limits.budget

/-- The budget is over: there is none, or the last reading of the clock is past it. -/
def Exhausted (start : ℤ) (t : List TriggerEvent) : Prop :=
  limits.budget ≤ 0 ∨
    ∃ earlier now, t = earlier ++ [⟨.monotonic, now⟩] ∧ limits.budget ≤ now - start

/-- The law of a run. -/
structure Dispatched (t : List TriggerEvent) (r : Except TriggerExn Unit) : Prop where
  /-- The first connections that are subscribed, each once. -/
  first : attempted t <+: (listed t).filter (matchesEventType eventType)
  limited : (attempted t).length ≤ limits.maxPerTrigger
  inBudget : InBudget limits (started t) t
  /-- Only a limit keeps a connection from its delivery. -/
  all : r = .ok () → attempted t = (listed t).filter (matchesEventType eventType) ∨
    (attempted t).length = limits.maxPerTrigger ∨ Exhausted limits (started t) t
  /-- No `Exception` is raised. -/
  silent : r ≠ .error .exception

variable {limits eventType} {start : ℤ} {notified : ℕ} {connections : List Subscriber}
  {t : List TriggerEvent} {r : Except TriggerExn Unit}

theorem inBudget_nil : InBudget limits start [] := by
  intro before connection answer after h
  simp at h

/-- A call that is no delivery. -/
theorem InBudget.cons {event : TriggerEvent} (hevent : ∀ c a, event ≠ ⟨.notifyConnection c, a⟩)
    (h : InBudget limits start t) : InBudget limits start (event :: t) := by
  intro before connection answer after heq
  cases before with
  | nil =>
    obtain ⟨rfl, -⟩ := List.cons.inj heq
    exact absurd rfl (hevent _ _)
  | cons first before =>
    obtain ⟨rfl, hrest⟩ := List.cons.inj heq
    obtain ⟨earlier, now, rfl, hnow⟩ := h before connection answer after hrest
    exact ⟨event :: earlier, now, rfl, hnow⟩

/-- A delivery after a reading of the clock. -/
theorem InBudget.deliver {now : ℤ} {connection : Subscriber} {answer : Except TriggerExn Unit}
    (hnow : now - start < limits.budget) (h : InBudget limits start t) :
    InBudget limits start (⟨.monotonic, now⟩ :: ⟨.notifyConnection connection, answer⟩ :: t) := by
  intro before other answer' after heq
  match before with
  | [] => simp at heq
  | [first] =>
    obtain ⟨rfl, -⟩ := List.cons.inj heq
    exact ⟨[], now, rfl, hnow⟩
  | first :: second :: before =>
    simp only [List.cons_append, List.cons.injEq] at heq
    obtain ⟨rfl, rfl, hrest⟩ := heq
    obtain ⟨earlier, now', rfl, hnow'⟩ := h before other answer' after hrest
    exact ⟨_ :: _ :: earlier, now', rfl, hnow'⟩

/-- What the loop does from some connection on. -/
structure Loops (limits : DispatchLimits) (eventType : String) (start : ℤ) (notified : ℕ)
    (connections : List Subscriber) (t : List TriggerEvent) (r : Except TriggerExn Unit) :
    Prop where
  first : attempted t <+: connections.filter (matchesEventType eventType)
  limited : notified + (attempted t).length ≤ limits.maxPerTrigger
  inBudget : InBudget limits start t
  all : r = .ok () → attempted t = connections.filter (matchesEventType eventType) ∨
    notified + (attempted t).length = limits.maxPerTrigger ∨ Exhausted limits start t
  silent : r ≠ .error .exception
  listsNone : listed t = []

theorem Exhausted.cons {event : TriggerEvent} (h : Exhausted limits start t) :
    Exhausted limits start (event :: t) := by
  rcases h with hnone | ⟨earlier, now, rfl, hnow⟩
  · exact .inl hnone
  · exact .inr ⟨event :: earlier, now, rfl, hnow⟩

/-- The loop ends without a further call. -/
theorem Loops.stop (hnotified : notified ≤ limits.maxPerTrigger)
    (h : connections.filter (matchesEventType eventType) = [] ∨
      notified = limits.maxPerTrigger ∨ limits.budget ≤ 0) :
    Loops limits eventType start notified connections [] (.ok ()) where
  first := List.nil_prefix
  limited := hnotified
  inBudget := inBudget_nil
  all _ := by
    rcases h with hnone | hfull | hbudget
    · exact .inl hnone.symm
    · exact .inr (.inl hfull)
    · exact .inr (.inr (.inl hbudget))
  silent := by simp
  listsNone := rfl

/-- **The loop**, connection by connection. -/
theorem loops_of_runs (hnotified : notified ≤ limits.maxPerTrigger)
    (h : (notifyAll limits eventType start notified connections).Runs t r) :
    Loops limits eventType start notified connections t r := by
  induction connections generalizing notified t with
  | nil =>
    obtain ⟨rfl, rfl⟩ := runs_pure.1 h
    exact .stop hnotified (.inl rfl)
  | cons connection rest ih =>
    unfold notifyAll at h
    by_cases hmatches : matchesEventType eventType connection = true
    · rw [if_pos hmatches] at h
      have hfilter : (connection :: rest).filter (matchesEventType eventType) =
          connection :: rest.filter (matchesEventType eventType) :=
        List.filter_cons_of_pos hmatches
      by_cases hfull : limits.maxPerTrigger ≤ notified
      · rw [if_pos hfull] at h
        obtain ⟨rfl, rfl⟩ := runs_pure.1 h
        exact .stop hnotified (.inr (.inl (le_antisymm hnotified hfull)))
      · rw [if_neg hfull] at h
        by_cases hbudget : limits.budget ≤ 0
        · rw [dispatchBudgetExhausted, if_pos hbudget] at h
          obtain ⟨rfl, rfl⟩ := runs_pure.1 h
          exact .stop hnotified (.inr (.inr hbudget))
        · rw [dispatchBudgetExhausted, if_neg hbudget] at h
          obtain ⟨now, t, rfl, hread⟩ := runs_request_bind.1 h
          by_cases hover : limits.budget ≤ now - start
          · have hstop : (pure () : TriggerTask Unit).Runs t r := by simpa [hover] using hread
            obtain ⟨rfl, rfl⟩ := runs_pure.1 hstop
            exact
              { first := List.nil_prefix
                limited := hnotified
                inBudget := inBudget_nil.cons (by simp)
                all := fun _ => .inr (.inr (.inr ⟨[], now, rfl, hover⟩))
                silent := by simp
                listsNone := rfl }
          · have hgoes : ((request (TriggerCall.notifyConnection connection) :
                TriggerTask (Except TriggerExn Unit)) >>= fun answer => match answer with
                  | .error .exit => .fail .exit
                  | _ => notifyAll limits eventType start (notified + 1) rest).Runs t r := by
              simpa [hover] using hread
            obtain ⟨answer, t, rfl, hrest⟩ := runs_request_bind.1 hgoes
            have hnow : now - start < limits.budget := Int.not_le.1 hover
            by_cases hexit : answer = .error .exit
            · subst hexit
              obtain ⟨rfl, rfl⟩ := runs_fail.1 hrest
              exact
                { first := by
                    rw [hfilter]
                    exact ⟨_, rfl⟩
                  limited := Nat.lt_of_not_le hfull
                  inBudget := inBudget_nil.deliver hnow
                  all := by simp
                  silent := by simp
                  listsNone := rfl }
            · have hloop : (notifyAll limits eventType start (notified + 1) rest).Runs t r := by
                match answer with
                | .ok () => exact hrest
                | .error .exception => exact hrest
                | .error .exit => exact absurd rfl hexit
              have hl := ih (Nat.lt_of_not_le hfull) hloop
              have hattempted : attempted (⟨.monotonic, now⟩ ::
                  ⟨.notifyConnection connection, answer⟩ :: t) = connection :: attempted t := rfl
              refine ⟨?_, ?_, hl.inBudget.deliver hnow, fun hok => ?_, hl.silent, hl.listsNone⟩
              · rw [hattempted, hfilter]
                exact (List.prefix_cons_inj _).2 hl.first
              · rw [hattempted, List.length_cons]
                have := hl.limited
                omega
              · rw [hattempted, hfilter, List.length_cons]
                rcases hl.all hok with hall | hlimit | hexhausted
                · exact .inl (congrArg _ hall)
                · exact .inr (.inl (by omega))
                · exact .inr (.inr hexhausted.cons.cons)
    · rw [if_neg hmatches] at h
      have hl := ih hnotified h
      have hfilter : (connection :: rest).filter (matchesEventType eventType) =
          rest.filter (matchesEventType eventType) :=
        List.filter_cons_of_neg hmatches
      exact
        { first := hfilter ▸ hl.first
          limited := hl.limited
          inBudget := hl.inBudget
          all := fun hok => hfilter ▸ hl.all hok
          silent := hl.silent
          listsNone := hl.listsNone }

/-- **The notification of an event**: in every run the subscribed connections get it in the order of
their creation, each once, whatever becomes of the deliveries before; only the limit of connections
or the time budget, which is checked before every delivery, leaves any out; and no `Exception`
reaches the service that reports the event. -/
theorem notify_dispatches (h : (notify limits eventType).Runs t r) :
    Dispatched limits eventType t r := by
  obtain ⟨start, t, rfl, hrest⟩ := runs_request_bind.1 h
  obtain ⟨answer, t, rfl, hgoes⟩ := runs_request_bind.1 hrest
  match answer with
  | .ok connections =>
    have hl := loops_of_runs (Nat.zero_le _) hgoes
    have hlisted : listed (⟨.monotonic, start⟩ :: ⟨.connections, .ok connections⟩ :: t) =
        connections := by
      have hnone := hl.listsNone
      simp only [listed, List.flatMap_cons] at hnone ⊢
      rw [hnone, List.append_nil, List.nil_append]
    refine ⟨?_, ?_, (hl.inBudget.cons (by simp)).cons (by simp), fun hok => ?_, hl.silent⟩
    · rw [hlisted]
      exact hl.first
    · have hlimited := hl.limited
      rwa [Nat.zero_add] at hlimited
    · rw [hlisted]
      rcases hl.all hok with hall | hfull | hexhausted
      · exact .inl hall
      · rw [Nat.zero_add] at hfull
        exact .inr (.inl hfull)
      · exact .inr (.inr hexhausted.cons.cons)
  | .error exn =>
    have hend : t = [] ∧ r ≠ .error .exception := by
      cases exn with
      | exception =>
        obtain ⟨rfl, rfl⟩ := runs_pure.1 hgoes
        simp
      | exit =>
        obtain ⟨rfl, rfl⟩ := runs_fail.1 hgoes
        simp
    obtain ⟨rfl, hsilent⟩ := hend
    exact
      { first := List.nil_prefix
        limited := Nat.zero_le _
        inBudget := (inBudget_nil.cons (by simp)).cons (by simp)
        all := fun _ => .inl rfl
        silent := hsilent }

/-- A run: the first delivery fails, the second one is made, and the third comes too late. -/
def lateRun : List TriggerEvent :=
  [⟨.monotonic, 0⟩,
    ⟨.connections, .ok [⟨1, []⟩, ⟨2, ["execution.failed"]⟩, ⟨3, ["approval.requested"]⟩, ⟨4, []⟩]⟩,
    ⟨.monotonic, 5⟩, ⟨.notifyConnection ⟨1, []⟩, .error .exception⟩,
    ⟨.monotonic, 3000⟩, ⟨.notifyConnection ⟨2, ["execution.failed"]⟩, .ok ()⟩,
    ⟨.monotonic, 12000⟩]

theorem notify_dispatches_lateRun : Dispatched {} "execution.failed" lateRun (.ok ()) := by
  refine notify_dispatches (runs_request_bind.2 ⟨_, _, rfl, runs_request_bind.2 ⟨_, _, rfl, ?_⟩⟩)
  exact runs_request_bind.2 ⟨_, _, rfl, runs_request_bind.2 ⟨_, _, rfl, runs_request_bind.2
    ⟨_, _, rfl, runs_request_bind.2 ⟨_, _, rfl, runs_request_bind.2 ⟨_, _, rfl, runs_pure.2
      ⟨rfl, rfl⟩⟩⟩⟩⟩⟩

end RunbookPlatform.IntegrationService
