import RunbookPlatform.System

/-!
# Requests that reserve an execution

Submissions, dispatches, promotions and approvals end in the reservation of an execution for
their change. What a reservation respects, and with it everything that touches no execution and
no step, all of them respect.

## Main definitions

- `Reserves` — a preorder that reservations respect

## Main results

- `Reserves.makeDispatchable`, `Reserves.submitChangeRecord`, `Reserves.decideApprovalTx` — so do
  the transactions that end in one
-/

namespace RunbookPlatform

open Transactional

set_option synthInstance.maxSize 1000

/-- Reservations respect `K`, and so does everything that touches no execution and no step. -/
structure Reserves (env : Env) (K : Db → Db → Prop) : Prop where
  quiet : ∀ s s', SameOn [.executions, .steps] s s' → K s s'
  reserve : ∀ row workflow check actor, (reserveExecution env row workflow check actor).Follows K

namespace Reserves

variable {env : Env} {K : Db → Db → Prop} [IsPreorder Db K] {W : List Cell} {α : Type}

omit [IsPreorder Db K] in
/-- **Frame rule**: a transaction that writes no execution and no step. -/
theorem frame (hK : Reserves env K) (t : Service W α)
    (hdisj : ∀ c ∈ [Cell.executions, .steps], c ∉ W) : t.Follows K :=
  (Tx.Follows.sameOn t hdisj).mono hK.quiet

theorem makeDispatchable (hK : Reserves env K) (c : ℕ) (actor : AuditActor) (nonce : String) :
    (makeDispatchable env c actor nonce).Follows K :=
  .bind (.query _) fun row => .bind (.query _) fun now => .bind (.lift (hK.frame _ (by decide))) fun check =>
    .bind (.query _) fun profile => .bind (.query _) fun workflow => .bind (.query _) fun _ =>
    .bind (.query _) fun _ => .bind (.lift (hK.reserve row workflow _ actor)) fun execution =>
    .bind (.lift (hK.frame _ (by decide))) fun _ => .bind (.lift (hK.frame _ (by decide))) fun _ =>
    .bind (.lift (hK.frame _ (by decide))) fun _ => .lift (hK.frame _ (by decide))

theorem scheduleOrMakeDispatchable (hK : Reserves env K) (c : ℕ) (actor : AuditActor)
    (nonce : String) : (scheduleOrMakeDispatchable env c actor nonce).Follows K := by
  refine .bind (.query _) fun row => .bind (.query _) fun _ => .bind (.query _) fun _ =>
    .bind (.query _) fun now => ?_
  split
  · exact .bind (.lift (hK.frame _ (by decide))) fun _ => .pure _
  · exact .lift (hK.makeDispatchable c actor nonce)

theorem submitChangeRecord (hK : Reserves env K) (c : ℕ) (actor : AuditActor) (nonce : String) :
    (submitChangeRecord env c actor nonce).Follows K := by
  refine .bind (.query _) fun row => .bind (.query _) fun (profile, frozen) =>
    .bind (.lift (hK.frame _ (by decide))) fun _ => ?_
  dsimp only
  split
  · exact .bind (.lift (hK.frame _ (by decide))) fun _ => .bind (.lift (hK.frame _ (by decide))) fun _ =>
      .bind (.lift (hK.frame _ (by decide))) fun _ => .lift (hK.frame _ (by decide))
  · exact .bind (.lift (hK.frame _ (by decide))) fun _ => .bind (.lift (hK.frame _ (by decide))) fun _ =>
      .lift (hK.scheduleOrMakeDispatchable c actor nonce)

theorem promoteScheduledChange (hK : Reserves env K) (c : ℕ) (now : Time) (nonce : String) :
    (promoteScheduledChange env c now nonce).Follows K := by
  refine .bind (.query _) fun row => ?_
  split
  · exact hK.makeDispatchable c changeService nonce
  · exact .pure _

/-- The decision itself touches no execution; the change that it approves may be dispatched. -/
theorem decideApprovalTx (hK : Reserves env K) (approval : ℕ) (decision : HumanDecision)
    (notes : String) (actor : AuditActor) (nonce : String) :
    (decideApprovalTx env approval decision notes actor nonce).Follows K := by
  refine .bind (.query _) fun request => .bind (.query _) fun now => ?_
  split
  · exact .bind (.widen (hK.frame _ (by decide))) fun _ => .pure _
  · refine .bind (.query _) fun _ => .bind ?_ fun severe => .bind (.lift (hK.frame _ (by decide))) fun _ =>
      .bind ?_ fun row => .bind (.lift (hK.frame _ (by decide))) fun _ => .bind ?_ fun _ => .pure severe
    · unfold decideException
      split
      · exact .widen (hK.frame _ (by decide))
      · exact .pure _
    · exact (insertUnique_follows (C := [.executions, .steps]) _ _ _ (by decide)).mono hK.quiet
    · unfold decideChange
      split
      · refine .widen (.bind (.query _) fun c => .bind (.query _) fun now => ?_)
        cases decision with
        | approved =>
          exact .bind (.lift (hK.frame _ (by decide))) fun _ =>
            .lift (hK.scheduleOrMakeDispatchable c actor nonce)
        | rejected => exact .bind (.lift (hK.frame _ (by decide))) fun _ => .pure _
      · exact .pure _

end Reserves

end RunbookPlatform
