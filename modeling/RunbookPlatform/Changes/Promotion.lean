import Mathlib.Order.Interval.Finset.Nat
import RunbookPlatform.System
import RunbookPlatform.Transactional.Sweeps

/-!
# Promotion of scheduled changes

`promote_due_scheduled_changes` tries the fifty newest due changes. One that fails stays
scheduled and is among the newest again, so fifty changes that fail for good keep all older ones
from being tried.

## Main definitions

- `DueIn` — a scheduled change is due
- `Promotions` — states from which the sweep runs again and again
- `TriedIn` — the sweep begins the dispatch of a change

## Main results

- `promotion_fair_iff` — which due changes are tried, in one sweep and in all
-/

namespace RunbookPlatform

open Transactional

/-- The change is scheduled, for an instant that has come. -/
def ChangeRecord.IsDue (now : Time) (row : ChangeRecord) : Prop :=
  row.status = .scheduled ∧ row.scheduledFor.any (· ≤ now) = true

/-- Change `c` is due at the instant. -/
def DueAt (now : Time) (s : Db) (c : ℕ) : Prop :=
  ∃ row, s.changes.get? c = some row ∧ row.IsDue now

/-- Change `c` is due in the state. -/
def DueIn (s : Db) (c : ℕ) : Prop := DueAt s.now s c

variable {env : Env} {s s' : Db} {c d : ℕ}

-- ════════════════════════════════════════════════════════════════════════
-- One dispatch
-- ════════════════════════════════════════════════════════════════════════

/-- **A dispatch** moves its change, and no other, to `DISPATCHABLE`. -/
theorem makeDispatchable_changes {actor : AuditActor} {nonce : String} {u : Unit}
    (h : (makeDispatchable env c actor nonce).run s = .ok (u, s')) :
    ∃ now, s'.changes = s.changes.modify c (applyTransition .dispatchable now "") := by
  simp only [makeDispatchable, Tx.bind_ok, Tx.lift_query_ok, Tx.run_lift] at h
  obtain ⟨row, _, ⟨-, rfl⟩, now, _, ⟨-, rfl⟩, check, s1, hgates, profile, _, ⟨-, rfl⟩, workflow,
    _, ⟨-, rfl⟩, _, _, ⟨-, rfl⟩, _, _, ⟨-, rfl⟩, execution, s2, hexec, _, s3, hlocks, binding, s4,
    hbinding, old, s5, hmove, hemit⟩ := h
  have h1 : s.changes = s1.changes := Tx.frame _ hgates .changes (by decide)
  have h2 : s1.changes = s2.changes := Tx.frame _ hexec .changes (by decide)
  have h3 : s2.changes = s3.changes := Tx.frame _ hlocks .changes (by decide)
  have h4 : s3.changes = s4.changes := Tx.frame _ hbinding .changes (by decide)
  have h6 : s5.changes = s'.changes := Tx.frame _ hemit .changes (by decide)
  obtain ⟨_, -, -, -, rfl⟩ := transitionChange_ok.1 hmove
  exact ⟨now, by rw [← h6, h1, h2, h3, h4]⟩

/-- **A promotion** dispatches a change that is due. -/
theorem promoteScheduledChange_changes {now : Time} {nonce : String} {u : Unit}
    (h : (promoteScheduledChange env c now nonce).run s = .ok (u, s')) :
    ∃ row, s.changes.get? c = some row ∧
      ((row.IsDue now ∧ ∃ t, s'.changes = s.changes.modify c (applyTransition .dispatchable t "")) ∨
        (¬row.IsDue now ∧ s'.changes = s.changes)) := by
  simp only [promoteScheduledChange, Tx.bind_ok, Tx.lift_query_ok, lookup_ok] at h
  obtain ⟨row, _, ⟨hrow, rfl⟩, h⟩ := h
  refine ⟨row, hrow, ?_⟩
  by_cases hdue : row.status = .scheduled ∧ row.scheduledFor.any (· ≤ now) = true
  · rw [if_pos hdue] at h
    exact .inl ⟨hdue, makeDispatchable_changes h⟩
  · rw [if_neg hdue] at h
    simp only [Tx.run_pure, Except.ok.injEq, Prod.mk.injEq] at h
    exact .inr ⟨hdue, by rw [h.2]⟩

-- ════════════════════════════════════════════════════════════════════════
-- One sweep
-- ════════════════════════════════════════════════════════════════════════

/-- The attempt to promote one change. -/
def promotionOf (env : Env) (now : Time) (nonce : ℕ → String) (change : Loaded ChangeRecord) :
    Service dispatchCells Unit :=
  promoteScheduledChange env change.id now (nonce change.id)

/-- The due changes, oldest first. -/
def dueChanges (s : Db) : List (Loaded ChangeRecord) :=
  rowsWhere s.changes fun c => c.status = .scheduled && c.scheduledFor.any (· ≤ s.now)

theorem mem_dueChanges {change : Loaded ChangeRecord} :
    change ∈ dueChanges s ↔ s.changes.get? change.id = some change.row ∧
      change.row.IsDue s.now := by
  rw [dueChanges, mem_rowsWhere, ChangeRecord.IsDue]
  simp

/-- The changes that a sweep tries. -/
def sweptChanges (s : Db) : List (Loaded ChangeRecord) := (dueChanges s).reverse.take 50

variable {nonce : ℕ → String}

/-- **The sweep** reads the clock and the due changes, and tries each of the first. -/
theorem promoteDueScheduledChanges_eq :
    promoteDueScheduledChanges env nonce = (do
      let now ← Prog.read timezoneNow
      let due ← Prog.read (select fun s => (rowsWhere s.changes fun c =>
        c.status = .scheduled && c.scheduledFor.any (· ≤ now)).reverse.take 50)
      Prog.tryEach (fun change => .promote change.id now) (promotionOf env now nonce) due) := rfl

theorem exec_promoteDue :
    (promoteDueScheduledChanges env nonce).exec s =
      (.ok (), Prog.afterEach (fun change : Loaded ChangeRecord => TxName.promote change.id s.now)
        (promotionOf env s.now nonce) (sweptChanges s) s) := by
  rw [promoteDueScheduledChanges_eq, ← Prog.exec_tryEach (W := dispatchCells)]
  rfl

/-- The first attempts of the sweep are its reads. -/
theorem attempts_promoteDue (env : Env) (nonce : ℕ → String) (s : Db) :
    ∃ reads : List (Attempt Db TxName), (∀ a ∈ reads, a.name = default) ∧
      (promoteDueScheduledChanges env nonce).attempts s = reads ++
        Prog.attemptEach (fun change : Loaded ChangeRecord => TxName.promote change.id s.now)
          (promotionOf env s.now nonce) (sweptChanges s) s := by
  refine ⟨[.of default (Tx.read timezoneNow : Tx Db Err dispatchCells Time) s,
    .of default (Tx.read (select fun s' => (rowsWhere s'.changes fun c =>
      c.status = .scheduled && c.scheduledFor.any (· ≤ s.now)).reverse.take 50) :
        Tx Db Err dispatchCells (List (Loaded ChangeRecord))) s], ?_, ?_⟩
  · rintro a (_ | ⟨_, _ | ⟨_, ⟨⟩⟩⟩) <;> rfl
  · rw [promoteDueScheduledChanges_eq, ← Prog.attempts_tryEach (W := dispatchCells)]
    rfl

/-- The sweep begins the dispatch of the change. -/
def TriedIn (env : Env) (nonce : ℕ → String) (s : Db) (c : ℕ) : Prop :=
  ∃ a ∈ (promoteDueScheduledChanges env nonce).attempts s, a.name = .promote c s.now

/-- What stands before position `k` from the end of a list in increasing order. -/
theorem mem_take_reverse_iff {α : Type} {key : α → ℕ} {xs : List α} {x : α} {k : ℕ}
    (hsorted : xs.Pairwise fun a b => key a < key b) (hx : x ∈ xs) :
    x ∈ xs.reverse.take k ↔ (xs.filter (key x < key ·)).length < k := by
  obtain ⟨before, after, rfl⟩ := List.append_of_mem hx
  rw [List.pairwise_append, List.pairwise_cons] at hsorted
  obtain ⟨-, ⟨hafter, -⟩, hbefore⟩ := hsorted
  have hsmaller : ∀ a ∈ before, key a < key x := fun a ha => hbefore a ha x List.mem_cons_self
  have hfilter : (before ++ x :: after).filter (key x < key ·) = after := by
    rw [List.filter_append, List.filter_cons_of_neg (by simp), List.filter_eq_nil_iff.2,
      List.nil_append, List.filter_eq_self.2]
    · exact fun a ha => by simpa using hafter a ha
    · exact fun a ha => by simpa using (hsmaller a ha).le
  rw [hfilter, List.reverse_append, List.reverse_cons, List.append_assoc]
  constructor
  · intro hmem
    by_contra hle
    rw [List.take_append_of_le_length (by simpa using hle)] at hmem
    have hlater := List.mem_reverse.1 (List.mem_of_mem_take hmem)
    exact absurd (hafter x hlater) (lt_irrefl _)
  · intro hlt
    rw [List.take_append, List.mem_append]
    right
    obtain ⟨m, hm⟩ : ∃ m, k - after.reverse.length = m + 1 := ⟨k - after.length - 1, by simp; omega⟩
    rw [hm]
    simp

/-- The newer due changes, as the sweep counts them. -/
theorem ncard_newer (c : ℕ) :
    {d | DueIn s d ∧ c < d}.ncard = ((dueChanges s).filter (c < ·.id)).length := by
  have hnodup : (((dueChanges s).filter (c < ·.id)).map (·.id)).Nodup :=
    ((nodup_rowsWhere _ _).sublist (List.filter_sublist.map _))
  have hset : {d | DueIn s d ∧ c < d} =
      ((((dueChanges s).filter (c < ·.id)).map (·.id)).toFinset : Set ℕ) := by
    ext d
    simp only [Set.mem_ofPred_eq, List.coe_toFinset, List.mem_map, List.mem_filter, decide_eq_true_eq]
    constructor
    · rintro ⟨⟨row, hrow, hdue⟩, hlt⟩
      exact ⟨⟨d, row⟩, ⟨mem_dueChanges.2 ⟨hrow, hdue⟩, hlt⟩, rfl⟩
    · rintro ⟨change, ⟨hmem, hlt⟩, rfl⟩
      obtain ⟨hrow, hdue⟩ := mem_dueChanges.1 hmem
      exact ⟨⟨change.row, hrow, hdue⟩, hlt⟩
  rw [hset, Set.ncard_coe_finset, List.toFinset_card_of_nodup hnodup, List.length_map]

theorem triedIn_iff_swept : TriedIn env nonce s c ↔ ∃ change ∈ sweptChanges s, change.id = c := by
  obtain ⟨reads, hreads, hattempts⟩ := attempts_promoteDue env nonce s
  have hnames := Prog.map_name_attemptEach
    (fun change : Loaded ChangeRecord => TxName.promote change.id s.now)
    (promotionOf env s.now nonce) (sweptChanges s) s
  rw [TriedIn, hattempts]
  constructor
  · rintro ⟨a, hmem, hname⟩
    obtain hmem | hmem := List.mem_append.1 hmem
    · rw [hreads a hmem] at hname
      cases hname
    · have hmapped : TxName.promote c s.now ∈
          (sweptChanges s).map fun change => TxName.promote change.id s.now :=
        hnames ▸ List.mem_map.2 ⟨a, hmem, hname⟩
      obtain ⟨change, hchange, heq⟩ := List.mem_map.1 hmapped
      exact ⟨change, hchange, (TxName.promote.inj heq).1⟩
  · rintro ⟨change, hchange, rfl⟩
    have hmapped : TxName.promote change.id s.now ∈ (Prog.attemptEach
        (fun change : Loaded ChangeRecord => TxName.promote change.id s.now)
        (promotionOf env s.now nonce) (sweptChanges s) s).map (·.name) :=
      hnames ▸ List.mem_map.2 ⟨change, hchange, rfl⟩
    obtain ⟨a, ha, hname⟩ := List.mem_map.1 hmapped
    exact ⟨a, List.mem_append_right _ ha, hname⟩

/-- **One sweep** tries a due change exactly when fewer than fifty newer ones are due. -/
theorem triedIn_iff (hdue : DueIn s c) :
    TriedIn env nonce s c ↔ {d | DueIn s d ∧ c < d}.ncard < 50 := by
  obtain ⟨row, hrow, hisDue⟩ := hdue
  have hmem : ⟨c, row⟩ ∈ dueChanges s := mem_dueChanges.2 ⟨hrow, hisDue⟩
  have hsorted : (dueChanges s).Pairwise fun a b => a.id < b.id := pairwise_rowsWhere _ _
  rw [triedIn_iff_swept, ncard_newer, sweptChanges, ← mem_take_reverse_iff hsorted hmem]
  constructor
  · rintro ⟨⟨id, row'⟩, hswept, rfl⟩
    obtain ⟨hrow', -⟩ := mem_dueChanges.1 (List.mem_reverse.1 (List.mem_of_mem_take hswept))
    rw [hrow, Option.some.injEq] at hrow'
    exact hrow' ▸ hswept
  · exact fun hswept => ⟨_, hswept, rfl⟩

-- ════════════════════════════════════════════════════════════════════════
-- What a sweep leaves
-- ════════════════════════════════════════════════════════════════════════

/-- A dispatched change of `s'` was due in `s`; the other changes are the same. -/
structure Promoted (now : Time) (change : Loaded ChangeRecord) (s s' : Db) : Prop where
  others : ∀ d, d ≠ change.id → s'.changes.get? d = s.changes.get? d
  due : ∀ row, s'.changes.get? change.id = some row → row.IsDue now →
    s.changes.get? change.id = some row

/-- **An attempt** dispatches its change when it is due and the attempt succeeds. -/
theorem promotionOf_result (env : Env) (nonce : ℕ → String) (s : Db) (now : Time) (n : TxName)
    (change : Loaded ChangeRecord) :
    Promoted now change s (Attempt.of n (promotionOf env now nonce change) s).result ∧
    ((Attempt.of n (promotionOf env now nonce change) s).after.isSome = true →
      DueAt now s change.id → ∃ later,
        (Attempt.of n (promotionOf env now nonce change) s).result.changes.get? change.id =
          some later ∧ later.status = .dispatchable) := by
  rw [Attempt.result, Attempt.of]
  cases hrun : (promotionOf env now nonce change).run s with
  | error e => exact ⟨⟨fun _ _ => rfl, fun _ hrow _ => hrow⟩, fun h => by cases h⟩
  | ok r =>
    obtain ⟨u, s'⟩ := r
    obtain ⟨row, hrow, hcases⟩ := promoteScheduledChange_changes hrun
    show Promoted now change s s' ∧ (_ → _ → ∃ later, s'.changes.get? change.id = some later ∧ _)
    obtain ⟨hdue, t, hchanges⟩ | ⟨hdue, hchanges⟩ := hcases
    · have hget : s'.changes.get? change.id = some (applyTransition .dispatchable t "" row) := by
        rw [hchanges, Table.get?_modify_self, hrow]
        rfl
      refine ⟨⟨fun d hd => ?_, fun row' hrow' hdue' => ?_⟩, fun _ _ => ⟨_, hget, rfl⟩⟩
      · rw [hchanges, Table.get?_modify_of_ne hd]
      · rw [hget, Option.some.injEq] at hrow'
        subst hrow'
        cases hdue'.1
    · refine ⟨⟨fun d _ => by rw [hchanges], fun row' hrow' _ => by rwa [hchanges] at hrow'⟩, ?_⟩
      rintro - ⟨row', hrow', hdue'⟩
      rw [hrow, Option.some.injEq] at hrow'
      exact absurd (hrow' ▸ hdue') hdue

section

variable {now : Time} {name : Loaded ChangeRecord → TxName} {items : List (Loaded ChangeRecord)}

/-- **The sweep** touches the changes it tries only, and makes none due. -/
theorem afterEach_changes :
    (∀ d, d ∉ items.map (·.id) →
      (Prog.afterEach name (promotionOf env now nonce) items s).changes.get? d =
        s.changes.get? d) ∧
    ∀ d, DueAt now (Prog.afterEach name (promotionOf env now nonce) items s) d → DueAt now s d := by
  induction items generalizing s with
  | nil => exact ⟨fun _ _ => rfl, fun _ h => h⟩
  | cons change items ih =>
    obtain ⟨hpromoted, -⟩ := promotionOf_result env nonce s now (name change) change
    obtain ⟨hothers, hdue⟩ := ih (s := (Attempt.of (name change) (promotionOf env now nonce change) s).result)
    constructor
    · intro d hd
      rw [List.map_cons, List.mem_cons, not_or] at hd
      exact (hothers d hd.2).trans (hpromoted.others d hd.1)
    · intro d hd
      obtain ⟨row, hrow, hrowDue⟩ := hdue d hd
      by_cases heq : d = change.id
      · subst heq
        exact ⟨row, hpromoted.due row hrow hrowDue, hrowDue⟩
      · exact ⟨row, (hpromoted.others d heq).symm.trans hrow, hrowDue⟩

/-- **A dispatch that succeeds** promotes its change, whatever the other attempts do. -/
theorem attemptEach_promotes (hnodup : (items.map (·.id)).Nodup)
    (hdue : ∀ change ∈ items, DueAt now s change.id) {a : Attempt Db TxName}
    (ha : a ∈ Prog.attemptEach (fun change : Loaded ChangeRecord => TxName.promote change.id now)
      (promotionOf env now nonce) items s) (hname : a.name = .promote c now)
    (hafter : a.after.isSome = true) :
    ∃ later, (Prog.afterEach (fun change : Loaded ChangeRecord => TxName.promote change.id now)
      (promotionOf env now nonce) items s).changes.get? c = some later ∧
        later.status = .dispatchable := by
  induction items generalizing s with
  | nil => cases ha
  | cons change items ih =>
    obtain ⟨hpromoted, hdispatched⟩ := promotionOf_result env nonce s now (.promote change.id now) change
    rw [List.map_cons, List.nodup_cons] at hnodup
    rw [Prog.attemptEach] at ha
    obtain rfl | ha := List.mem_cons.1 ha
    · obtain ⟨rfl, -⟩ := TxName.promote.inj hname
      obtain ⟨later, hlater, hstatus⟩ := hdispatched hafter (hdue change List.mem_cons_self)
      exact ⟨later, (afterEach_changes.1 _ hnodup.1).trans hlater, hstatus⟩
    · refine ih hnodup.2 (fun other hother => ?_) ha
      have hne : other.id ≠ change.id :=
        fun heq => hnodup.1 (heq ▸ List.mem_map_of_mem hother)
      obtain ⟨row, hrow, hrowDue⟩ := hdue other (List.mem_cons_of_mem _ hother)
      exact ⟨row, (hpromoted.others _ hne).trans hrow, hrowDue⟩

end

/-- **In one sweep** a change whose dispatch succeeds is promoted. -/
theorem promoted_of_attempt {a : Attempt Db TxName}
    (ha : a ∈ (promoteDueScheduledChanges env nonce).attempts s)
    (hname : a.name = .promote c s.now) (hafter : a.after.isSome = true) :
    ∃ later, ((promoteDueScheduledChanges env nonce).exec s).2.changes.get? c = some later ∧
      later.status = .dispatchable := by
  obtain ⟨reads, hreads, hattempts⟩ := attempts_promoteDue env nonce s
  rw [hattempts] at ha
  obtain ha | ha := List.mem_append.1 ha
  · rw [hreads a ha] at hname
    cases hname
  rw [exec_promoteDue]
  refine attemptEach_promotes ?_ (fun change hchange => ?_) ha hname hafter
  · have hsub : (sweptChanges s).Sublist (dueChanges s).reverse := List.take_sublist _ _
    refine (hsub.map (·.id)).nodup ?_
    rw [List.map_reverse]
    exact List.nodup_reverse.2 (nodup_rowsWhere _ _)
  · exact ⟨_, mem_dueChanges.1 (List.mem_reverse.1 (List.mem_of_mem_take hchange))⟩

-- ════════════════════════════════════════════════════════════════════════
-- Sweep after sweep
-- ════════════════════════════════════════════════════════════════════════

/-- States from which the sweep runs again and again; between two sweeps no change becomes due
or stops being due. -/
def Promotions (env : Env) (nonce : ℕ → ℕ → String) (state : ℕ → Db) : Prop :=
  ∀ n d, DueIn (state (n + 1)) d ↔
    DueAt (state n).now ((promoteDueScheduledChanges env (nonce n)).exec (state n)).2 d

/-- The due changes of the states. -/
def dueIds (state : ℕ → Db) (n : ℕ) : Finset ℕ := ((dueChanges (state n)).map (·.id)).toFinset

theorem mem_dueIds {state : ℕ → Db} {n : ℕ} : d ∈ dueIds state n ↔ DueIn (state n) d := by
  rw [dueIds, List.mem_toFinset, List.mem_map]
  constructor
  · rintro ⟨change, hchange, rfl⟩
    exact ⟨_, mem_dueChanges.1 hchange⟩
  · rintro ⟨row, hrow, hdue⟩
    exact ⟨⟨d, row⟩, mem_dueChanges.2 ⟨hrow, hdue⟩, rfl⟩

theorem Promotions.waiting {nonce : ℕ → ℕ → String} {state : ℕ → Db}
    (h : Promotions env nonce state) :
    Waiting (fun newer c => c < newer) 50 (dueIds state) where
  shrinks n d hd := by
    rw [mem_dueIds, h, exec_promoteDue] at hd
    exact mem_dueIds.2 (afterEach_changes.2 d hd)
  keeps n c hc huntried := by
    rw [mem_dueIds] at hc ⊢
    have hmany : ¬TriedIn env (nonce n) (state n) c := by
      rw [triedIn_iff hc]
      exact fun hfew => huntried ⟨mem_dueIds.2 hc, by simpa only [mem_dueIds] using hfew⟩
    rw [triedIn_iff_swept] at hmany
    rw [h, exec_promoteDue]
    obtain ⟨row, hrow, hdue⟩ := hc
    refine ⟨row, (afterEach_changes.1 c fun hmem => ?_).trans hrow, hdue⟩
    obtain ⟨change, hchange, hid⟩ := List.mem_map.1 hmem
    exact hmany ⟨change, hchange, hid⟩

/-- **Promotion**: a due change is tried in some sweep exactly when fewer than fifty newer
changes stay due in all of them, and in one sweep exactly when fewer than fifty newer ones are
due; a change whose dispatch succeeds is promoted. -/
theorem promotion_fair_iff {nonce : ℕ → ℕ → String} {state : ℕ → Db}
    (h : Promotions env nonce state) (hdue : DueIn (state 0) c) :
    ((∃ n, DueIn (state n) c ∧ TriedIn env (nonce n) (state n) c) ↔
      {d | (∀ n, DueIn (state n) d) ∧ c < d}.ncard < 50) ∧
    ∀ n, (DueIn (state n) c → (TriedIn env (nonce n) (state n) c ↔
        {d | DueIn (state n) d ∧ c < d}.ncard < 50)) ∧
      ∀ a ∈ (promoteDueScheduledChanges env (nonce n)).attempts (state n),
        a.name = .promote c (state n).now → a.after.isSome = true →
          ∃ later, ((promoteDueScheduledChanges env (nonce n)).exec (state n)).2.changes.get? c =
            some later ∧ later.status = .dispatchable := by
  refine ⟨?_, fun n => ⟨triedIn_iff, fun a => promoted_of_attempt⟩⟩
  have htried (n : ℕ) : Tried (fun newer c => c < newer) 50 (dueIds state n) c ↔
      DueIn (state n) c ∧ TriedIn env (nonce n) (state n) c := by
    rw [Tried]
    simp only [mem_dueIds]
    exact and_congr_right fun hdue => (triedIn_iff hdue).symm
  simp only [← htried]
  rw [h.waiting.tried_iff (mem_dueIds.2 hdue)]
  simp only [Stays, mem_dueIds]

-- ════════════════════════════════════════════════════════════════════════
-- A backlog
-- ════════════════════════════════════════════════════════════════════════

/-- A due change whose inputs no longer have their frozen hash. -/
def ChangeRecord.stale : ChangeRecord :=
  { organization := 0, operationProfile := 0, workflow := 0, title := "", status := .scheduled
    scheduledFor := some 0, submittedAt := some 0, requestedInputsSha256 := "stale"
    requestSnapshotSha256 := "stale" }

/-- Fifty-one such changes. -/
def Db.backlog : Db := { changes := ⟨List.replicate 51 .stale⟩ }

theorem get?_backlog {row : ChangeRecord} :
    Db.backlog.changes.get? c = some row ↔ c < 51 ∧ row = .stale := by
  rw [Table.get?, Db.backlog, List.getElem?_replicate]
  split_ifs with hc
  · simp [hc, eq_comm]
  · simp [hc]

theorem dueIn_backlog : DueIn .backlog c ↔ c < 51 := by
  constructor
  · rintro ⟨row, hrow, -⟩
    exact (get?_backlog.1 hrow).1
  · exact fun hc => ⟨.stale, get?_backlog.2 ⟨hc, rfl⟩, rfl, rfl⟩

/-- The dispatch of such a change fails. -/
theorem promotionOf_stale (nonce : ℕ → String) (now : Time) {change : Loaded ChangeRecord}
    (hrow : s.changes.get? change.id = some .stale) :
    ∃ e, (promotionOf .sample now nonce change).run s = .error e := by
  cases hrun : (promotionOf .sample now nonce change).run s with
  | error e => exact ⟨e, rfl⟩
  | ok r =>
    obtain ⟨u, s'⟩ := r
    simp only [promotionOf, promoteScheduledChange, Tx.bind_ok, Tx.lift_query_ok, lookup_ok] at hrun
    obtain ⟨row, _, ⟨hrow', rfl⟩, hrun⟩ := hrun
    split_ifs at hrun with hdue
    · simp only [makeDispatchable, passDispatchGates, Tx.bind_ok, Tx.lift_query_ok, Tx.run_lift,
        Tx.run_widen] at hrun
      obtain ⟨row, _, ⟨-, rfl⟩, now, _, ⟨-, rfl⟩, check, s1, ⟨_, _, ⟨-, rfl⟩, _, s2, hsweep, _, _,
        ⟨-, rfl⟩, _, _, ⟨hintegrity, rfl⟩, -⟩, -⟩ := hrun
      have hchanges : s.changes = s2.changes := Tx.frame _ hsweep .changes (by decide)
      simp only [validateRequestIntegrity, Query.bind_ok, lookup_ok, ← hchanges, hrow,
        Option.some.injEq, exists_eq_left'] at hintegrity
      have hstatus : ChangeRecord.stale.status ≠ .draft := by decide
      simp only [if_neg hstatus, Query.bind_ok, ensure_ok] at hintegrity
      obtain ⟨_, -, _, hhash, -⟩ := hintegrity
      exact absurd hhash (by decide)
    · rw [hrow, Option.some.injEq] at hrow'
      exact absurd ⟨rfl, by simp [ChangeRecord.stale]⟩ (hrow' ▸ hdue)

/-- A sweep over the backlog changes nothing. -/
theorem exec_backlog :
    ((promoteDueScheduledChanges .sample nonce).exec .backlog).2 = .backlog := by
  have hfails (change : Loaded ChangeRecord) (hmem : change ∈ sweptChanges .backlog)
      (n : TxName) : (Attempt.of n (promotionOf .sample Db.backlog.now nonce change)
        .backlog).result = .backlog := by
    obtain ⟨hrow, -⟩ := mem_dueChanges.1 (List.mem_reverse.1 (List.mem_of_mem_take hmem))
    obtain ⟨-, hstale⟩ := get?_backlog.1 hrow
    obtain ⟨e, hrun⟩ := promotionOf_stale nonce Db.backlog.now (hstale ▸ hrow)
    rw [Attempt.result, Attempt.of, hrun]
    rfl
  rw [exec_promoteDue]
  generalize sweptChanges .backlog = items at hfails
  induction items with
  | nil => rfl
  | cons change items ih =>
    rw [Prog.afterEach, List.foldl_cons, hfails change List.mem_cons_self]
    exact ih fun other hother => hfails other (List.mem_cons_of_mem _ hother)

theorem promotions_backlog : Promotions .sample (fun _ _ => "") fun _ => .backlog := by
  intro n d
  rw [exec_backlog]
  rfl

/-- The newest change of the backlog. -/
theorem promotion_fair_backlog :
    ((∃ _ : ℕ, DueIn .backlog 50 ∧ TriedIn .sample (fun _ => "") .backlog 50) ↔
      {d | (∀ _ : ℕ, DueIn .backlog d) ∧ 50 < d}.ncard < 50) :=
  (promotion_fair_iff promotions_backlog (dueIn_backlog.2 (by decide))).1

/-- The oldest change of the backlog is never tried. -/
theorem oldest_never_tried :
    ¬∀ (env : Env) (nonce : ℕ → ℕ → String) (state : ℕ → Db) (c : ℕ),
      Promotions env nonce state → DueIn (state 0) c →
        ∃ n, DueIn (state n) c ∧ TriedIn env (nonce n) (state n) c := by
  intro h
  have holdest : DueIn .backlog 0 := dueIn_backlog.2 (by decide)
  obtain ⟨-, -, htried⟩ := h _ _ _ 0 promotions_backlog holdest
  rw [triedIn_iff holdest] at htried
  have hset : {d | DueIn .backlog d ∧ 0 < d} = (Finset.Ioo 0 51 : Set ℕ) := by
    ext d
    simp [dueIn_backlog, and_comm]
  rw [hset, Set.ncard_coe_finset, Nat.card_Ioo] at htried
  exact absurd htried (by decide)

end RunbookPlatform
