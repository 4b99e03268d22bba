import Mathlib.Data.Set.Card
import Mathlib.Order.Monotone.Basic
import Mathlib.Data.Finset.Lattice.Fold
import RunbookPlatform.Transactional.Prog

/-!
# Bounded sweeps

A sweep reads what is due and tries the first `k` items, each in a transaction of its own; a
failure is caught and the next item tried. What stays due is read again by the next sweep. An
item waits forever exactly when `k` items that never go away are ahead of it.

## Main definitions

- `Prog.attempts` — the transactions that a program begins, with what becomes of them
- `Prog.tryEach` — the transactions of a list, each on its own
- `Waiting` — what is due at the sweeps, when items are only taken away by attempts

## Main results

- `attempts_tryEach` — every item of the list is tried, in the state its predecessors left
- `Waiting.tried_iff` — which items are tried in some sweep
-/

namespace Transactional

-- ════════════════════════════════════════════════════════════════════════
-- Attempts
-- ════════════════════════════════════════════════════════════════════════

section

variable {σ ε ν κ α : Type} [Cells σ κ] {V W : List κ}

/-- A transaction that was begun: its name, the state before it, and the state after it unless it
was rolled back. -/
structure Attempt (σ ν : Type) where
  name : ν
  before : σ
  after : Option σ

/-- The attempt of a transaction. -/
def Attempt.of (n : ν) (t : Tx σ ε W α) (s : σ) : Attempt σ ν where
  name := n
  before := s
  after := (t.run s).toOption.map (·.2)

/-- The state in which the attempt leaves the system. -/
def Attempt.result (a : Attempt σ ν) : σ := a.after.getD a.before

namespace Prog

/-- Every attempt of a run, in order. -/
def attempts : Prog σ ε ν W α → σ → List (Attempt σ ν)
  | done _, _ => []
  | commit n t k, s =>
    .of n t s ::
      match t.run s with
      | .ok (a, s') => attempts (k (.ok a)) s'
      | .error e => attempts (k (.error e)) s

theorem attempts_commit {β : Type} (n : ν) (t : Tx σ ε W β) (k : Except ε β → Prog σ ε ν W α)
    (s : σ) : (commit n t k).attempts s = .of n t s ::
      match t.run s with
      | .ok (a, s') => attempts (k (.ok a)) s'
      | .error e => attempts (k (.error e)) s := by
  rw [attempts]

variable {ι : Type}

/-- The transactions of the items, each on its own. -/
def tryEach [Within V W] (name : ι → ν) (t : ι → Tx σ ε V Unit) : List ι → Prog σ ε ν W Unit :=
  forEach fun i => (atomic (name i) (t i)).tryCatch fun _ => pure ()

/-- The attempts of the items from a state on. -/
def attemptEach (name : ι → ν) (t : ι → Tx σ ε V Unit) : List ι → σ → List (Attempt σ ν)
  | [], _ => []
  | i :: is, s =>
    .of (name i) (t i) s :: attemptEach name t is (Attempt.of (name i) (t i) s).result

section

variable [Within V W] (name : ι → ν) (t : ι → Tx σ ε V Unit)

theorem exec_tryCatch_atomic (i : ι) (s : σ) :
    ((atomic (name i) (t i) : Prog σ ε ν W Unit).tryCatch fun _ => pure ()).exec s =
      (.ok (), (Attempt.of (name i) (t i) s).result) := by
  rw [exec_tryCatch, exec_atomic, Attempt.of, Attempt.result]
  cases (t i).run s <;> rfl

/-- **The sweep** tries every item, in the state that its predecessors left. -/
theorem attempts_tryEach (is : List ι) (s : σ) :
    (tryEach name t is : Prog σ ε ν W Unit).attempts s = attemptEach name t is s := by
  induction is generalizing s with
  | nil => rfl
  | cons i is ih =>
    rw [attemptEach, ← ih, Attempt.result, Attempt.of]
    show (commit (name i) ((t i).widen : Tx σ ε W Unit) _).attempts s = _
    rw [attempts_commit, Tx.run_widen, Attempt.of, Tx.run_widen]
    cases (t i).run s <;> rfl

/-- The state that the sweep leaves. -/
def afterEach (is : List ι) (s : σ) : σ :=
  is.foldl (fun s i => (Attempt.of (name i) (t i) s).result) s

theorem exec_tryEach (is : List ι) (s : σ) :
    (tryEach name t is : Prog σ ε ν W Unit).exec s = (.ok (), afterEach name t is s) := by
  induction is generalizing s with
  | nil => rfl
  | cons i is ih =>
    rw [tryEach, forEach, exec_bind, exec_tryCatch_atomic]
    exact ih _

theorem map_name_attemptEach (is : List ι) (s : σ) :
    (attemptEach name t is s).map (·.name) = is.map name := by
  induction is generalizing s with
  | nil => rfl
  | cons i is ih =>
    rw [attemptEach, List.map_cons, List.map_cons, ih]
    rfl

end

end Prog

end

-- ════════════════════════════════════════════════════════════════════════
-- Who waits
-- ════════════════════════════════════════════════════════════════════════

section

variable {ι : Type} {ahead : ι → ι → Prop} {k : ℕ} {due : ℕ → Finset ι}

/-- The sweep tries the item: it is due, and fewer than `k` items are ahead of it. -/
def Tried (ahead : ι → ι → Prop) (k : ℕ) (due : Finset ι) (x : ι) : Prop :=
  x ∈ due ∧ {y | y ∈ due ∧ ahead y x}.ncard < k

/-- The item never goes away. -/
def Stays (due : ℕ → Finset ι) (y : ι) : Prop := ∀ n, y ∈ due n

/-- Nothing becomes due, and what a sweep does not try is due at the next one. -/
structure Waiting (ahead : ι → ι → Prop) (k : ℕ) (due : ℕ → Finset ι) : Prop where
  shrinks : ∀ n, due (n + 1) ⊆ due n
  keeps : ∀ n x, x ∈ due n → ¬Tried ahead k (due n) x → x ∈ due (n + 1)

theorem Waiting.antitone (h : Waiting ahead k due) : Antitone due :=
  antitone_nat_of_succ_le h.shrinks

/-- Items that go away are gone after some sweep. -/
theorem Waiting.exists_settled (h : Waiting ahead k due) :
    ∃ n, ∀ y ∈ due n, Stays due y := by
  classical
  let gone (y : ι) : ℕ := if hy : ∃ n, y ∉ due n then hy.choose else 0
  refine ⟨(due 0).sup gone, fun y hy => ?_⟩
  by_contra hleaves
  have hsome : ∃ n, y ∉ due n := not_forall.1 hleaves
  have hgone : y ∉ due (gone y) := by
    simp only [gone, dif_pos hsome]
    exact hsome.choose_spec
  have hle : gone y ≤ (due 0).sup gone := Finset.le_sup (h.antitone (Nat.zero_le _) hy)
  exact hgone (h.antitone hle hy)

/-- **An item** is tried in some sweep exactly when fewer than `k` items that never go away are
ahead of it. -/
theorem Waiting.tried_iff (h : Waiting ahead k due) {x : ι} (hx : x ∈ due 0) :
    (∃ n, Tried ahead k (due n) x) ↔ {y | Stays due y ∧ ahead y x}.ncard < k := by
  have hfinite (n : ℕ) : {y | y ∈ due n ∧ ahead y x}.Finite :=
    (due n).finite_toSet.subset fun y hy => hy.1
  constructor
  · rintro ⟨n, -, hfew⟩
    refine (Set.ncard_le_ncard (fun y hy => ?_) (hfinite n)).trans_lt hfew
    exact ⟨hy.1 n, hy.2⟩
  · intro hfew
    by_contra hnever
    rw [not_exists] at hnever
    have hstays : Stays due x := by
      intro n
      induction n with
      | zero => exact hx
      | succ n ih => exact h.keeps n x ih (hnever n)
    obtain ⟨n, hsettled⟩ := h.exists_settled
    have hsub : {y | y ∈ due n ∧ ahead y x} ⊆ {y | Stays due y ∧ ahead y x} :=
      fun y hy => ⟨hsettled y hy.1, hy.2⟩
    have hsubfinite : {y | Stays due y ∧ ahead y x}.Finite :=
      (hfinite 0).subset fun y hy => ⟨hy.1 0, hy.2⟩
    exact hnever n ⟨hstays n, (Set.ncard_le_ncard hsub hsubfinite).trans_lt hfew⟩

end

end Transactional
