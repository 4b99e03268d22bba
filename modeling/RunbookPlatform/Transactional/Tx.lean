import Mathlib.Data.List.Basic
import Mathlib.Order.Defs.Unbundled

/-!
# Transactions with footprints

A database transaction either commits, with a result and a new state, or fails
and leaves the state as it was. The state is divided into *cells*, and the type
of a transaction names the cells it may write: `Tx σ ε W α` carries the proof
that every cell outside `W` agrees before and after a commit. A service function
is thereby framed by its type, and no invariant over other cells has to look at
its body.

## Main definitions

- `Cells` — the division of a state type into cells
- `Query` — a read that may fail
- `Tx` — a transaction whose footprint is part of its type
- `require`, `Query.fail`, `Tx.savepoint` — guards, failure, nested rollback
- `SameOn`, `Supports` — agreement of states on cells, and invariants that look only there
- `Tx.Follows`, `Tx.FollowsFrom` — every commit of a transaction is a step of a relation

## Design notes

`Tx.savepoint` is an `atomic` block inside a transaction: when its body fails,
the handler starts from the state the body started from.
-/

namespace Transactional

/-- A division of the states `σ` into cells named by `κ`: when two states agree
on a cell. -/
class Cells (σ : Type) (κ : outParam Type) where
  /-- The two states hold the same content in the cell. -/
  agree : κ → σ → σ → Prop
  agree_refl : ∀ c s, agree c s s
  agree_trans : ∀ {c s t u}, agree c s t → agree c t u → agree c s u

/-- The two states hold the same content in the cells `C`. -/
def SameOn {σ κ : Type} [Cells σ κ] (C : List κ) (s s' : σ) : Prop :=
  ∀ c ∈ C, Cells.agree c s s'

namespace SameOn

variable {σ κ : Type} [Cells σ κ] {C D : List κ} {s t u : σ}

theorem refl (C : List κ) (s : σ) : SameOn C s s := fun c _ => Cells.agree_refl c s

theorem trans (h1 : SameOn C s t) (h2 : SameOn C t u) : SameOn C s u :=
  fun c hc => Cells.agree_trans (h1 c hc) (h2 c hc)

theorem mono (hsub : C ⊆ D) (h : SameOn D s t) : SameOn C s t := fun c hc => h c (hsub hc)

instance : IsPreorder σ (SameOn C) where
  refl := refl C
  trans _ _ _ := trans

end SameOn

/-- `I` looks only at the cells `C`. -/
def Supports {σ κ : Type} [Cells σ κ] (C : List κ) (I : σ → Prop) : Prop :=
  ∀ s s', SameOn C s s' → I s → I s'

/-- `c` is one of the cells of the footprint `W`. -/
class Has {κ : Type} (c : κ) (W : List κ) : Prop where
  mem : c ∈ W

instance {κ : Type} {c : κ} {W : List κ} : Has c (c :: W) := ⟨by simp⟩

instance {κ : Type} {c d : κ} {W : List κ} [h : Has c W] : Has c (d :: W) :=
  ⟨List.mem_cons_of_mem _ h.mem⟩

/-- The footprint `V` lies within the footprint `W`. -/
class Within {κ : Type} (V W : List κ) : Prop where
  sub : V ⊆ W

instance {κ : Type} {W : List κ} : Within ([] : List κ) W := ⟨List.nil_subset W⟩

instance {κ : Type} {c : κ} {V W : List κ} [hc : Has c W] [h : Within V W] :
    Within (c :: V) W :=
  ⟨List.cons_subset.2 ⟨hc.mem, h.sub⟩⟩

instance {κ : Type} (c : κ) : Within [c] [c] := ⟨List.Subset.refl [c]⟩

instance (priority := low) {κ : Type} {W : List κ} : Within W W := ⟨List.Subset.refl W⟩

-- ════════════════════════════════════════════════════════════════════════
-- Queries
-- ════════════════════════════════════════════════════════════════════════

/-- A read of the state that may fail. -/
def Query (σ ε α : Type) : Type := σ → Except ε α

namespace Query

variable {σ ε α β : Type}

instance : Monad (Query σ ε) where
  pure a := fun _ => .ok a
  bind x f := fun s =>
    match x s with
    | .ok a => f a s
    | .error e => .error e

/-- Read the whole state. -/
def state : Query σ ε σ := fun s => .ok s

/-- Fail with `e`. -/
def fail (e : ε) : Query σ ε α := fun _ => .error e

/-- Rewrite the failure. -/
def mapError (f : ε → ε) (x : Query σ ε α) : Query σ ε α := fun s =>
  match x s with
  | .ok a => .ok a
  | .error e => .error (f e)

@[simp] theorem mapError_ok {f : ε → ε} {x : Query σ ε α} {s : σ} {a : α} :
    x.mapError f s = .ok a ↔ x s = .ok a := by
  unfold mapError
  cases x s <;> simp

@[simp] theorem pure_apply (a : α) (s : σ) : (pure a : Query σ ε α) s = .ok a := rfl

@[simp] theorem state_apply (s : σ) : (state : Query σ ε σ) s = .ok s := rfl

@[simp] theorem fail_apply (e : ε) (s : σ) : (fail e : Query σ ε α) s = .error e := rfl

theorem bind_apply (x : Query σ ε α) (f : α → Query σ ε β) (s : σ) :
    (x >>= f) s = match x s with
      | .ok a => f a s
      | .error e => .error e := rfl

/-- A sequence gives the same in two states in which its parts do. -/
theorem bind_congr {x : Query σ ε α} {f : α → Query σ ε β} {s s' : σ} (hx : x s = x s')
    (hf : ∀ a, f a s = f a s') : (x >>= f) s = (x >>= f) s' := by
  rw [bind_apply, bind_apply, hx]
  cases x s' with
  | ok a => exact hf a
  | error e => rfl

/-- A sequence succeeds when its first part does and then its second. -/
@[simp] theorem bind_ok {x : Query σ ε α} {f : α → Query σ ε β} {s : σ} {b : β} :
    (x >>= f) s = .ok b ↔ ∃ a, x s = .ok a ∧ f a s = .ok b := by
  rw [bind_apply]
  cases x s <;> simp

end Query

/-- Continue only when `c` holds, and fail with `e` otherwise. -/
def require {σ ε : Type} (c : Prop) [Decidable c] (e : ε) : Query σ ε Unit :=
  fun _ => if c then .ok () else .error e

@[simp] theorem require_ok {σ ε : Type} {c : Prop} [Decidable c] {e : ε} {s : σ} {u : Unit} :
    (require c e : Query σ ε Unit) s = .ok u ↔ c := by
  unfold require
  split_ifs with h <;> simp [h]

/-- The value of an option, or the failure `e`. -/
def requireSome {σ ε α : Type} (o : Option α) (e : ε) : Query σ ε α :=
  fun _ => match o with
    | some a => .ok a
    | none => .error e

@[simp] theorem requireSome_ok {σ ε α : Type} {o : Option α} {e : ε} {s : σ} {a : α} :
    (requireSome o e : Query σ ε α) s = .ok a ↔ o = some a := by
  unfold requireSome
  cases o <;> simp

-- ════════════════════════════════════════════════════════════════════════
-- Transactions
-- ════════════════════════════════════════════════════════════════════════

/-- A transaction that writes only cells of `W`. On failure the state is the one
it started from, so only commits carry a new state. -/
structure Tx (σ ε : Type) {κ : Type} [Cells σ κ] (W : List κ) (α : Type) where
  /-- The effect on a state. -/
  run : σ → Except ε (α × σ)
  /-- Cells outside the footprint agree across a commit. -/
  frame : ∀ {s a s'}, run s = .ok (a, s') → ∀ c, c ∉ W → Cells.agree c s s'

namespace Tx

variable {σ ε κ α β : Type} [Cells σ κ] {V W : List κ}

/-- The transaction that reads. -/
def read (q : Query σ ε α) : Tx σ ε W α where
  run s := match q s with
    | .ok a => .ok (a, s)
    | .error e => .error e
  frame {s a s'} h c _ := by
    split at h
    · cases h
      exact Cells.agree_refl c s
    · cases h

/-- One write of cells in `W`, returning a value computed from the state before. -/
def write (f : σ → α × σ) (hf : ∀ s c, c ∉ W → Cells.agree c s (f s).2) : Tx σ ε W α where
  run s := .ok (f s)
  frame {s a s'} h c hc := by
    have hs : f s = (a, s') := by simpa using h
    have := hf s c hc
    rwa [hs] at this

/-- **Sequencing**: the second transaction starts where the first ended. -/
def bind (x : Tx σ ε W α) (f : α → Tx σ ε W β) : Tx σ ε W β where
  run s := match x.run s with
    | .ok (a, s') => (f a).run s'
    | .error e => .error e
  frame {s b s'} h c hc := by
    split at h
    · rename_i a s1 h1
      exact Cells.agree_trans (x.frame h1 c hc) ((f a).frame h c hc)
    · cases h

instance : Monad (Tx σ ε W) where
  pure a := read (pure a)
  bind := bind

/-- A transaction also lies within every larger footprint. -/
def widen [hW : Within V W] (x : Tx σ ε V α) : Tx σ ε W α where
  run := x.run
  frame h c hc := x.frame h c fun hv => hc (hW.sub hv)

/-- The same transaction under a smaller footprint, which its guards enforce. -/
def narrow (x : Tx σ ε V α)
    (hframe : ∀ s a s', x.run s = .ok (a, s') → ∀ c, c ∉ W → Cells.agree c s s') :
    Tx σ ε W α where
  run := x.run
  frame h c hc := hframe _ _ _ h c hc

/-- An inner `atomic` block with a handler for its failure. -/
def savepoint (x : Tx σ ε W α) (handler : ε → Tx σ ε W α) : Tx σ ε W α where
  run s := match x.run s with
    | .ok r => .ok r
    | .error e => (handler e).run s
  frame {s a s'} h c hc := by
    split at h
    · rename_i r h1
      exact x.frame (h1.trans h) c hc
    · exact (handler _).frame h c hc

instance : MonadLift (Query σ ε) (Tx σ ε W) where
  monadLift q := read q

instance [Within V W] : MonadLiftT (Tx σ ε V) (Tx σ ε W) where
  monadLift x := x.widen

@[simp] theorem run_pure (a : α) (s : σ) :
    (pure a : Tx σ ε W α).run s = .ok (a, s) := rfl

theorem run_bind (x : Tx σ ε W α) (f : α → Tx σ ε W β) (s : σ) :
    (x >>= f).run s = match x.run s with
      | .ok (a, s') => (f a).run s'
      | .error e => .error e := rfl

/-- A sequence commits when both parts do, one after the other. -/
@[simp] theorem bind_ok {x : Tx σ ε W α} {f : α → Tx σ ε W β} {s s' : σ} {b : β} :
    (x >>= f).run s = .ok (b, s') ↔
      ∃ a s1, x.run s = .ok (a, s1) ∧ (f a).run s1 = .ok (b, s') := by
  rw [run_bind]
  constructor
  · intro h
    split at h
    · rename_i a s1 h1
      exact ⟨a, s1, h1, h⟩
    · cases h
  · rintro ⟨a, s1, h1, h2⟩
    rw [h1]
    exact h2

@[simp] theorem read_ok {q : Query σ ε α} {s s' : σ} {a : α} :
    (read q : Tx σ ε W α).run s = .ok (a, s') ↔ q s = .ok a ∧ s = s' := by
  unfold read
  constructor
  · intro h
    simp only at h
    split at h
    · rename_i a' h1
      cases h
      exact ⟨h1, rfl⟩
    · cases h
  · rintro ⟨h1, rfl⟩
    simp [h1]

@[simp] theorem lift_query_ok {q : Query σ ε α} {s s' : σ} {a : α} :
    (liftM q : Tx σ ε W α).run s = .ok (a, s') ↔ q s = .ok a ∧ s = s' :=
  read_ok

theorem run_query_bind {q : Query σ ε α} {f : α → Tx σ ε W β} {s : σ} {a : α} (h : q s = .ok a) :
    ((liftM q : Tx σ ε W α) >>= f).run s = (f a).run s := by
  rw [run_bind, lift_query_ok.2 ⟨h, rfl⟩]

@[simp] theorem run_widen [Within V W] (x : Tx σ ε V α) (s : σ) :
    (x.widen : Tx σ ε W α).run s = x.run s := rfl

@[simp] theorem run_narrow (x : Tx σ ε V α) (hframe) (s : σ) :
    (x.narrow hframe : Tx σ ε W α).run s = x.run s := rfl

@[simp] theorem run_lift [Within V W] (x : Tx σ ε V α) (s : σ) :
    (liftM x : Tx σ ε W α).run s = x.run s := rfl

@[simp] theorem run_write (f : σ → α × σ) (hf) (s : σ) :
    (write f hf : Tx σ ε W α).run s = .ok (f s) := rfl

theorem write_ok {f : σ → α × σ} {hf} {s s' : σ} {a : α} :
    (write f hf : Tx σ ε W α).run s = .ok (a, s') ↔ a = (f s).1 ∧ s' = (f s).2 := by
  rw [run_write]
  constructor
  · intro h
    have hs : f s = (a, s') := by simpa using h
    rw [hs]
    exact ⟨rfl, rfl⟩
  · rintro ⟨rfl, rfl⟩
    rfl

/-- Cells outside the footprint agree across a commit. -/
theorem sameOn {t : Tx σ ε W α} {s s' : σ} {a : α} (h : t.run s = .ok (a, s')) (C : List κ)
    (hdisj : ∀ c ∈ C, c ∉ W) : SameOn C s s' :=
  fun c hc => t.frame h c (hdisj c hc)

/-- A savepoint commits through its body, or through the handler of the failure. -/
theorem savepoint_ok {x : Tx σ ε W α} {handler : ε → Tx σ ε W α} {s s' : σ} {a : α} :
    (x.savepoint handler).run s = .ok (a, s') ↔
      x.run s = .ok (a, s') ∨ ∃ e, x.run s = .error e ∧ (handler e).run s = .ok (a, s') := by
  unfold savepoint
  simp only
  cases h : x.run s with
  | ok r => simp
  | error e => simp

/-- The transaction commits from `s`. -/
def Succeeds (x : Tx σ ε W α) (s : σ) : Prop := ∃ r, x.run s = .ok r

namespace Succeeds

theorem of_run {x : Tx σ ε W α} {s : σ} {r : α × σ} (h : x.run s = .ok r) : x.Succeeds s := ⟨r, h⟩

theorem bind {x : Tx σ ε W α} {f : α → Tx σ ε W β} {s : σ} (hx : x.Succeeds s)
    (hf : ∀ a s1, x.run s = .ok (a, s1) → (f a).Succeeds s1) : (x >>= f).Succeeds s := by
  obtain ⟨⟨a, s1⟩, hx⟩ := hx
  obtain ⟨⟨b, s'⟩, h⟩ := hf a s1 hx
  exact ⟨_, bind_ok.2 ⟨a, s1, hx, h⟩⟩

theorem query {q : Query σ ε α} {f : α → Tx σ ε W β} {s : σ} {a : α} (hq : q s = .ok a)
    (hf : (f a).Succeeds s) : ((liftM q : Tx σ ε W α) >>= f).Succeeds s := by
  obtain ⟨r, h⟩ := hf
  exact ⟨r, (run_query_bind hq).trans h⟩

/-- A savepoint survives the failure of its body. -/
theorem savepoint {x : Tx σ ε W α} {handler : ε → Tx σ ε W α} {s : σ}
    (h : ∀ e, (handler e).Succeeds s) : (x.savepoint handler).Succeeds s := by
  cases hx : x.run s with
  | ok r => exact ⟨r, savepoint_ok.2 (.inl hx)⟩
  | error e =>
    obtain ⟨⟨a, s'⟩, hhandler⟩ := h e
    exact ⟨_, savepoint_ok.2 (.inr ⟨e, hx, hhandler⟩)⟩

end Succeeds

-- ════════════════════════════════════════════════════════════════════════
-- Loops
-- ════════════════════════════════════════════════════════════════════════

/-- Run `body` for the elements of a list in order. -/
def forEach (body : α → Tx σ ε W Unit) : List α → Tx σ ε W Unit
  | [] => pure ()
  | a :: as => do
    body a
    forEach body as

/-- Run `body` for the elements of a list in order, collecting the results. -/
def collect (body : α → Tx σ ε W β) : List α → Tx σ ε W (List β)
  | [] => pure []
  | a :: as => do
    let b ← body a
    let bs ← collect body as
    pure (b :: bs)

-- ════════════════════════════════════════════════════════════════════════
-- Steps of a relation
-- ════════════════════════════════════════════════════════════════════════

/-- Every commit of the transaction is a step of `R`. -/
def Follows (R : σ → σ → Prop) (t : Tx σ ε W α) : Prop :=
  ∀ s a s', t.run s = .ok (a, s') → R s s'

namespace Follows

variable {R : σ → σ → Prop}

/-- **Frame rule**: cells outside the footprint agree. -/
theorem sameOn {C : List κ} (t : Tx σ ε W α) (hdisj : ∀ c ∈ C, c ∉ W) :
    t.Follows (SameOn C) :=
  fun _ _ _ h c hc => t.frame h c (hdisj c hc)

/-- **Consequence rule**. -/
theorem mono {R' : σ → σ → Prop} {t : Tx σ ε W α} (ht : t.Follows R)
    (hR : ∀ s s', R s s' → R' s s') : t.Follows R' :=
  fun s a s' h => hR s s' (ht s a s' h)

theorem widen [Within V W] {t : Tx σ ε V α} (ht : t.Follows R) :
    (t.widen : Tx σ ε W α).Follows R := ht

theorem lift [Within V W] {t : Tx σ ε V α} (ht : t.Follows R) :
    (liftM t : Tx σ ε W α).Follows R := ht

/-- **Savepoint rule**: the handler starts where the body started. -/
theorem savepoint {t : Tx σ ε W α} {handler : ε → Tx σ ε W α} (ht : t.Follows R)
    (hh : ∀ e, (handler e).Follows R) : (t.savepoint handler).Follows R := by
  intro s a s' h
  rcases savepoint_ok.1 h with h | ⟨e, -, h⟩
  · exact ht s a s' h
  · exact hh e s a s' h

variable [IsPreorder σ R]

theorem pure (a : α) : (pure a : Tx σ ε W α).Follows R := by
  intro s b s' h
  simp only [run_pure, Except.ok.injEq, Prod.mk.injEq] at h
  obtain ⟨-, rfl⟩ := h
  exact refl_of R s

theorem query (q : Query σ ε α) : (liftM q : Tx σ ε W α).Follows R := by
  intro s a s' h
  obtain ⟨-, rfl⟩ := lift_query_ok.1 h
  exact refl_of R s

/-- **Sequencing rule**. -/
theorem bind {t : Tx σ ε W α} {f : α → Tx σ ε W β} (ht : t.Follows R)
    (hf : ∀ a, (f a).Follows R) : (t >>= f).Follows R := by
  intro s b s' h
  obtain ⟨a, s1, h1, h2⟩ := bind_ok.1 h
  exact trans_of R (ht s a s1 h1) (hf a s1 b s' h2)

/-- **Loop rule**. -/
theorem forEach {body : α → Tx σ ε W Unit} (hbody : ∀ a, (body a).Follows R) :
    ∀ as : List α, (Tx.forEach body as).Follows R
  | [] => pure ()
  | a :: as => bind (hbody a) fun _ => forEach hbody as

end Follows

/-- Every commit of the transaction from `s` is a step of `R`. -/
def FollowsFrom (R : σ → σ → Prop) (t : Tx σ ε W α) (s : σ) : Prop :=
  ∀ a s', t.run s = .ok (a, s') → R s s'

theorem Follows.from {R : σ → σ → Prop} {t : Tx σ ε W α} (ht : t.Follows R) (s : σ) :
    t.FollowsFrom R s := ht s

namespace FollowsFrom

variable {R : σ → σ → Prop} {s : σ}

/-- **Consequence rule**. -/
theorem mono {R' : σ → σ → Prop} {t : Tx σ ε W α} (ht : t.FollowsFrom R s)
    (hR : ∀ s s', R s s' → R' s s') : t.FollowsFrom R' s :=
  fun a s' h => hR s s' (ht a s' h)

theorem lift [Within V W] {t : Tx σ ε V α} (ht : t.FollowsFrom R s) :
    (liftM t : Tx σ ε W α).FollowsFrom R s := ht

theorem widen [Within V W] {t : Tx σ ε V α} (ht : t.FollowsFrom R s) :
    (t.widen : Tx σ ε W α).FollowsFrom R s := ht

/-- **Read rule**: what was read holds of the state. -/
theorem query {q : Query σ ε α} {f : α → Tx σ ε W β}
    (hf : ∀ a, q s = .ok a → (f a).FollowsFrom R s) :
    ((liftM q : Tx σ ε W α) >>= f).FollowsFrom R s := by
  intro b s' h
  obtain ⟨a, s1, h1, h2⟩ := bind_ok.1 h
  obtain ⟨hq, rfl⟩ := lift_query_ok.1 h1
  exact hf a hq b s' h2

/-- **Sequencing rule**: the second transaction starts in a state that the first reached. -/
theorem bind [IsPreorder σ R] {t : Tx σ ε W α} {f : α → Tx σ ε W β} (ht : t.FollowsFrom R s)
    (hf : ∀ a s1, t.run s = .ok (a, s1) → R s s1 → (f a).FollowsFrom R s1) :
    (t >>= f).FollowsFrom R s := by
  intro b s' h
  obtain ⟨a, s1, h1, h2⟩ := bind_ok.1 h
  have hR := ht a s1 h1
  exact trans_of R hR (hf a s1 h1 hR b s' h2)

/-- **Savepoint rule**: the handler starts where the body started. -/
theorem savepoint {t : Tx σ ε W α} {handler : ε → Tx σ ε W α} (ht : t.FollowsFrom R s)
    (hh : ∀ e, t.run s = .error e → (handler e).FollowsFrom R s) :
    (t.savepoint handler).FollowsFrom R s := by
  intro a s' h
  rcases savepoint_ok.1 h with h | ⟨e, he, h⟩
  · exact ht a s' h
  · exact hh e he a s' h

end FollowsFrom

end Tx

end Transactional
