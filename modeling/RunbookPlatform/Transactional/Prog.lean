import RunbookPlatform.Transactional.Tx

/-!
# Programs of transactions

A request handler in autocommit mode is a sequence of transactions: each one
commits or rolls back on its own, and the handler goes on from its result,
whatever has happened to the database in between. `Prog` is the tree of such a
handler, so that one definition has both a sequential meaning (`exec`, `commits`)
and an interleaved one (`Conf.Step`).

Transactions carry names, so that a run can be restricted by a condition on the
state in which a transaction of a given name commits: the *admission* `A n s`.

## Main definitions

- `Prog` — a program whose nodes are named transactions
- `Prog.exec`, `Prog.commits` — run alone: the result, and every commit made
- `Prog.Meets` — every commit of a run is admitted
- `Prog.Follows` — every commit of the program is a step of a relation
- `Conf`, `Conf.Step` — many programs in flight over one database

## Main results

- `Prog.Follows.commits` — the commits of a run alone are steps of the relation
- `Conf.Reach.invariant` — what survives these steps survives every interleaving, with
  crashes at any point

## Design notes

A handler decides on what it has read before, and other handlers commit in between. What
it read stays true only as far as it is about cells that no transaction changes:
`Prog.Follows H R` lets a proof about a later transaction use earlier reads of the cells
`H`, the *histories*.
-/

namespace Transactional

/-- A program over a database with states `σ`: it is done with a result, or it
runs a transaction named by `ν` and continues with what came of it. -/
inductive Prog (σ ε ν : Type) {κ : Type} [Cells σ κ] (W : List κ) (α : Type) : Type 1 where
  | done (r : Except ε α)
  | commit {β : Type} (name : ν) (t : Tx σ ε W β) (k : Except ε β → Prog σ ε ν W α)

/-- One commit of a run. -/
structure Commit (σ ν : Type) where
  name : ν
  before : σ
  after : σ

namespace Prog

variable {σ ε ν κ α β : Type} [Cells σ κ] {V W : List κ}

/-- Sequencing of programs; a failure ends the program. -/
def bind : Prog σ ε ν W α → (α → Prog σ ε ν W β) → Prog σ ε ν W β
  | done (.ok a), f => f a
  | done (.error e), _ => done (.error e)
  | commit n t k, f => commit n t fun r => bind (k r) f

instance : Monad (Prog σ ε ν W) where
  pure a := done (.ok a)
  bind := bind

/-- Continue with a handler when the program fails; its commits stay. -/
def tryCatch : Prog σ ε ν W α → (ε → Prog σ ε ν W α) → Prog σ ε ν W α
  | done (.ok a), _ => done (.ok a)
  | done (.error e), handler => handler e
  | commit n t k, handler => commit n t fun r => tryCatch (k r) handler

/-- Fail with `e`. -/
def fail (e : ε) : Prog σ ε ν W α := done (.error e)

/-- One `atomic` block. -/
def atomic [Within V W] (name : ν) (t : Tx σ ε V α) : Prog σ ε ν W α :=
  commit name t.widen done

/-- A read outside any transaction. -/
def read [Inhabited ν] (q : Query σ ε α) : Prog σ ε ν W α := commit default (Tx.read q) done

/-- A program also lies within every larger footprint. -/
def widen [Within V W] : Prog σ ε ν V α → Prog σ ε ν W α
  | done r => done r
  | commit n t k => commit n t.widen fun r => widen (k r)

instance [Within V W] : MonadLiftT (Prog σ ε ν V) (Prog σ ε ν W) where
  monadLift x := x.widen

/-- The program with other names for its transactions. -/
def rename {ν' : Type} (f : ν → ν') : Prog σ ε ν W α → Prog σ ε ν' W α
  | done r => done r
  | commit n t k => commit (f n) t fun r => rename f (k r)

/-- Run `body` for the elements of a list in order. -/
def forEach (body : α → Prog σ ε ν W Unit) : List α → Prog σ ε ν W Unit
  | [] => pure ()
  | a :: as => do
    body a
    forEach body as

-- ════════════════════════════════════════════════════════════════════════
-- Running alone
-- ════════════════════════════════════════════════════════════════════════

/-- Run a program with no other program in between. -/
def exec : Prog σ ε ν W α → σ → Except ε α × σ
  | done r, s => (r, s)
  | commit _ t k, s =>
    match t.run s with
    | .ok (a, s') => exec (k (.ok a)) s'
    | .error e => exec (k (.error e)) s

/-- Every commit of a run, in order. -/
def commits : Prog σ ε ν W α → σ → List (Commit σ ν)
  | done _, _ => []
  | commit n t k, s =>
    match t.run s with
    | .ok (a, s') => ⟨n, s, s'⟩ :: commits (k (.ok a)) s'
    | .error e => commits (k (.error e)) s

/-- Every commit of the run from `s` happens in a state that `A` admits for it. -/
def Meets (A : ν → σ → Prop) (p : Prog σ ε ν W α) (s : σ) : Prop :=
  ∀ c ∈ p.commits s, A c.name c.before

@[simp] theorem exec_done (r : Except ε α) (s : σ) :
    (done r : Prog σ ε ν W α).exec s = (r, s) := rfl

@[simp] theorem exec_pure (a : α) (s : σ) :
    (pure a : Prog σ ε ν W α).exec s = (.ok a, s) := rfl

@[simp] theorem exec_fail (e : ε) (s : σ) :
    (fail e : Prog σ ε ν W α).exec s = (.error e, s) := rfl

theorem exec_commit (n : ν) (t : Tx σ ε W β) (k : Except ε β → Prog σ ε ν W α) (s : σ) :
    (commit n t k).exec s = match t.run s with
      | .ok (a, s') => (k (.ok a)).exec s'
      | .error e => (k (.error e)).exec s := by
  rw [exec]

theorem commits_commit (n : ν) (t : Tx σ ε W β) (k : Except ε β → Prog σ ε ν W α) (s : σ) :
    (commit n t k).commits s = match t.run s with
      | .ok (a, s') => ⟨n, s, s'⟩ :: (k (.ok a)).commits s'
      | .error e => (k (.error e)).commits s := by
  rw [commits]

/-- Running a sequence runs its parts one after the other. -/
theorem exec_bind (p : Prog σ ε ν W α) (f : α → Prog σ ε ν W β) (s : σ) :
    (p >>= f).exec s = match p.exec s with
      | (.ok a, s') => (f a).exec s'
      | (.error e, s') => (.error e, s') := by
  change (bind p f).exec s = _
  induction p generalizing s with
  | done r => cases r <;> rfl
  | commit n t k ih =>
    simp only [bind, exec]
    cases t.run s with
    | ok r => exact ih _ _
    | error e => exact ih _ _

/-- A sequence returns when its parts do. -/
theorem exec_bind_ok {p : Prog σ ε ν W α} {f : α → Prog σ ε ν W β} {s s' : σ} {b : β} :
    (p >>= f).exec s = (.ok b, s') ↔
      ∃ a s1, p.exec s = (.ok a, s1) ∧ (f a).exec s1 = (.ok b, s') := by
  rw [exec_bind]
  rcases p.exec s with ⟨e | a, s1⟩ <;> simp

theorem exec_tryCatch (p : Prog σ ε ν W α) (handler : ε → Prog σ ε ν W α) (s : σ) :
    (p.tryCatch handler).exec s = match p.exec s with
      | (.ok a, s') => (.ok a, s')
      | (.error e, s') => (handler e).exec s' := by
  induction p generalizing s with
  | done r => cases r <;> rfl
  | commit n t k ih =>
    simp only [tryCatch, exec]
    cases t.run s with
    | ok r => exact ih _ _
    | error e => exact ih _ _

@[simp] theorem exec_widen [Within V W] (p : Prog σ ε ν V α) (s : σ) :
    (p.widen : Prog σ ε ν W α).exec s = p.exec s := by
  induction p generalizing s with
  | done r => rfl
  | commit n t k ih =>
    simp only [widen, exec, Tx.run_widen]
    cases t.run s with
    | ok r => exact ih _ _
    | error e => exact ih _ _

@[simp] theorem exec_lift [Within V W] (p : Prog σ ε ν V α) (s : σ) :
    (liftM p : Prog σ ε ν W α).exec s = p.exec s :=
  exec_widen p s

/-- An atomic block either commits or leaves the state alone. -/
theorem exec_atomic [Within V W] (n : ν) (t : Tx σ ε V α) (s : σ) :
    (atomic n t : Prog σ ε ν W α).exec s = match t.run s with
      | .ok (a, s') => (.ok a, s')
      | .error e => (.error e, s) := by
  rw [atomic, exec, Tx.run_widen]
  cases t.run s <;> rfl

theorem exec_atomic_ok [Within V W] {n : ν} {t : Tx σ ε V α} {s s' : σ} {a : α} :
    (atomic n t : Prog σ ε ν W α).exec s = (.ok a, s') ↔ t.run s = .ok (a, s') := by
  rw [exec_atomic]
  rcases t.run s with e | ⟨a, s1⟩ <;> simp

@[simp] theorem exec_read [Inhabited ν] (q : Query σ ε α) (s : σ) :
    (read q : Prog σ ε ν W α).exec s = (q s, s) := by
  simp only [read, exec, Tx.read]
  cases q s <;> rfl

theorem exec_read_ok [Inhabited ν] {q : Query σ ε α} {s s' : σ} {a : α} :
    (read q : Prog σ ε ν W α).exec s = (.ok a, s') ↔ q s = .ok a ∧ s' = s := by
  rw [exec_read, Prod.mk.injEq]
  exact and_congr_right fun _ => eq_comm

theorem Meets.of_forall {A : ν → σ → Prop} (hA : ∀ n s, A n s) (p : Prog σ ε ν W α) (s : σ) :
    p.Meets A s :=
  fun c _ => hA c.name c.before

/-- A run makes the same commits in every larger footprint. -/
@[simp] theorem commits_widen [Within V W] (p : Prog σ ε ν V α) (s : σ) :
    (p.widen : Prog σ ε ν W α).commits s = p.commits s := by
  induction p generalizing s with
  | done r => rfl
  | commit n t k ih =>
    simp only [widen, commits, Tx.run_widen]
    cases t.run s with
    | ok r => simp only [ih]
    | error e => simp only [ih]

@[simp] theorem exec_rename {ν' : Type} (f : ν → ν') (p : Prog σ ε ν W α) (s : σ) :
    (p.rename f).exec s = p.exec s := by
  induction p generalizing s with
  | done r => rfl
  | commit n t k ih =>
    simp only [rename, exec]
    cases t.run s with
    | ok r => exact ih _ _
    | error e => exact ih _ _

/-- The commits of a program with other names. -/
theorem commits_rename {ν' : Type} (f : ν → ν') (p : Prog σ ε ν W α) (s : σ) :
    (p.rename f).commits s = (p.commits s).map fun c => ⟨f c.name, c.before, c.after⟩ := by
  induction p generalizing s with
  | done r => rfl
  | commit n t k ih =>
    simp only [rename, commits]
    cases t.run s with
    | ok r => simp only [ih, List.map_cons]
    | error e => simp only [ih]

theorem Meets.rename {ν' : Type} {f : ν → ν'} {A : ν' → σ → Prop} {p : Prog σ ε ν W α} {s : σ}
    (h : p.Meets (fun n => A (f n)) s) : (p.rename f).Meets A s := by
  induction p generalizing s with
  | done r => simp [Meets, Prog.rename, commits]
  | commit n t k ih =>
    unfold Meets at h ⊢
    rw [commits_commit] at h
    rw [Prog.rename, commits_commit]
    cases ht : t.run s with
    | ok r =>
      simp only [ht, List.mem_cons, forall_eq_or_imp] at h ⊢
      exact ⟨h.1, ih _ h.2⟩
    | error e =>
      simp only [ht] at h ⊢
      exact ih _ h

/-- Run the next `m` transactions of a program; what is left of it, and the state. -/
def advance : ℕ → Prog σ ε ν W α → σ → Prog σ ε ν W α × σ
  | 0, p, s => (p, s)
  | _ + 1, done r, s => (done r, s)
  | m + 1, commit _ t k, s =>
    match t.run s with
    | .ok (a, s') => advance m (k (.ok a)) s'
    | .error e => advance m (k (.error e)) s

/-- The next transaction, when it commits: its name, and the state after it. -/
def next? : Prog σ ε ν W α → σ → Option (ν × σ)
  | done _, _ => none
  | commit n t _, s =>
    match t.run s with
    | .ok (_, s') => some (n, s')
    | .error _ => none

theorem next?_widen [Within V W] (p : Prog σ ε ν V α) (s : σ) :
    (p.widen : Prog σ ε ν W α).next? s = p.next? s := by
  cases p with
  | done r => rfl
  | commit n t k =>
    simp only [widen, next?, Tx.run_widen]

theorem next?_rename {ν' : Type} (f : ν → ν') (p : Prog σ ε ν W α) (s : σ) :
    (p.rename f).next? s = (p.next? s).map fun (n, s') => (f n, s') := by
  cases p with
  | done r => rfl
  | commit n t k =>
    simp only [rename, next?]
    cases t.run s <;> rfl

/-- A run changes only the cells of its footprint. -/
theorem exec_frame (p : Prog σ ε ν W α) (s : σ) {c : κ} (hc : c ∉ W) :
    Cells.agree c s (p.exec s).2 := by
  induction p generalizing s with
  | done r => exact Cells.agree_refl c s
  | commit n t k ih =>
    rw [exec_commit]
    split
    · rename_i a s' h
      exact Cells.agree_trans (t.frame h c hc) (ih _ s')
    · exact ih _ s

-- ════════════════════════════════════════════════════════════════════════
-- Steps of a relation
-- ════════════════════════════════════════════════════════════════════════

/-- Every commit of the program, which goes on from `s`, is a step of `R` under the name of
its transaction. Before each transaction the state may change in any way that leaves the
cells `H` as they are. -/
def Follows (H : List κ) (R : ν → σ → σ → Prop) : Prog σ ε ν W α → σ → Prop
  | done _, _ => True
  | commit n t k, s => ∀ s1, SameOn H s s1 →
      (∀ a s', t.run s1 = .ok (a, s') → R n s1 s' ∧ Follows H R (k (.ok a)) s') ∧
      (∀ e, t.run s1 = .error e → Follows H R (k (.error e)) s1)

namespace Follows

variable {H : List κ} {R : ν → σ → σ → Prop} {s : σ}

/-- A program follows from later states what it follows from earlier ones. -/
theorem later {p : Prog σ ε ν W α} {s1 : σ} (hp : p.Follows H R s) (h : SameOn H s s1) :
    p.Follows H R s1 := by
  cases p with
  | done r => trivial
  | commit n t k => exact fun s2 h2 => hp s2 (h.trans h2)

theorem pure (a : α) : (pure a : Prog σ ε ν W α).Follows H R s := trivial

theorem fail (e : ε) : (Prog.fail e : Prog σ ε ν W α).Follows H R s := trivial

/-- **Sequencing rule**. -/
theorem bind {p : Prog σ ε ν W α} {f : α → Prog σ ε ν W β} (hp : p.Follows H R s)
    (hf : ∀ a s1, (f a).Follows H R s1) : (p >>= f).Follows H R s := by
  change (Prog.bind p f).Follows H R s
  induction p generalizing s with
  | done r =>
    cases r with
    | ok a => exact hf a s
    | error e => trivial
  | commit n t k ih =>
    intro s1 h1
    obtain ⟨hok, herror⟩ := hp s1 h1
    refine ⟨fun a s' h => ?_, fun e h => ih _ (herror e h)⟩
    exact ⟨(hok a s' h).1, ih _ (hok a s' h).2⟩

/-- **Handler rule**. -/
theorem tryCatch {p : Prog σ ε ν W α} {handler : ε → Prog σ ε ν W α} (hp : p.Follows H R s)
    (hh : ∀ e s1, (handler e).Follows H R s1) : (p.tryCatch handler).Follows H R s := by
  induction p generalizing s with
  | done r =>
    cases r with
    | ok a => trivial
    | error e => exact hh e s
  | commit n t k ih =>
    intro s1 h1
    obtain ⟨hok, herror⟩ := hp s1 h1
    refine ⟨fun a s' h => ?_, fun e h => ih _ (herror e h)⟩
    exact ⟨(hok a s' h).1, ih _ (hok a s' h).2⟩

/-- **Atomic rule**: a block follows `R` when its transaction does. -/
theorem atomic [Within V W] {n : ν} {t : Tx σ ε V α}
    (ht : ∀ s1, SameOn H s s1 → ∀ a s', t.run s1 = .ok (a, s') → R n s1 s') :
    (Prog.atomic n t : Prog σ ε ν W α).Follows H R s :=
  fun s1 h1 => ⟨fun a s' h => ⟨ht s1 h1 a s' h, trivial⟩, fun _ _ => trivial⟩

/-- **Read rule**: what was read is known of a state that agrees with all later ones on the
cells `H`. -/
theorem read [Inhabited ν] {q : Query σ ε α} {f : α → Prog σ ε ν W β}
    (hrefl : ∀ s1, R default s1 s1)
    (hf : ∀ s1 a, SameOn H s s1 → q s1 = .ok a → (f a).Follows H R s1) :
    (Prog.read q >>= f).Follows H R s := by
  intro s1 h1
  refine ⟨fun a s' h => ?_, fun _ _ => trivial⟩
  obtain ⟨hq, rfl⟩ := Tx.read_ok.1 h
  exact ⟨hrefl s1, hf s1 a h1 hq⟩

/-- **Read rule** for the end of a program. -/
theorem query [Inhabited ν] (q : Query σ ε α) (hrefl : ∀ s1, R default s1 s1) :
    (Prog.read q : Prog σ ε ν W α).Follows H R s := by
  intro s1 _
  refine ⟨fun a s' h => ?_, fun _ _ => trivial⟩
  obtain ⟨-, rfl⟩ := Tx.read_ok.1 h
  exact ⟨hrefl s1, trivial⟩

theorem widen [Within V W] {p : Prog σ ε ν V α} (hp : p.Follows H R s) :
    (p.widen : Prog σ ε ν W α).Follows H R s := by
  induction p generalizing s with
  | done r => trivial
  | commit n t k ih =>
    intro s1 h1
    obtain ⟨hok, herror⟩ := hp s1 h1
    refine ⟨fun a s' h => ?_, fun e h => ih _ (herror e h)⟩
    exact ⟨(hok a s' h).1, ih _ (hok a s' h).2⟩

theorem rename {ν' : Type} {f : ν → ν'} {p : Prog σ ε ν W α} (hp : p.Follows H R s) :
    (p.rename f).Follows H (fun m s s' => ∃ n, f n = m ∧ R n s s') s := by
  induction p generalizing s with
  | done r => trivial
  | commit n t k ih =>
    intro s1 h1
    obtain ⟨hok, herror⟩ := hp s1 h1
    exact ⟨fun a s' h => ⟨⟨n, rfl, (hok a s' h).1⟩, ih _ (hok a s' h).2⟩,
      fun e h => ih _ (herror e h)⟩

/-- **Loop rule**. -/
theorem forEach {body : α → Prog σ ε ν W Unit} (hbody : ∀ a s1, (body a).Follows H R s1) :
    ∀ (as : List α) (s : σ), (Prog.forEach body as).Follows H R s
  | [], _ => trivial
  | a :: as, s => bind (hbody a s) fun _ s1 => forEach hbody as s1

/-- **Sequencing rule with histories**: the second program starts in a state that agrees with
the first one's start on the cells `H`. -/
theorem bindLater {p : Prog σ ε ν W α} {f : α → Prog σ ε ν W β} (hdisj : ∀ c ∈ H, c ∉ W)
    (hp : p.Follows H R s) (hf : ∀ a s1, SameOn H s s1 → (f a).Follows H R s1) :
    (p >>= f).Follows H R s := by
  change (Prog.bind p f).Follows H R s
  induction p generalizing s with
  | done r =>
    cases r with
    | ok a => exact hf a s (SameOn.refl H s)
    | error e => trivial
  | commit n t k ih =>
    intro s1 h1
    obtain ⟨hok, herror⟩ := hp s1 h1
    refine ⟨fun a s' h => ?_, fun e h => ?_⟩
    · have hsame : SameOn H s s' := h1.trans fun c hc => t.frame h c (hdisj c hc)
      exact ⟨(hok a s' h).1, ih _ (hok a s' h).2 fun b s2 h2 => hf b s2 (hsame.trans h2)⟩
    · exact ih _ (herror e h) fun b s2 h2 => hf b s2 (h1.trans h2)

/-- **Loop rule with histories**. -/
theorem forEachLater {body : α → Prog σ ε ν W Unit} (hdisj : ∀ c ∈ H, c ∉ W) :
    ∀ (as : List α) (s : σ),
      (∀ a ∈ as, ∀ s1, SameOn H s s1 → (body a).Follows H R s1) →
        (Prog.forEach body as).Follows H R s
  | [], _, _ => trivial
  | a :: as, s, hbody =>
    bindLater hdisj (hbody a List.mem_cons_self s (SameOn.refl H s)) fun _ s1 h1 =>
      forEachLater hdisj as s1 fun b hb s2 h2 =>
        hbody b (List.mem_cons_of_mem a hb) s2 (h1.trans h2)

/-- **Frame rule**: a program only changes cells of its footprint. -/
theorem frame {C : List κ} (hdisj : ∀ c ∈ C, c ∉ W)
    (hR : ∀ n s s', SameOn C s s' → R n s s') :
    ∀ (p : Prog σ ε ν W α) (s : σ), p.Follows H R s
  | done _, _ => trivial
  | commit n t k, _ => fun s1 _ =>
      ⟨fun a s' h => ⟨hR n s1 s' fun c hc => t.frame h c (hdisj c hc),
        frame hdisj hR (k (.ok a)) s'⟩, fun e _ => frame hdisj hR (k (.error e)) s1⟩

/-- **Consequence rule**. -/
theorem mono {R' : ν → σ → σ → Prop} {p : Prog σ ε ν W α} (hp : p.Follows H R s)
    (hR : ∀ n s s', R n s s' → R' n s s') : p.Follows H R' s := by
  induction p generalizing s with
  | done r => trivial
  | commit n t k ih =>
    intro s1 h1
    obtain ⟨hok, herror⟩ := hp s1 h1
    refine ⟨fun a s' h => ?_, fun e h => ih _ (herror e h)⟩
    exact ⟨hR n s1 s' (hok a s' h).1, ih _ (hok a s' h).2⟩

/-- **Conjunction rule**. -/
theorem and {R' : ν → σ → σ → Prop} {p : Prog σ ε ν W α} (hp : p.Follows H R s)
    (hp' : p.Follows H R' s) : p.Follows H (fun n s s' => R n s s' ∧ R' n s s') s := by
  induction p generalizing s with
  | done r => trivial
  | commit n t k ih =>
    intro s1 h1
    obtain ⟨hok, herror⟩ := hp s1 h1
    obtain ⟨hok', herror'⟩ := hp' s1 h1
    exact ⟨fun a s' h => ⟨⟨(hok a s' h).1, (hok' a s' h).1⟩, ih _ (hok a s' h).2 (hok' a s' h).2⟩,
      fun e h => ih _ (herror e h) (herror' e h)⟩

/-- The commits of a run alone are steps of the relation. -/
theorem commits {p : Prog σ ε ν W α} (hp : p.Follows H R s) :
    ∀ c ∈ p.commits s, R c.name c.before c.after := by
  induction p generalizing s with
  | done r => simp [Prog.commits]
  | commit n t k ih =>
    obtain ⟨hok, herror⟩ := hp s (SameOn.refl H s)
    intro c hc
    rw [commits_commit] at hc
    split at hc
    · rename_i a s' h
      rcases List.mem_cons.1 hc with rfl | hc
      · exact (hok a s' h).1
      · exact ih _ (hok a s' h).2 c hc
    · rename_i e h
      exact ih _ (herror e h) c hc

/-- A run alone is a sequence of steps. -/
theorem exec {R : σ → σ → Prop} [IsPreorder σ R] {p : Prog σ ε ν W α}
    (hp : p.Follows H (fun _ => R) s) : R s (p.exec s).2 := by
  induction p generalizing s with
  | done r => exact refl_of R s
  | commit n t k ih =>
    obtain ⟨hok, herror⟩ := hp s (SameOn.refl H s)
    rw [exec_commit]
    split
    · rename_i a s' h
      exact trans_of R (hok a s' h).1 (ih _ (hok a s' h).2)
    · rename_i e h
      exact ih _ (herror e h)

/-- **Invariants of a run alone**: what every admitted step keeps, the run keeps. -/
theorem exec_invariant {A : ν → σ → Prop} {I : σ → Prop} {p : Prog σ ε ν W α}
    (hp : p.Follows H R s) (hm : p.Meets A s) (hI : ∀ n s s', R n s s' → A n s → I s → I s')
    (hs : I s) : I (p.exec s).2 := by
  induction p generalizing s with
  | done r => exact hs
  | commit n t k ih =>
    obtain ⟨hok, herror⟩ := hp s (SameOn.refl H s)
    unfold Meets at hm
    rw [commits_commit] at hm
    rw [exec_commit]
    cases ht : t.run s with
    | ok r =>
      obtain ⟨a, s'⟩ := r
      simp only [ht, List.mem_cons, forall_eq_or_imp] at hm
      exact ih _ (hok a s' ht).2 hm.2 (hI n s s' (hok a s' ht).1 hm.1 hs)
    | error e =>
      simp only [ht] at hm
      exact ih _ (herror e ht) hm hs

end Follows

/-- The run of the program alone is a step of `R`. -/
def Runs (R : σ → σ → Prop) (p : Prog σ ε ν W α) (s : σ) : Prop := R s (p.exec s).2

theorem Follows.runs {H : List κ} {R : σ → σ → Prop} [IsPreorder σ R] {p : Prog σ ε ν W α} {s : σ}
    (hp : p.Follows H (fun _ => R) s) : p.Runs R s :=
  hp.exec

namespace Runs

variable {R : σ → σ → Prop} {s : σ}

/-- **Read rule**: nothing happens between a read and what follows it. -/
theorem read [Inhabited ν] [IsPreorder σ R] {q : Query σ ε α} {f : α → Prog σ ε ν W β}
    (hf : ∀ a, q s = .ok a → (f a).Runs R s) : (Prog.read q >>= f).Runs R s := by
  unfold Runs
  rw [exec_bind, exec_read]
  cases hq : q s with
  | ok a => exact hf a hq
  | error e => exact refl_of R s

theorem query [Inhabited ν] [IsPreorder σ R] (q : Query σ ε α) :
    (Prog.read q : Prog σ ε ν W α).Runs R s := by
  unfold Runs
  rw [exec_read]
  exact refl_of R s

/-- **Sequencing rule**, with the state in which the second part starts. -/
theorem bindFrom [IsPreorder σ R] {p : Prog σ ε ν W α} {f : α → Prog σ ε ν W β} (hp : p.Runs R s)
    (hf : ∀ a s1, p.exec s = (.ok a, s1) → (f a).Runs R s1) : (p >>= f).Runs R s := by
  unfold Runs at *
  rw [exec_bind]
  rcases hexec : p.exec s with ⟨r, s1⟩
  rw [hexec] at hp
  cases r with
  | ok a => exact trans_of R hp (hf a s1 hexec)
  | error e => exact hp

/-- **Sequencing rule**. -/
theorem bind [IsPreorder σ R] {p : Prog σ ε ν W α} {f : α → Prog σ ε ν W β} (hp : p.Runs R s)
    (hf : ∀ a s1, (f a).Runs R s1) : (p >>= f).Runs R s :=
  hp.bindFrom fun a s1 _ => hf a s1

/-- **Handler rule**. -/
theorem tryCatch [IsPreorder σ R] {p : Prog σ ε ν W α} {handler : ε → Prog σ ε ν W α}
    (hp : p.Runs R s) (hh : ∀ e s1, (handler e).Runs R s1) : (p.tryCatch handler).Runs R s := by
  unfold Runs at *
  rw [exec_tryCatch]
  rcases hexec : p.exec s with ⟨r, s1⟩
  rw [hexec] at hp
  cases r with
  | ok a => exact hp
  | error e => exact trans_of R hp (hh e s1)

theorem pure [IsPreorder σ R] (a : α) : (pure a : Prog σ ε ν W α).Runs R s := refl_of R s

theorem fail [IsPreorder σ R] (e : ε) : (Prog.fail e : Prog σ ε ν W α).Runs R s := refl_of R s

theorem widen [Within V W] {p : Prog σ ε ν V α} (hp : p.Runs R s) :
    (p.widen : Prog σ ε ν W α).Runs R s := by
  unfold Runs
  rw [exec_widen]
  exact hp

/-- **Frame rule**: cells outside the footprint agree. -/
theorem sameOn {C : List κ} (p : Prog σ ε ν W α) (hdisj : ∀ c ∈ C, c ∉ W) :
    p.Runs (SameOn C) s :=
  fun _ hc => exec_frame p s (hdisj _ hc)

/-- **Transaction rule**. -/
theorem atomic [Within V W] [IsPreorder σ R] {n : ν} {t : Tx σ ε V α} (ht : t.FollowsFrom R s) :
    (Prog.atomic n t : Prog σ ε ν W α).Runs R s := by
  unfold Runs
  rw [exec_atomic]
  cases hrun : t.run s with
  | ok r => exact ht r.1 r.2 hrun
  | error e => exact refl_of R s

/-- **Transaction rule** for the start of a sequence. -/
theorem atomicBind [Within V W] [IsPreorder σ R] {n : ν} {t : Tx σ ε V α}
    {f : α → Prog σ ε ν W β} (ht : ∀ a s', t.run s = .ok (a, s') → R s s' ∧ (f a).Runs R s') :
    (Prog.atomic n t >>= f).Runs R s := by
  unfold Runs
  rw [exec_bind, exec_atomic]
  cases hrun : t.run s with
  | ok r => exact trans_of R (ht r.1 r.2 hrun).1 (ht r.1 r.2 hrun).2
  | error e => exact refl_of R s

/-- **Loop rule** for elements with different keys: what the body needs for one element is
still true after the body has run for others. -/
theorem forEach_apart [IsPreorder σ R] {ι : Type} {body : α → Prog σ ε ν W Unit} (key : α → ι)
    (Q : σ → α → Prop) (hbody : ∀ a s1, Q s1 a → (body a).Runs R s1)
    (hkeep : ∀ a b s1, Q s1 a → key b ≠ key a → Q s1 b → Q ((body a).exec s1).2 b) :
    ∀ (as : List α) (s1 : σ), (as.map key).Nodup → (∀ a ∈ as, Q s1 a) →
      (Prog.forEach body as).Runs R s1
  | [], s1, _, _ => refl_of R s1
  | a :: as, s1, hnodup, hQ => by
    rw [List.map_cons, List.nodup_cons] at hnodup
    have ha := hQ a List.mem_cons_self
    have hrest : ∀ b ∈ as, Q ((body a).exec s1).2 b := fun b hb =>
      hkeep a b s1 ha (fun h => hnodup.1 (h ▸ List.mem_map_of_mem hb))
        (hQ b (List.mem_cons_of_mem _ hb))
    have hstep := hbody a s1 ha
    have hloop := forEach_apart key Q hbody hkeep as _ hnodup.2 hrest
    unfold Runs at *
    unfold Prog.forEach
    rw [exec_bind]
    rcases hexec : (body a).exec s1 with ⟨r, s2⟩
    rw [hexec] at hstep hloop
    cases r with
    | ok u => exact trans_of R hstep hloop
    | error e => exact hstep

end Runs

end Prog


/-- A program run inside an open transaction: its parts commit or roll back together. -/
def Tx.ofProg {σ ε ν κ α : Type} [Cells σ κ] {W : List κ} (p : Prog σ ε ν W α) : Tx σ ε W α where
  run s := match p.exec s with
    | (.ok a, s') => .ok (a, s')
    | (.error e, _) => .error e
  frame {s a s'} h c hc := by
    have hframe := p.exec_frame s hc
    split at h
    · rename_i b t hexec
      cases h
      rwa [hexec] at hframe
    · cases h

theorem Tx.ofProg_ok {σ ε ν κ α : Type} [Cells σ κ] {W : List κ} {p : Prog σ ε ν W α} {s s' : σ}
    {a : α} : (Tx.ofProg p).run s = .ok (a, s') ↔ p.exec s = (.ok a, s') := by
  unfold Tx.ofProg
  simp only
  split
  · rename_i b t hexec
    simp [hexec]
  · rename_i e t hexec
    simp [hexec]

/-- **Nesting rule**: a program run inside a transaction follows what it follows alone. -/
theorem Tx.Follows.ofProg {σ ε ν κ α : Type} [Cells σ κ] {W H : List κ} {R : σ → σ → Prop}
    [IsPreorder σ R] {p : Prog σ ε ν W α} (hp : ∀ s, p.Follows H (fun _ => R) s) :
    (Tx.ofProg p).Follows R := by
  intro s a s' h
  have hexec := (hp s).exec
  rwa [Tx.ofProg_ok.1 h] at hexec

/-- **Nesting rule**, for one start. -/
theorem Tx.FollowsFrom.ofProg {σ ε ν κ α : Type} [Cells σ κ] {W H : List κ} {R : σ → σ → Prop}
    [IsPreorder σ R] {p : Prog σ ε ν W α} {s : σ} (hp : p.Follows H (fun _ => R) s) :
    (Tx.ofProg p).FollowsFrom R s := by
  intro a s' h
  have hexec := hp.exec
  rwa [Tx.ofProg_ok.1 h] at hexec

-- ════════════════════════════════════════════════════════════════════════
-- Interleavings
-- ════════════════════════════════════════════════════════════════════════

/-- A database and the programs in flight over it. -/
structure Conf (σ ε ν : Type) {κ : Type} [Cells σ κ] (W : List κ) : Type 1 where
  db : σ
  inflight : List (Prog σ ε ν W Unit)

namespace Conf

variable {σ ε ν κ : Type} [Cells σ κ] {W : List κ}

/-- One step of the whole system: a request arrives, the next transaction of a
request commits or rolls back, or the process of a request dies. -/
inductive Step (Request : Prog σ ε ν W Unit → Prop) (A : ν → σ → Prop) :
    Conf σ ε ν W → Conf σ ε ν W → Prop where
  | arrive {db ps p} : Request p → Step Request A ⟨db, ps⟩ ⟨db, ps ++ [p]⟩
  | commit {db db' ps i β n} {t : Tx σ ε W β} {k a} :
      ps[i]? = some (.commit n t k) → t.run db = .ok (a, db') → A n db →
      Step Request A ⟨db, ps⟩ ⟨db', ps.set i (k (.ok a))⟩
  | rollback {db ps i β n} {t : Tx σ ε W β} {k e} :
      ps[i]? = some (.commit n t k) → t.run db = .error e →
      Step Request A ⟨db, ps⟩ ⟨db, ps.set i (k (.error e))⟩
  | crash {db ps i} : Step Request A ⟨db, ps⟩ ⟨db, ps.eraseIdx i⟩

/-- The configurations reached from a database with nothing in flight. -/
inductive Reach (Request : Prog σ ε ν W Unit → Prop) (A : ν → σ → Prop) (start : σ) :
    Conf σ ε ν W → Prop where
  | start : Reach Request A start ⟨start, []⟩
  | step {c c'} : Reach Request A start c → Step Request A c c' → Reach Request A start c'

/-- A program in flight runs some of its transactions with no other in between. -/
theorem Reach.advance {Request : Prog σ ε ν W Unit → Prop} {A : ν → σ → Prop} {start s : σ}
    {ps : List (Prog σ ε ν W Unit)} {p : Prog σ ε ν W Unit}
    (h : Reach Request A start ⟨s, ps ++ [p]⟩) (hm : p.Meets A s) (m : ℕ) :
    Reach Request A start ⟨(p.advance m s).2, ps ++ [(p.advance m s).1]⟩ := by
  induction m generalizing p s with
  | zero => exact h
  | succ m ih =>
    cases p with
    | done r => exact h
    | commit n t k =>
      have hlast : (ps ++ [Prog.commit n t k])[ps.length]? = some (Prog.commit n t k) := by simp
      unfold Prog.Meets at hm
      rw [Prog.commits_commit] at hm
      rw [Prog.advance]
      cases ht : t.run s with
      | ok r =>
        obtain ⟨a, s'⟩ := r
        simp only [ht, List.mem_cons, forall_eq_or_imp] at hm
        have hnext := h.step (.commit hlast ht hm.1)
        rw [List.set_append_right _ _ (Nat.le_refl _), Nat.sub_self, List.set_cons_zero] at hnext
        exact ih hnext hm.2
      | error e =>
        simp only [ht] at hm
        have hnext := h.step (.rollback hlast ht)
        rw [List.set_append_right _ _ (Nat.le_refl _), Nat.sub_self, List.set_cons_zero] at hnext
        exact ih hnext hm

/-- A program in flight runs to its end, one transaction after another. -/
theorem Reach.finish {Request : Prog σ ε ν W Unit → Prop} {A : ν → σ → Prop} {start s : σ}
    {ps : List (Prog σ ε ν W Unit)} {p : Prog σ ε ν W Unit}
    (h : Reach Request A start ⟨s, ps ++ [p]⟩) (hm : p.Meets A s) :
    ∃ r, Reach Request A start ⟨(p.exec s).2, ps ++ [.done r]⟩ := by
  induction p generalizing s with
  | done r => exact ⟨r, h⟩
  | commit n t k ih =>
    have hlast : (ps ++ [Prog.commit n t k])[ps.length]? = some (Prog.commit n t k) := by simp
    unfold Prog.Meets at hm
    rw [Prog.commits_commit] at hm
    rw [Prog.exec_commit]
    cases ht : t.run s with
    | ok r =>
      obtain ⟨a, s'⟩ := r
      simp only [ht, List.mem_cons, forall_eq_or_imp] at hm
      have hnext := h.step (.commit hlast ht hm.1)
      rw [List.set_append_right _ _ (Nat.le_refl _), Nat.sub_self, List.set_cons_zero] at hnext
      exact ih _ hnext hm.2
    | error e =>
      simp only [ht] at hm
      have hnext := h.step (.rollback hlast ht)
      rw [List.set_append_right _ _ (Nat.le_refl _), Nat.sub_self, List.set_cons_zero] at hnext
      exact ih _ hnext hm

/-- **Sequential runs**: a request that arrives and runs to its end, while the others wait, is
one way to interleave. -/
theorem Reach.exec {Request : Prog σ ε ν W Unit → Prop} {A : ν → σ → Prop} {start s : σ}
    {ps : List (Prog σ ε ν W Unit)} {p : Prog σ ε ν W Unit}
    (h : Reach Request A start ⟨s, ps⟩) (hp : Request p) (hm : p.Meets A s) :
    Reach Request A start ⟨(p.exec s).2, ps⟩ := by
  obtain ⟨r, hr⟩ := (h.step (.arrive hp)).finish hm
  have hend := hr.step (.crash (i := ps.length))
  rwa [List.eraseIdx_append_of_length_le (Nat.le_refl _), Nat.sub_self, List.eraseIdx_cons_zero,
    List.append_nil] at hend

/-- Every program in flight goes on following `R`. -/
def Good (H : List κ) (R : ν → σ → σ → Prop) (c : Conf σ ε ν W) : Prop :=
  ∀ p ∈ c.inflight, p.Follows H R c.db

variable {Request : Prog σ ε ν W Unit → Prop} {A : ν → σ → Prop} {H : List κ}
  {R : ν → σ → σ → Prop}

theorem Good.step (hdisj : ∀ c ∈ H, c ∉ W) (hreq : ∀ p, Request p → ∀ s, p.Follows H R s)
    {c c' : Conf σ ε ν W} (hc : Good H R c) (h : Step Request A c c') : Good H R c' := by
  cases h with
  | arrive hp =>
    intro q hq
    rcases List.mem_append.1 hq with hq | hq
    · exact hc q hq
    · rw [List.mem_singleton] at hq
      exact hq ▸ hreq _ hp _
  | commit hi ht hA =>
    intro q hq
    rcases List.mem_or_eq_of_mem_set hq with hq | rfl
    · exact (hc q hq).later fun c hc => Tx.frame _ ht c (hdisj c hc)
    · exact ((hc _ (List.mem_of_getElem? hi) _ (SameOn.refl H _)).1 _ _ ht).2
  | rollback hi ht =>
    intro q hq
    rcases List.mem_or_eq_of_mem_set hq with hq | rfl
    · exact hc q hq
    · exact (hc _ (List.mem_of_getElem? hi) _ (SameOn.refl H _)).2 _ ht
  | crash => exact fun q hq => hc q (List.mem_of_mem_eraseIdx hq)

/-- In a reachable configuration every program in flight follows `R`. -/
theorem Reach.good {start : σ} (hdisj : ∀ c ∈ H, c ∉ W)
    (hreq : ∀ p, Request p → ∀ s, p.Follows H R s) {c : Conf σ ε ν W}
    (h : Reach Request A start c) : Good H R c := by
  induction h with
  | start => simp [Good]
  | step _ hs ih => exact ih.step hdisj hreq hs

/-- What one step does to the database: nothing, or an admitted step of `R`. -/
theorem Good.cases {c c' : Conf σ ε ν W} (hc : Good H R c) (h : Step Request A c c') :
    c'.db = c.db ∨ ∃ n, R n c.db c'.db ∧ A n c.db := by
  cases h with
  | arrive | rollback | crash => exact .inl rfl
  | commit hi ht hA =>
    exact .inr ⟨_, ((hc _ (List.mem_of_getElem? hi) _ (SameOn.refl H _)).1 _ _ ht).1, hA⟩

/-- A transaction named `n` commits. -/
inductive Commits (A : ν → σ → Prop) (n : ν) : Conf σ ε ν W → Conf σ ε ν W → Prop where
  | intro {db db' ps i β} {t : Tx σ ε W β} {k a} :
      ps[i]? = some (.commit n t k) → t.run db = .ok (a, db') → A n db →
      Commits A n ⟨db, ps⟩ ⟨db', ps.set i (k (.ok a))⟩

/-- A commit is one of the steps. -/
theorem Commits.step {n : ν} {c c' : Conf σ ε ν W} (h : Commits A n c c') :
    Step Request A c c' := by
  obtain ⟨hi, ht, hA⟩ := h
  exact .commit hi ht hA

/-- The next transaction of a program in flight commits. -/
theorem Commits.of_next {A : ν → σ → Prop} {n : ν} {s s' : σ} {ps : List (Prog σ ε ν W Unit)}
    {p : Prog σ ε ν W Unit} (hp : p.next? s = some (n, s')) (hA : A n s) :
    ∃ p', Commits A n ⟨s, p :: ps⟩ ⟨s', p' :: ps⟩ := by
  cases p with
  | done r => simp [Prog.next?] at hp
  | commit m t k =>
    simp only [Prog.next?] at hp
    split at hp
    · rename_i a s1 ht
      cases hp
      exact ⟨k (.ok a), .intro (i := 0) rfl ht hA⟩
    · cases hp

/-- What a commit does is known by its name. -/
theorem Good.commit {c c' : Conf σ ε ν W} {n : ν} (hc : Good H R c) (h : Commits A n c c') :
    R n c.db c'.db ∧ A n c.db := by
  obtain ⟨hi, ht, hA⟩ := h
  exact ⟨((hc _ (List.mem_of_getElem? hi) _ (SameOn.refl H _)).1 _ _ ht).1, hA⟩

/-- **Interleaving rule**: when every request follows `R`, what holds initially and survives
every admitted step of `R` holds of the database in every reachable configuration. -/
theorem Reach.invariant {I : σ → Prop} {start : σ} (hdisj : ∀ c ∈ H, c ∉ W)
    (hreq : ∀ p, Request p → ∀ s, p.Follows H R s) (h0 : I start)
    (hI : ∀ n s s', R n s s' → A n s → I s → I s')
    {c : Conf σ ε ν W} (h : Reach Request A start c) : I c.db := by
  induction h with
  | start => exact h0
  | step h hs ih =>
    rcases (h.good hdisj hreq).cases hs with hdb | ⟨n, hR, hA⟩
    · rw [hdb]
      exact ih
    · exact hI n _ _ hR hA ih

end Conf

end Transactional
