import RunbookPlatform.System

/-!
# Runs that name their requests

An interleaved run in which every commit carries the request it is made for, so that a
result can speak of what the calls of one runner do, whatever else happens in between.

## Main definitions

- `Op.served` — the program of a request, with the request in the names of its transactions
- `Serving`, `Serves` — the configurations of such runs, and the commits of one request

## Main results

- `Serving.invariant`, `Serves.move` — invariants of these runs, and what a commit does
-/

namespace RunbookPlatform

open Transactional

/-- The program of a request, with the request in the names of its transactions. -/
def Op.served (env : Env) (op : Op) : Prog Db Err (Op × TxName) allCells Unit :=
  ((op.prog env).rename (op, ·)).widen

/-- The program of a request, as one of many in flight. -/
def IsServed (env : Env) (p : Prog Db Err (Op × TxName) allCells Unit) : Prop :=
  ∃ op : Op, p = op.served env

/-- A database with the requests in flight over it. -/
abbrev ServedConf := Transactional.Conf Db Err (Op × TxName) allCells

/-- A condition on the states in which transactions of a request commit. -/
abbrev ServedAdmission := Op → Admission

/-- No condition. -/
def anyServed : ServedAdmission := fun _ => anyAdmission

/-- The configurations of interleaved runs whose commits `A` admits. -/
def Serving (env : Env) (A : ServedAdmission) (c : ServedConf) : Prop :=
  ∃ reference now, Conf.Reach (IsServed env) (fun n => A n.1 n.2) (.initial reference now) c

/-- One step of such a run. -/
abbrev ServedStep (env : Env) (A : ServedAdmission) (c c' : ServedConf) : Prop :=
  Conf.Step (IsServed env) (fun n => A n.1 n.2) c c'

/-- The request `op` commits its transaction `n`. -/
abbrev Serves (A : ServedAdmission) (op : Op) (n : TxName) (c c' : ServedConf) : Prop :=
  Conf.Commits (fun n => A n.1 n.2) (op, n) c c'

variable {env : Env} {A : ServedAdmission} {c c' : ServedConf} {R : Op → TxName → Db → Db → Prop}

theorem Op.served_follows {op : Op} {s : Db} (h : (op.prog env).Follows historyCells (R op) s) :
    (op.served env).Follows historyCells (fun n => R n.1 n.2) s := by
  refine h.rename.widen.mono ?_
  rintro _ s s' ⟨n, rfl, hn⟩
  exact hn

/-- Every request in flight goes on following what it follows. -/
theorem Serving.good (hop : ∀ (op : Op) s, (op.prog env).Follows historyCells (R op) s)
    (h : Serving env A c) : Conf.Good historyCells (fun n => R n.1 n.2) c := by
  obtain ⟨reference, now, hreach⟩ := h
  refine hreach.good (by decide) ?_
  rintro p ⟨op, rfl⟩ s
  exact Op.served_follows (hop op s)

theorem Serving.step (h : Serving env A c) (hs : ServedStep env A c c') : Serving env A c' := by
  obtain ⟨reference, now, hreach⟩ := h
  exact ⟨reference, now, hreach.step hs⟩

theorem Serving.steps (h : Serving env A c) (hs : Relation.ReflTransGen (ServedStep env A) c c') :
    Serving env A c' := by
  induction hs with
  | refl => exact h
  | tail _ hs ih => exact ih.step hs

theorem Serving.initial (reference : Reference) (now : Time) :
    Serving env A ⟨.initial reference now, []⟩ :=
  ⟨reference, now, .start⟩

theorem Op.served_meets {op : Op} {s : Db} (h : (op.prog env).Meets (A op) s) :
    (op.served env).Meets (fun n => A n.1 n.2) s := by
  unfold Op.served Prog.Meets
  rw [Prog.commits_widen]
  exact Prog.Meets.rename (f := (op, ·)) (A := fun n => A n.1 n.2) h

/-- A request runs to its end while the others wait. -/
theorem Serving.exec {s : Db} {ps} (h : Serving env A ⟨s, ps⟩) (op : Op)
    (hm : (op.prog env).Meets (A op) s) : Serving env A ⟨((op.prog env).exec s).2, ps⟩ := by
  obtain ⟨reference, now, hreach⟩ := h
  have hexec := hreach.exec ⟨op, rfl⟩ (Op.served_meets hm)
  rw [Op.served, Prog.exec_widen, Prog.exec_rename] at hexec
  exact ⟨reference, now, hexec⟩

/-- A request runs its first `m` transactions while the others wait. -/
theorem Serving.advance {s : Db} {ps} (h : Serving env A ⟨s, ps⟩) (op : Op)
    (hm : (op.prog env).Meets (A op) s) (m : ℕ) :
    Serving env A ⟨((op.served env).advance m s).2, ps ++ [((op.served env).advance m s).1]⟩ := by
  obtain ⟨reference, now, hreach⟩ := h
  exact ⟨reference, now, (hreach.step (.arrive ⟨op, rfl⟩)).advance (Op.served_meets hm) m⟩

/-- A request that runs to its end is a stretch of a run. -/
theorem ServedStep.exec {s : Db} (op : Op) (hm : (op.prog env).Meets (A op) s) :
    Relation.ReflTransGen (ServedStep env A) ⟨s, []⟩ ⟨((op.prog env).exec s).2, []⟩ := by
  have hsteps : ∀ c, Conf.Reach (IsServed env) (fun n => A n.1 n.2) s c →
      Relation.ReflTransGen (ServedStep env A) ⟨s, []⟩ c := by
    intro c h
    induction h with
    | start => exact .refl
    | step _ hs ih => exact ih.tail hs
  have hexec := Conf.Reach.exec (.start : Conf.Reach (IsServed env) _ s _) ⟨op, rfl⟩
    (Op.served_meets hm)
  rw [Op.served, Prog.exec_widen, Prog.exec_rename] at hexec
  exact hsteps _ hexec

/-- A step that meets a condition also meets every weaker one. -/
theorem ServedStep.mono {B : ServedAdmission} (hs : ServedStep env A c c')
    (hAB : ∀ op n s, A op n s → B op n s) : ServedStep env B c c' := by
  cases hs with
  | arrive hp => exact .arrive hp
  | commit hi ht hA => exact .commit hi ht (hAB _ _ _ hA)
  | rollback hi ht => exact .rollback hi ht
  | crash => exact .crash

/-- So does a run. -/
theorem ServedStep.runs_mono {B : ServedAdmission}
    (hs : Relation.ReflTransGen (ServedStep env A) c c')
    (hAB : ∀ op n s, A op n s → B op n s) : Relation.ReflTransGen (ServedStep env B) c c' := by
  induction hs with
  | refl => exact .refl
  | tail _ hs ih => exact ih.tail (hs.mono hAB)

/-- The configurations after lists of requests, one after another. -/
theorem Serving.runOps {s : Db} {ps} (h : Serving env anyServed ⟨s, ps⟩) (ops : List Op) :
    Serving env anyServed ⟨runOps env ops s, ps⟩ := by
  induction ops generalizing s with
  | nil => exact h
  | cons op ops ih => exact ih (h.exec op (Prog.Meets.of_forall (fun _ _ => trivial) _ s))

/-- **What a step does**: nothing, or a commit of some request. -/
theorem Serving.cases (hop : ∀ (op : Op) s, (op.prog env).Follows historyCells (R op) s)
    (h : Serving env A c) (hs : ServedStep env A c c') :
    c'.db = c.db ∨ ∃ op n, R op n c.db c'.db ∧ A op n c.db := by
  rcases (h.good hop).cases hs with hdb | ⟨⟨op, n⟩, hR, hA⟩
  · exact .inl hdb
  · exact .inr ⟨op, n, hR, hA⟩

/-- **What a commit does** is known by its request and its name. -/
theorem Serves.move {B : ServedAdmission} {op : Op} {n : TxName} (hs : Serves A op n c c')
    (h : Serving env B c) (hop : ∀ (op : Op) s, (op.prog env).Follows historyCells (R op) s) :
    R op n c.db c'.db ∧ A op n c.db :=
  (h.good hop).commit hs

/-- **Invariants** of these runs. -/
theorem Serving.invariant {I : Db → Prop}
    (hop : ∀ (op : Op) s, (op.prog env).Follows historyCells (R op) s)
    (h0 : ∀ reference now, I (.initial reference now))
    (hI : ∀ op n s s', R op n s s' → A op n s → I s → I s') (h : Serving env A c) : I c.db := by
  obtain ⟨reference, now, hreach⟩ := h
  refine hreach.invariant (H := historyCells) (R := fun n => R n.1 n.2) (by decide) ?_
    (h0 reference now) fun n => hI n.1 n.2
  rintro p ⟨op, rfl⟩ s
  exact Op.served_follows (hop op s)

/-- A property that every admitted commit keeps, from a given configuration on. -/
theorem Serving.stays {I : Db → Prop} {B : ServedAdmission}
    (hop : ∀ (op : Op) s, (op.prog env).Follows historyCells (R op) s)
    (hI : ∀ op n s s', R op n s s' → B op n s → I s → I s') (h : Serving env A c)
    (hs : Relation.ReflTransGen (ServedStep env B) c c') (hc : I c.db) : I c'.db := by
  have hgood : Conf.Good historyCells (fun n => R n.1 n.2) c' ∧ I c'.db := by
    induction hs with
    | refl => exact ⟨h.good hop, hc⟩
    | tail _ hs ih =>
      obtain ⟨hgood, hI'⟩ := ih
      refine ⟨hgood.step (by decide) ?_ hs, ?_⟩
      · rintro p ⟨op, rfl⟩ s
        exact Op.served_follows (hop op s)
      · rcases hgood.cases hs with hdb | ⟨⟨op, n⟩, hR, hA⟩
        · rw [hdb]
          exact hI'
        · exact hI op n _ _ hR hA hI'
  exact hgood.2

end RunbookPlatform
