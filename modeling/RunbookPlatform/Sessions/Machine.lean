import Mathlib.Data.List.Basic
import Mathlib.Logic.Relation
import Mathlib.Order.Defs.Unbundled

/-!
# Sessions under read committed

Any number of sessions run programs against one database, statement by statement. A statement
sees what is committed when it starts and what its own transaction wrote. A row lock is held to
the end of the transaction, and a statement that wants a locked row waits. Any statement can
raise, a session can die between two statements, and an effect outside the database takes place
at once.

## Main definitions

- `Stmt`, `Machine` — programs: positions, and the statement at each
- `Session`, `Config` — a transaction in progress; the database with all sessions
- `Schedule` — which events a run may have
- `Machine.advance`, `Machine.next?` — what one session does, and the system
- `Discipline` — an invariant of the database, one of each session, and one of each pair

## Main results

- `Discipline.holds` — the invariants hold in every run
- `Discipline.evolves` — what every step does to the database, a run does
- `Discipline.invariant` — a property of configurations that every step keeps

## Design notes

The writes of a transaction are applied when it commits, in their order. As a session writes
only what it has locked or what is new, that is the same as applying them at once, unseen.
-/

namespace Sessions

/-- A statement of a program. `δ` are the databases, `κ` what can be locked in them, `ν` the
writes, `ω` the world outside, and `π` the positions at which a program goes on. -/
inductive Stmt (δ κ ν ω π : Type) where
  | query (next : δ → π)
  /-- Wait for the rows, lock them, and read. -/
  | lock (rows : δ → List κ) (next : δ → π)
  | write (w : ν) (next : π)
  /-- An effect outside the database, and what it answers. -/
  | act (f : ω → ω) (next : ω → π)
  /-- End the transaction, and go on with what is committed then. -/
  | commit (next : δ → π)
  | rollback (next : π)
  | stop

/-- Programs over a database. -/
structure Machine (δ κ ν ω π : Type) where
  stmt : π → Stmt δ κ ν ω π
  apply : ν → δ → δ
  /-- Where a raised exception leads; the transaction is undone. -/
  rescue : π → π
  /-- Where a program may begin. -/
  start : π → Bool

/-- A program at a position, with the transaction it is in. -/
structure Session (κ ν π : Type) where
  pos : π
  pending : List ν := []
  held : List κ := []

/-- A database, the world outside and the sessions; `none` stands for one that is gone. -/
structure Config (δ κ ν ω π : Type) where
  db : δ
  world : ω
  sessions : List (Option (Session κ ν π)) := []

/-- What can happen next: a session moves, an exception is raised in it, or it dies. -/
inductive Label (π : Type) where
  | arrive (p : π)
  | move (i : ℕ)
  | raise (i : ℕ)
  | leave (i : ℕ)

/-- Which events a run may have: which session may move beside which other, where an exception
may be raised, and where a session may die. -/
structure Schedule (κ ν π : Type) where
  move : Session κ ν π → Session κ ν π → Bool := fun _ _ => true
  raise : Session κ ν π → Bool := fun _ => true
  leave : Session κ ν π → Bool := fun _ => true

/-- Every event, in every order. -/
def everyOrder {κ ν π : Type} : Schedule κ ν π := {}

variable {δ κ ν ω π : Type}

namespace Config

/-- Session `i` is in progress. -/
def At (c : Config δ κ ν ω π) (i : ℕ) (s : Session κ ν π) : Prop := c.sessions[i]? = some (some s)

/-- The sessions other than session `i`. -/
def others (c : Config δ κ ν ω π) (i : ℕ) : List (Session κ ν π) :=
  (c.sessions.set i none).filterMap id

theorem mem_others {c : Config δ κ ν ω π} {i : ℕ} {t : Session κ ν π} :
    t ∈ c.others i ↔ ∃ j, j ≠ i ∧ c.At j t := by
  have hmem : t ∈ c.others i ↔ some t ∈ c.sessions.set i none := by
    simp [others]
  rw [hmem, List.mem_iff_getElem?]
  refine exists_congr fun j => ?_
  rw [List.getElem?_set, At]
  by_cases h : i = j
  · split_ifs <;> simp [h]
  · simp [h, Ne.symm h]

end Config

namespace Machine

variable (M : Machine δ κ ν ω π)

/-- What a transaction sees: the committed database with its own writes. -/
def view (d : δ) (pending : List ν) : δ := pending.foldl (fun d w => M.apply w d) d

@[simp] theorem view_nil (d : δ) : M.view d [] = d := rfl

@[simp] theorem view_append (d : δ) (pending : List ν) (w : ν) :
    M.view d (pending ++ [w]) = M.apply w (M.view d pending) := by
  simp [view]

/-- One statement of a session. -/
def advance (d : δ) (w : ω) (s : Session κ ν π) : δ × ω × Session κ ν π :=
  match M.stmt s.pos with
  | .query next => (d, w, { s with pos := next (M.view d s.pending) })
  | .lock rows next =>
    (d, w, { s with
      pos := next (M.view d s.pending)
      held := rows (M.view d s.pending) ++ s.held })
  | .write wr next => (d, w, { s with pos := next, pending := s.pending ++ [wr] })
  | .act f next => (d, f w, { s with pos := next w })
  | .commit next => (M.view d s.pending, w, { pos := next (M.view d s.pending) })
  | .rollback next => (d, w, { pos := next })
  | .stop => (d, w, s)

/-- Only a commit changes the database. -/
theorem advance_db (d : δ) (w : ω) (s : Session κ ν π) :
    (M.advance d w s).1 = d ∨
      (∃ next, M.stmt s.pos = .commit next) ∧ (M.advance d w s).1 = M.view d s.pending := by
  unfold advance
  cases h : M.stmt s.pos with
  | commit next => exact .inr ⟨⟨next, rfl⟩, rfl⟩
  | _ => exact .inl rfl

variable [DecidableEq κ]

/-- Session `s` waits for a lock of session `t`. -/
def blocked (d : δ) (s t : Session κ ν π) : Bool :=
  match M.stmt s.pos with
  | .lock rows _ => (rows (M.view d s.pending)).any (· ∈ t.held)
  | _ => false

/-- The next configuration. -/
def next? (A : Schedule κ ν π) :
    Label π → Config δ κ ν ω π → Option (Config δ κ ν ω π)
  | .arrive p, c =>
    if M.start p then some { c with sessions := c.sessions ++ [some { pos := p }] } else none
  | .move i, c =>
    match c.sessions[i]? with
    | some (some s) =>
      if (c.others i).all fun t => !M.blocked c.db s t && A.move s t then
        some ⟨(M.advance c.db c.world s).1, (M.advance c.db c.world s).2.1,
          c.sessions.set i (some (M.advance c.db c.world s).2.2)⟩
      else none
    | _ => none
  | .raise i, c =>
    match c.sessions[i]? with
    | some (some s) =>
      if A.raise s then
        some { c with sessions := c.sessions.set i (some { pos := M.rescue s.pos }) }
      else none
    | _ => none
  | .leave i, c =>
    match c.sessions[i]? with
    | some (some s) =>
      if A.leave s then some { c with sessions := c.sessions.set i none } else none
    | _ => none

/-- One step of the system. -/
def Step (A : Schedule κ ν π) (c c' : Config δ κ ν ω π) : Prop :=
  ∃ l, M.next? A l c = some c'

/-- The configurations of the runs from an initial database. -/
def Reach (A : Schedule κ ν π) (init : δ → ω → Prop) (c : Config δ κ ν ω π) : Prop :=
  ∃ d w, init d w ∧ Relation.ReflTransGen (M.Step A) ⟨d, w, []⟩ c

/-- The configuration after a list of events, as long as they are possible. -/
def runLabels (A : Schedule κ ν π) :
    List (Label π) → Config δ κ ν ω π → Option (Config δ κ ν ω π)
  | [], c => some c
  | l :: ls, c => (M.next? A l c).bind (runLabels A ls)

variable {M} {A : Schedule κ ν π}

/-- The sessions hold no lock in common. -/
def Disjoint (s t : Session κ ν π) : Prop := ∀ row ∈ s.held, row ∉ t.held

/-- A lock is given to one session. -/
theorem Disjoint.advance {d : δ} {w : ω} {s t : Session κ ν π} (h : Disjoint s t)
    (hblocked : M.blocked d s t = false) : Disjoint (M.advance d w s).2.2 t := by
  intro row hrow
  unfold Machine.advance at hrow
  unfold blocked at hblocked
  cases hs : M.stmt s.pos with
  | lock rows next =>
    simp only [hs, List.any_eq_false, decide_eq_true_eq] at hrow hblocked
    rcases List.mem_append.1 hrow with hrow | hrow
    · exact hblocked row hrow
    · exact h row hrow
  | commit | rollback =>
    simp [hs] at hrow
  | query | write | act | stop =>
    simp only [hs] at hrow
    exact h row hrow

theorem steps_of_runLabels {ls : List (Label π)} {c c' : Config δ κ ν ω π}
    (h : M.runLabels A ls c = some c') : Relation.ReflTransGen (M.Step A) c c' := by
  induction ls generalizing c with
  | nil =>
    cases h
    exact .refl
  | cons l ls ih =>
    obtain ⟨c1, hl, hls⟩ := Option.bind_eq_some_iff.1 h
    exact .head ⟨l, hl⟩ (ih hls)

theorem Reach.runLabels {init : δ → ω → Prop} {d : δ} {w : ω} {ls : List (Label π)}
    {c : Config δ κ ν ω π} (hinit : init d w) (h : M.runLabels A ls ⟨d, w, []⟩ = some c) :
    M.Reach A init c :=
  ⟨d, w, hinit, steps_of_runLabels h⟩

/-- What a step is. -/
theorem step_cases {c c' : Config δ κ ν ω π} (h : M.Step A c c') :
    (∃ p, M.start p = true ∧ c' = { c with sessions := c.sessions ++ [some { pos := p }] }) ∨
    (∃ i s, c.At i s ∧ (∀ j t, j ≠ i → c.At j t → M.blocked c.db s t = false ∧ A.move s t = true) ∧
      c' = ⟨(M.advance c.db c.world s).1, (M.advance c.db c.world s).2.1,
        c.sessions.set i (some (M.advance c.db c.world s).2.2)⟩) ∨
    (∃ i s, c.At i s ∧ A.raise s = true ∧
      c' = { c with sessions := c.sessions.set i (some { pos := M.rescue s.pos }) }) ∨
    ∃ i s, c.At i s ∧ A.leave s = true ∧ c' = { c with sessions := c.sessions.set i none } := by
  obtain ⟨l, h⟩ := h
  cases l with
  | arrive p =>
    simp only [next?] at h
    split_ifs at h with hp
    cases h
    exact .inl ⟨p, hp, rfl⟩
  | move i =>
    simp only [next?] at h
    split at h
    · rename_i s hs
      split_ifs at h with hall
      cases h
      refine .inr (.inl ⟨i, s, hs, fun j t hj ht => ?_, rfl⟩)
      have hboth := List.all_eq_true.1 hall t (Config.mem_others.2 ⟨j, hj, ht⟩)
      simpa using hboth
    · cases h
  | raise i =>
    simp only [next?] at h
    split at h
    · rename_i s hs
      split_ifs at h with hraise
      cases h
      exact .inr (.inr (.inl ⟨i, s, hs, hraise, rfl⟩))
    · cases h
  | leave i =>
    simp only [next?] at h
    split at h
    · rename_i s hs
      split_ifs at h with hleave
      cases h
      exact .inr (.inr (.inr ⟨i, s, hs, hleave, rfl⟩))
    · cases h

end Machine

-- ════════════════════════════════════════════════════════════════════════
-- Disciplines
-- ════════════════════════════════════════════════════════════════════════

variable [DecidableEq κ]

/-- What sessions keep to: an invariant of the database and the world, one of each session beside
them, and one of each two sessions. -/
structure Discipline (M : Machine δ κ ν ω π) (A : Schedule κ ν π) (init : δ → ω → Prop) where
  Inv : δ → ω → Prop
  Ok : δ → ω → Session κ ν π → Prop
  Apart : Session κ ν π → Session κ ν π → Prop
  symm : ∀ {s t}, Apart s t → Apart t s
  initial : ∀ {d w}, init d w → Inv d w
  started : ∀ {d w p}, M.start p = true → Ok d w { pos := p } ∧ ∀ t, Apart { pos := p } t
  /-- A session keeps the invariant and its own. -/
  advance : ∀ {d w s}, Inv d w → Ok d w s →
    Inv (M.advance d w s).1 (M.advance d w s).2.1 ∧
      Ok (M.advance d w s).1 (M.advance d w s).2.1 (M.advance d w s).2.2
  /-- It disturbs no other. -/
  others : ∀ {d w s t}, Inv d w → Ok d w s → Ok d w t → Apart s t → M.blocked d s t = false →
    A.move s t = true →
    Ok (M.advance d w s).1 (M.advance d w s).2.1 t ∧ Apart (M.advance d w s).2.2 t
  raised : ∀ {d w s}, Inv d w → Ok d w s → A.raise s = true →
    Ok d w { pos := M.rescue s.pos } ∧ ∀ t, Apart s t → Apart { pos := M.rescue s.pos } t

namespace Discipline

variable {M : Machine δ κ ν ω π} {A : Schedule κ ν π} {init : δ → ω → Prop}
  (D : Discipline M A init) {c c' : Config δ κ ν ω π}

/-- The invariants of a configuration. -/
structure Good (c : Config δ κ ν ω π) : Prop where
  inv : D.Inv c.db c.world
  ok : ∀ i s, c.At i s → D.Ok c.db c.world s
  apart : ∀ i j s t, i ≠ j → c.At i s → c.At j t → D.Apart s t

variable {D}

/-- Replacing one session. -/
theorem Good.set {i : ℕ} {s : Session κ ν π} {d : δ} {w : ω} (h : D.Good c) (hinv : D.Inv d w)
    (hs : D.Ok d w s) (hothers : ∀ j t, j ≠ i → c.At j t → D.Ok d w t ∧ D.Apart s t) :
    D.Good ⟨d, w, c.sessions.set i (some s)⟩ := by
  have hat : ∀ j t, (c.sessions.set i (some s))[j]? = some (some t) →
      j = i ∧ t = s ∨ j ≠ i ∧ c.At j t := by
    intro j t hj
    rw [List.getElem?_set] at hj
    split_ifs at hj with hij hlt
    · cases hj
      exact .inl ⟨hij.symm, rfl⟩
    · exact .inr ⟨Ne.symm hij, hj⟩
  refine ⟨hinv, fun j t hj => ?_, fun j k t u hne hj hk => ?_⟩
  · rcases hat j t hj with ⟨-, rfl⟩ | ⟨hji, hold⟩
    · exact hs
    · exact (hothers j t hji hold).1
  · rcases hat j t hj with ⟨hji, rfl⟩ | ⟨hji, hold⟩
    · rcases hat k u hk with ⟨hki, -⟩ | ⟨hki, hold⟩
      · exact absurd (hji.trans hki.symm) hne
      · exact (hothers k u hki hold).2
    · rcases hat k u hk with ⟨-, rfl⟩ | ⟨-, hold'⟩
      · exact D.symm (hothers j t hji hold).2
      · exact h.apart j k t u hne hold hold'

theorem Good.step (h : D.Good c) (hs : M.Step A c c') : D.Good c' := by
  rcases Machine.step_cases hs with ⟨p, hp, rfl⟩ | ⟨i, s, hi, hmay, rfl⟩ | ⟨i, s, hi, hraise, rfl⟩ |
    ⟨i, s, hi, -, rfl⟩
  · obtain ⟨hok, hapart⟩ := D.started (d := c.db) (w := c.world) hp
    have hat : ∀ j t, (c.sessions ++ [some { pos := p }])[j]? = some (some t) →
        t = { pos := p } ∧ j = c.sessions.length ∨ j < c.sessions.length ∧ c.At j t := by
      intro j t hj
      rcases Nat.lt_trichotomy j c.sessions.length with hlt | heq | hgt
      · rw [List.getElem?_append_left hlt] at hj
        exact .inr ⟨hlt, hj⟩
      · subst heq
        rw [List.getElem?_concat_length] at hj
        cases hj
        exact .inl ⟨rfl, rfl⟩
      · rw [List.getElem?_eq_none (by simp; omega)] at hj
        cases hj
    refine ⟨h.inv, fun j t hj => ?_, fun j k t u hne hj hk => ?_⟩
    · rcases hat j t hj with ⟨rfl, -⟩ | ⟨-, hj⟩
      · exact hok
      · exact h.ok j t hj
    · rcases hat j t hj with ⟨rfl, hjl⟩ | ⟨hjl, hj⟩
      · exact hapart u
      · rcases hat k u hk with ⟨rfl, hkl⟩ | ⟨-, hk⟩
        · exact D.symm (hapart t)
        · exact h.apart j k t u hne hj hk
  · obtain ⟨hinv, hok⟩ := D.advance h.inv (h.ok i s hi)
    refine h.set hinv hok fun j t hj ht => ?_
    obtain ⟨hblocked, hadmits⟩ := hmay j t hj ht
    exact D.others h.inv (h.ok i s hi) (h.ok j t ht) (h.apart i j s t (Ne.symm hj) hi ht) hblocked
      hadmits
  · obtain ⟨hok, hapart⟩ := D.raised h.inv (h.ok i s hi) hraise
    exact h.set h.inv hok fun j t hj ht =>
      ⟨h.ok j t ht, hapart t (h.apart i j s t (Ne.symm hj) hi ht)⟩
  · have hat : ∀ j t, (c.sessions.set i none)[j]? = some (some t) → c.At j t := by
      intro j t hj
      rw [List.getElem?_set] at hj
      split_ifs at hj
      · cases hj
      · exact hj
    exact ⟨h.inv, fun j t hj => h.ok j t (hat j t hj), fun j k t u hne hj hk =>
      h.apart j k t u hne (hat j t hj) (hat k u hk)⟩

theorem Good.steps (h : D.Good c) (hs : Relation.ReflTransGen (M.Step A) c c') :
    D.Good c' := by
  induction hs with
  | refl => exact h
  | tail _ hs ih => exact ih.step hs

variable (D)

/-- **The invariants hold in every run.** -/
theorem holds (h : M.Reach A init c) : D.Good c := by
  obtain ⟨d, w, hinit, hsteps⟩ := h
  refine Good.steps (c := ⟨d, w, []⟩) ⟨D.initial hinit, fun i s hi => ?_, fun i j s t _ hi => ?_⟩
    hsteps
  all_goals simp [Config.At] at hi

/-- What the statements of sessions do to the database and the world, a run does. -/
theorem evolves {R : δ × ω → δ × ω → Prop} [IsPreorder (δ × ω) R]
    (hR : ∀ d w s, D.Inv d w → D.Ok d w s →
      R (d, w) ((M.advance d w s).1, (M.advance d w s).2.1))
    (h : M.Reach A init c) (hs : Relation.ReflTransGen (M.Step A) c c') :
    R (c.db, c.world) (c'.db, c'.world) := by
  induction hs with
  | refl => exact refl _
  | @tail c1 c2 hsteps hstep ih =>
    have hgood := (D.holds h).steps hsteps
    refine trans ih ?_
    rcases Machine.step_cases hstep with ⟨p, -, rfl⟩ | ⟨i, s, hi, -, rfl⟩ | ⟨i, s, -, -, rfl⟩ |
      ⟨i, s, -, -, rfl⟩
    · exact refl _
    · exact hR _ _ _ hgood.inv (hgood.ok i s hi)
    · exact refl _
    · exact refl _

/-- **A property of configurations** that every step keeps holds in every run. -/
theorem invariant {P : Config δ κ ν ω π → Prop} (hinit : ∀ d w, init d w → P ⟨d, w, []⟩)
    (hstep : ∀ c c', D.Good c → P c → M.Step A c c' → P c') (h : M.Reach A init c) : P c := by
  obtain ⟨d, w, hd, hsteps⟩ := h
  induction hsteps with
  | refl => exact hinit d w hd
  | tail hsteps hstep' ih => exact hstep _ _ (D.holds ⟨d, w, hd, hsteps⟩) ih hstep'

end Discipline

end Sessions
