import Mathlib.Data.List.Basic

/-!
# Calls under autocommit

Any number of calls run programs against one database. Every statement is a transaction of its
own: it reads and writes at once, and what it wrote stays when the call fails at the next one.
Nothing is locked between two statements of a call.

## Main definitions

- `Autocommit`, `Calls` — programs; the database with the calls in progress
- `Autocommit.step?` — one event of the system
- `Along`, `Throughout` — a property of the states of a run; a condition on its steps

## Main results

- `along_iff_throughout` — where every step keeps a property exactly under a condition, a run has
  the property all along exactly when all its steps meet the condition
-/

namespace Sessions

variable {σ ε δ π : Type}

-- ════════════════════════════════════════════════════════════════════════
-- Runs
-- ════════════════════════════════════════════════════════════════════════

/-- `P` holds in every state of the run from `s`. An event that cannot happen ends the run. -/
def Along (step? : σ → ε → Option σ) (P : σ → Prop) (s : σ) : List ε → Prop
  | [] => P s
  | e :: es => P s ∧ ∀ t, step? s e = some t → Along step? P t es

/-- Every step of the run from `s` meets the condition `A`. -/
def Throughout (step? : σ → ε → Option σ) (A : σ → ε → Prop) (s : σ) : List ε → Prop
  | [] => True
  | e :: es => ∀ t, step? s e = some t → A s e ∧ Throughout step? A t es

section Runs

variable {step? : σ → ε → Option σ} {P : σ → Prop} {A : σ → ε → Prop} {s t : σ}

theorem Along.head {es : List ε} (h : Along step? P s es) : P s := by
  cases es with
  | nil => exact h
  | cons e es => exact h.1

/-- The state that a run ends in has the property. -/
theorem Along.last {es : List ε} (h : Along step? P s es) (hrun : es.foldlM step? s = some t) :
    P t := by
  induction es generalizing s with
  | nil => exact Option.some.inj hrun ▸ h
  | cons e es ih =>
    rw [List.foldlM_cons] at hrun
    obtain ⟨u, hu, hrest⟩ := Option.bind_eq_some_iff.1 hrun
    exact ih (h.2 u hu) hrest

/-- **Exact conditions carry over to runs.** -/
theorem along_iff_throughout {I : σ → Prop}
    (hinv : ∀ s e t, I s → step? s e = some t → I t)
    (hexact : ∀ s e t, I s → P s → step? s e = some t → (P t ↔ A s e))
    (hI : I s) (hP : P s) (es : List ε) : Along step? P s es ↔ Throughout step? A s es := by
  induction es generalizing s with
  | nil => exact ⟨fun _ => trivial, fun _ => hP⟩
  | cons e es ih =>
    constructor
    · intro h t ht
      have hPt := (h.2 t ht).head
      exact ⟨(hexact s e t hI hP ht).1 hPt, (ih (hinv s e t hI ht) hPt).1 (h.2 t ht)⟩
    · intro h
      refine ⟨hP, fun t ht => ?_⟩
      obtain ⟨hA, hrest⟩ := h t ht
      exact (ih (hinv s e t hI ht) ((hexact s e t hI hP ht).2 hA)).2 hrest

end Runs

-- ════════════════════════════════════════════════════════════════════════
-- Calls
-- ════════════════════════════════════════════════════════════════════════

/-- Programs over databases `δ` with positions `π`. -/
structure Autocommit (δ π : Type) where
  /-- Where a program may begin. -/
  start : π → Bool
  /-- What the statement at a position writes, and where the program goes on, if it does. -/
  statement : δ → π → δ × Option π

/-- The database and the calls; `none` stands for a call that has ended. -/
structure Calls (δ π : Type) where
  db : δ
  calls : List (Option π) := []

/-- What can happen next: a call begins, executes its next statement, or fails before it. -/
inductive CallEvent (π : Type) where
  | arrive (p : π)
  | advance (i : ℕ)
  | fail (i : ℕ)

/-- One event of the system, if it can happen. -/
def Autocommit.step? (M : Autocommit δ π) (s : Calls δ π) : CallEvent π → Option (Calls δ π)
  | .arrive p => if M.start p then some { s with calls := s.calls ++ [some p] } else none
  | .advance i =>
    match s.calls[i]? with
    | some (some p) => some ⟨(M.statement s.db p).1, s.calls.set i (M.statement s.db p).2⟩
    | _ => none
  | .fail i =>
    match s.calls[i]? with
    | some (some _) => some { s with calls := s.calls.set i none }
    | _ => none

namespace Calls

/-- Call `i` is in progress, before the statement at `p`. -/
def At (s : Calls δ π) (i : ℕ) (p : π) : Prop := s.calls[i]? = some (some p)

variable {s : Calls δ π} {i j : ℕ} {p q : π}

theorem At.inj (h : s.At i p) (h' : s.At i q) : p = q :=
  Option.some.inj (Option.some.inj (h.symm.trans h'))

/-- The calls after call `i` has gone on with `next`. -/
theorem at_set (h : s.At i p) (d : δ) (next : Option π) :
    (⟨d, s.calls.set i next⟩ : Calls δ π).At j q ↔ j = i ∧ next = some q ∨ j ≠ i ∧ s.At j q := by
  have hi : i < s.calls.length := (List.getElem?_eq_some_iff.1 h).1
  rw [At, List.getElem?_set]
  by_cases hj : i = j
  · subst hj
    simp [hi]
  · simp [hj, Ne.symm hj, At]

/-- The calls after another has begun. -/
theorem at_append (p : π) : ({ s with calls := s.calls ++ [some p] } : Calls δ π).At j q ↔
    j = s.calls.length ∧ q = p ∨ s.At j q := by
  rw [At, List.getElem?_append]
  by_cases hj : j < s.calls.length
  · simp [hj, Nat.ne_of_lt hj, At]
  · rw [if_neg hj]
    have hnone : ¬s.At j q := fun h => hj (List.getElem?_eq_some_iff.1 h).1
    constructor
    · intro h
      obtain ⟨hlt, hq⟩ := List.getElem?_eq_some_iff.1 h
      simp only [List.length_cons, List.length_nil] at hlt
      refine .inl ⟨by omega, ?_⟩
      simpa using hq.symm
    · rintro (⟨rfl, rfl⟩ | h)
      · simp
      · exact absurd h hnone

end Calls

namespace Autocommit

variable {M : Autocommit δ π} {s t : Calls δ π}

/-- What one event does. -/
theorem step?_cases {event : CallEvent π} (h : M.step? s event = some t) :
    (∃ p, event = .arrive p ∧ M.start p = true ∧ t = { s with calls := s.calls ++ [some p] }) ∨
    (∃ i p, event = .advance i ∧ s.At i p ∧
      t = ⟨(M.statement s.db p).1, s.calls.set i (M.statement s.db p).2⟩) ∨
    ∃ i p, event = .fail i ∧ s.At i p ∧ t = ⟨s.db, s.calls.set i none⟩ := by
  cases event with
  | arrive p =>
    simp only [step?] at h
    split_ifs at h with hstart
    exact .inl ⟨p, rfl, hstart, (Option.some.inj h).symm⟩
  | advance i =>
    simp only [step?] at h
    split at h
    · exact .inr (.inl ⟨i, _, rfl, ‹_›, (Option.some.inj h).symm⟩)
    · cases h
  | fail i =>
    simp only [step?] at h
    split at h
    · exact .inr (.inr ⟨i, _, rfl, ‹_›, (Option.some.inj h).symm⟩)
    · cases h

end Autocommit

end Sessions
