import RunbookPlatform.Interaction.Comp

/-!
# Programs at work

A program that has made some of its calls, with what is left of it. The answers come one at
a time, so that an environment can go on in between.

## Main definitions

- `Session` — the calls so far and the rest of the program
- `Session.Of` — the session is at work on a program
- `Session.Made` — the session has made a call, or is waiting for its answer
- `Session.advance` — the session after some answers

## Main results

- `Session.Of.reply` — a session that gets an answer is still at work
- `Session.Made.exists_run` — a call that was made is one of a run of the program
-/

namespace Interaction

/-- A program at work: the calls that were answered, and the rest. -/
structure Session (C : Type) (R : C → Type) (ε α : Type) where
  seen : List (Event C R)
  rest : Comp C R ε α

namespace Session

variable {C : Type} {R : C → Type} {ε α : Type} {x : Comp C R ε α} {p q : Session C R ε α} {c : C}

/-- No call has been answered. -/
def start (x : Comp C R ε α) : Session C R ε α := ⟨[], x⟩

/-- The session waits for the answer to a call, and gets it. -/
inductive Reply (c : C) (answer : R c) : Session C R ε α → Session C R ε α → Prop
  | intro {seen k} : Reply c answer ⟨seen, .call c k⟩ ⟨seen ++ [⟨c, answer⟩], k answer⟩

/-- The calls were made, and the rest is what is left, in runs of `x`. -/
def Of (x : Comp C R ε α) (p : Session C R ε α) : Prop :=
  ∀ t r, p.rest.Runs t r → x.Runs (p.seen ++ t) r

/-- The call was answered, or is the next. -/
def Made (p : Session C R ε α) (c : C) : Prop :=
  (∃ event ∈ p.seen, event.1 = c) ∨ ∃ k, p.rest = .call c k

theorem of_start (x : Comp C R ε α) : (start x).Of x := fun _ _ h => h

theorem Of.reply {answer : R c} (h : p.Of x) (hreply : Reply c answer p q) : q.Of x := by
  obtain ⟨⟩ := hreply
  intro t r hrun
  rw [List.append_assoc]
  exact h _ r ⟨answer, t, rfl, hrun⟩

theorem Reply.seen {answer : R c} (h : Reply c answer p q) : q.seen = p.seen ++ [⟨c, answer⟩] := by
  obtain ⟨⟩ := h
  rfl

/-- What was made stays made. -/
theorem Made.reply {c' : C} {answer : R c'} (h : p.Made c) (hreply : Reply c' answer p q) :
    q.Made c := by
  obtain ⟨⟩ := hreply
  rcases h with ⟨event, hevent, rfl⟩ | ⟨k, hk⟩
  · exact .inl ⟨event, List.mem_append_left _ hevent, rfl⟩
  · cases hk
    exact .inl ⟨_, List.mem_append_right _ (List.mem_singleton_self _), rfl⟩

/-- **A call that was made** is one of a run of the program, after events that were seen. -/
theorem Made.exists_run [∀ c, Nonempty (R c)] (h : p.Made c) (hp : p.Of x) :
    ∃ before answer after r, (∀ event ∈ before, event ∈ p.seen) ∧
      x.Runs (before ++ ⟨c, answer⟩ :: after) r := by
  obtain ⟨seen, rest⟩ := p
  rcases h with ⟨event, hevent, rfl⟩ | ⟨k, rfl⟩
  · obtain ⟨before, after, rfl⟩ := List.append_of_mem hevent
    obtain ⟨t, r, hrun⟩ := rest.exists_runs
    refine ⟨before, event.2, after ++ t, r, fun e he => List.mem_append_left _ he, ?_⟩
    have hx := hp t r hrun
    rw [List.append_assoc] at hx
    exact hx
  · obtain ⟨answer⟩ : Nonempty (R c) := inferInstance
    obtain ⟨t, r, hrun⟩ := (k answer).exists_runs
    exact ⟨seen, answer, t, r, fun _ he => he, hp _ r ⟨answer, t, rfl, hrun⟩⟩

/-- The next `n` calls are answered, each in the same way every time. -/
def advance (answer : (c : C) → R c) : ℕ → Session C R ε α → Session C R ε α
  | 0, p => p
  | _ + 1, ⟨seen, .done r⟩ => ⟨seen, .done r⟩
  | n + 1, ⟨seen, .call c k⟩ => advance answer n ⟨seen ++ [⟨c, answer c⟩], k (answer c)⟩

theorem mem_advance {answer : (c : C) → R c} {n : ℕ} {event : Event C R} (h : event ∈ p.seen) :
    event ∈ (p.advance answer n).seen := by
  induction n generalizing p with
  | zero => exact h
  | succ n ih =>
    obtain ⟨seen, rest⟩ := p
    cases rest with
    | done r => exact h
    | call c k => exact ih (List.mem_append_left _ h)

end Session

end Interaction
