import Mathlib.Data.List.Basic

/-!
# Events that overwrite

A state has cells, and an event writes some of them and keeps the others. What an event writes
depends on the event and on the part of the state that no event writes, so that of a run only the
last write of each cell counts, and a part of the run that comes again changes nothing.

## Main definitions

- `Overwriting` — states, events, and the cells that an event writes
- `Overwriting.run` — the events one after the other

## Main results

- `Overwriting.read_run` — a cell holds what was last written to it
- `Overwriting.run_replay` — the end of a run can come again
-/

namespace Streams

/-- States `S` with cells `C`, and a rest `R` that no event writes. -/
structure Overwriting (E S R : Type*) {C : Type*} (V : C → Type*) where
  apply : S → E → S
  read : S → (c : C) → V c
  rest : S → R
  /-- What an event writes to a cell, if it does. -/
  write : R → E → (c : C) → Option (V c)
  rest_apply : ∀ s e, rest (apply s e) = rest s
  read_apply : ∀ s e c, read (apply s e) c = (write (rest s) e c).getD (read s c)
  ext : ∀ {s s'}, rest s = rest s' → (∀ c, read s c = read s' c) → s = s'

namespace Overwriting

variable {E S R C : Type*} {V : C → Type*} (o : Overwriting E S R V)

/-- The events one after the other. -/
def run (s : S) (events : List E) : S := events.foldl o.apply s

/-- The writes of a cell in a run, in their order. -/
def writes (r : R) (events : List E) (c : C) : List (V c) := events.filterMap fun e => o.write r e c

theorem rest_run (s : S) (events : List E) : o.rest (o.run s events) = o.rest s := by
  induction events generalizing s with
  | nil => rfl
  | cons e events ih => exact (ih (o.apply s e)).trans (o.rest_apply s e)

/-- A cell that an event does not write keeps its value. -/
theorem read_apply_of_none {s : S} {e : E} {c : C} (h : o.write (o.rest s) e c = none) :
    o.read (o.apply s e) c = o.read s c := by
  rw [o.read_apply, h, Option.getD_none]

/-- **A cell holds the last write to it**, or its first value when there is none. -/
theorem read_run (s : S) (events : List E) (c : C) :
    o.read (o.run s events) c = (o.writes (o.rest s) events c).getLast?.getD (o.read s c) := by
  induction events generalizing s with
  | nil => rfl
  | cons e events ih =>
    have hrun : o.run s (e :: events) = o.run (o.apply s e) events := rfl
    rw [hrun, ih, o.rest_apply, o.read_apply]
    cases hwrite : o.write (o.rest s) e c with
    | none => rw [writes, writes, List.filterMap_cons_none hwrite, Option.getD_none]
    | some v =>
      rw [writes, writes, List.filterMap_cons_some hwrite, List.getLast?_cons, Option.getD_some,
        Option.getD_some]

/-- **Replay**: the end of a run can come again. -/
theorem run_replay {events again : List E} (h : again <:+ events) (s : S) :
    o.run s (events ++ again) = o.run s events := by
  obtain ⟨before, rfl⟩ := h
  refine o.ext ((o.rest_run s _).trans (o.rest_run s _).symm) fun c => ?_
  rw [read_run, read_run]
  simp only [writes, List.filterMap_append, List.getLast?_append]
  -- What comes again ends with the write that the run ended with.
  cases (again.filterMap fun e => o.write (o.rest s) e c).getLast? with
  | none => rfl
  | some v => rfl

end Overwriting

end Streams
