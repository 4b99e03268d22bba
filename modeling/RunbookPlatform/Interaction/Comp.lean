import Mathlib.Data.List.Basic

/-!
# Programs that talk to an environment

A program of a client makes calls, each answered by an environment that it does not
control, and goes on with the answer; it ends with a result or an exception. `Comp` is the
tree of such a program. A run of it is the list of its calls with their answers, and every
environment is a way to choose among the runs.

## Main definitions

- `Comp` — a program over calls `C` with answers `R`
- `Comp.Runs` — the runs: calls with answers, and the outcome
- `Comp.Always`, `Comp.May` — every call of every run, or some call of some run, has a property
- `Comp.Returns` — every result has a property
- `Comp.Traces` — the events of every run have a property
- `Comp.Guards` — every call has a property that may depend on the events before it
- `Comp.Wraps` — every run is a run of an inner program between other calls
- `Comp.play`, `Comp.respond` — the run against an environment without and with memory

## Main results

- `Comp.runs_bind`, `Comp.runs_tryCatch` — the runs of a sequence and of a handler
- `Comp.Always.bind`, `Comp.Always.tryCatch` — the rules for what all calls satisfy
- `Comp.May.bind_left`, `Comp.May.bind_right` — the rules for what may be called
- `Comp.play_runs` — what is played is a run

## Design notes

The tree is finite along every branch: a loop that waits for the environment carries a
bound on its turns. A property of all runs for all bounds is a property of every finite
prefix of the unbounded loop.
-/

namespace Interaction

/-- A program that ends with an `α` or an exception `ε`. -/
inductive Comp (C : Type) (R : C → Type) (ε α : Type) : Type where
  | done (r : Except ε α)
  | call (c : C) (k : R c → Comp C R ε α)

/-- A call and its answer. -/
abbrev Event (C : Type) (R : C → Type) : Type := (c : C) × R c

namespace Comp

variable {C : Type} {R : C → Type} {ε α β : Type}

/-- Sequencing; an exception ends the program. -/
def bind : Comp C R ε α → (α → Comp C R ε β) → Comp C R ε β
  | done (.ok a), f => f a
  | done (.error e), _ => done (.error e)
  | call c k, f => call c fun answer => bind (k answer) f

instance : Monad (Comp C R ε) where
  pure a := done (.ok a)
  bind := bind

/-- `raise`. -/
def fail (e : ε) : Comp C R ε α := done (.error e)

/-- `try`, with a handler that may raise again. -/
def tryCatch : Comp C R ε α → (ε → Comp C R ε α) → Comp C R ε α
  | done (.ok a), _ => done (.ok a)
  | done (.error e), handler => handler e
  | call c k, handler => call c fun answer => tryCatch (k answer) handler

/-- One call. -/
def request (c : C) : Comp C R ε (R c) := call c fun answer => done (.ok answer)

/-- A result, or an exception to raise. -/
def ofExcept (r : Except ε α) : Comp C R ε α := done r

-- ════════════════════════════════════════════════════════════════════════
-- Runs
-- ════════════════════════════════════════════════════════════════════════

/-- The program may make these calls, get these answers and end so. -/
def Runs : Comp C R ε α → List (Event C R) → Except ε α → Prop
  | done r, t, r' => t = [] ∧ r' = r
  | call c k, t, r => ∃ answer t', t = ⟨c, answer⟩ :: t' ∧ (k answer).Runs t' r

variable {x : Comp C R ε α} {f : α → Comp C R ε β} {t : List (Event C R)} {c : C} {a : α} {e : ε}

@[simp] theorem runs_pure {r : Except ε α} :
    (pure a : Comp C R ε α).Runs t r ↔ t = [] ∧ r = .ok a := Iff.rfl

@[simp] theorem runs_fail {r : Except ε α} :
    (fail e : Comp C R ε α).Runs t r ↔ t = [] ∧ r = .error e := Iff.rfl

@[simp] theorem runs_ofExcept {r r' : Except ε α} :
    (ofExcept r : Comp C R ε α).Runs t r' ↔ t = [] ∧ r' = r := Iff.rfl

@[simp] theorem runs_request {r : Except ε (R c)} :
    (request c : Comp C R ε (R c)).Runs t r ↔ ∃ answer, t = [⟨c, answer⟩] ∧ r = .ok answer := by
  constructor
  · rintro ⟨answer, _, rfl, rfl, rfl⟩
    exact ⟨answer, rfl, rfl⟩
  · rintro ⟨answer, rfl, rfl⟩
    exact ⟨answer, [], rfl, rfl, rfl⟩

/-- **Sequences** run the first program, and the second unless the first raises. -/
theorem runs_bind {r : Except ε β} :
    (x >>= f).Runs t r ↔
      (∃ e, r = .error e ∧ x.Runs t (.error e)) ∨
        ∃ a t₁ t₂, t = t₁ ++ t₂ ∧ x.Runs t₁ (.ok a) ∧ (f a).Runs t₂ r := by
  show (bind x f).Runs t r ↔ _
  induction x generalizing t with
  | done result =>
    cases result with
    | error e =>
      constructor
      · rintro ⟨rfl, rfl⟩
        exact .inl ⟨e, rfl, rfl, rfl⟩
      · rintro (⟨_, rfl, rfl, h⟩ | ⟨_, _, _, _, ⟨_, h⟩, _⟩)
        · cases h
          exact ⟨rfl, rfl⟩
        · cases h
    | ok a =>
      constructor
      · exact fun h => .inr ⟨a, [], t, rfl, ⟨rfl, rfl⟩, h⟩
      · rintro (⟨_, _, _, h⟩ | ⟨_, _, _, rfl, ⟨rfl, h⟩, hf⟩)
        · cases h
        · cases h
          exact hf
  | call c k ih =>
    constructor
    · rintro ⟨answer, t', rfl, h⟩
      rcases (ih answer).1 h with ⟨e, rfl, hx⟩ | ⟨a, t₁, t₂, rfl, hx, hf⟩
      · exact .inl ⟨e, rfl, answer, t', rfl, hx⟩
      · exact .inr ⟨a, ⟨c, answer⟩ :: t₁, t₂, rfl, ⟨answer, t₁, rfl, hx⟩, hf⟩
    · rintro (⟨e, rfl, answer, t', rfl, hx⟩ | ⟨a, _, t₂, rfl, ⟨answer, t₁, rfl, hx⟩, hf⟩)
      · exact ⟨answer, t', rfl, (ih answer).2 (.inl ⟨e, rfl, hx⟩)⟩
      · exact ⟨answer, t₁ ++ t₂, rfl, (ih answer).2 (.inr ⟨a, t₁, t₂, rfl, hx, hf⟩)⟩

/-- **Handlers** run after the exceptions of the program. -/
theorem runs_tryCatch {handler : ε → Comp C R ε α} {r : Except ε α} :
    (tryCatch x handler).Runs t r ↔
      (∃ a, r = .ok a ∧ x.Runs t (.ok a)) ∨
        ∃ e t₁ t₂, t = t₁ ++ t₂ ∧ x.Runs t₁ (.error e) ∧ (handler e).Runs t₂ r := by
  induction x generalizing t with
  | done result =>
    cases result with
    | ok a =>
      constructor
      · rintro ⟨rfl, rfl⟩
        exact .inl ⟨a, rfl, rfl, rfl⟩
      · rintro (⟨_, rfl, rfl, h⟩ | ⟨_, _, _, _, ⟨_, h⟩, _⟩)
        · cases h
          exact ⟨rfl, rfl⟩
        · cases h
    | error e =>
      constructor
      · exact fun h => .inr ⟨e, [], t, rfl, ⟨rfl, rfl⟩, h⟩
      · rintro (⟨_, _, _, h⟩ | ⟨_, _, _, rfl, ⟨rfl, h⟩, hhandler⟩)
        · cases h
        · cases h
          exact hhandler
  | call c k ih =>
    constructor
    · rintro ⟨answer, t', rfl, h⟩
      rcases (ih answer).1 h with ⟨a, rfl, hx⟩ | ⟨e, t₁, t₂, rfl, hx, hhandler⟩
      · exact .inl ⟨a, rfl, answer, t', rfl, hx⟩
      · exact .inr ⟨e, ⟨c, answer⟩ :: t₁, t₂, rfl, ⟨answer, t₁, rfl, hx⟩, hhandler⟩
    · rintro (⟨a, rfl, answer, t', rfl, hx⟩ | ⟨e, _, t₂, rfl, ⟨answer, t₁, rfl, hx⟩, hhandler⟩)
      · exact ⟨answer, t', rfl, (ih answer).2 (.inl ⟨a, rfl, hx⟩)⟩
      · exact ⟨answer, t₁ ++ t₂, rfl, (ih answer).2 (.inr ⟨e, t₁, t₂, rfl, hx, hhandler⟩)⟩

/-- A sequence that starts with a call runs on with the answer. -/
theorem runs_request_bind {f : R c → Comp C R ε β} {r : Except ε β} :
    (request c >>= f).Runs t r ↔ ∃ answer t', t = ⟨c, answer⟩ :: t' ∧ (f answer).Runs t' r :=
  Iff.rfl

/-- A sequence may run so. -/
theorem Runs.bind {t₁ t₂ : List (Event C R)} {r : Except ε β} (hx : x.Runs t₁ (.ok a))
    (hf : (f a).Runs t₂ r) : (x >>= f).Runs (t₁ ++ t₂) r :=
  runs_bind.2 (.inr ⟨a, t₁, t₂, rfl, hx, hf⟩)

/-- A program that ends well may run so under a handler. -/
theorem Runs.tryCatch {handler : ε → Comp C R ε α} (hx : x.Runs t (.ok a)) :
    (Comp.tryCatch x handler).Runs t (.ok a) :=
  runs_tryCatch.2 (.inl ⟨a, rfl, hx⟩)

/-- A program runs in every environment that answers. -/
theorem exists_runs [∀ c, Nonempty (R c)] (x : Comp C R ε α) : ∃ t r, x.Runs t r := by
  induction x with
  | done r => exact ⟨[], r, rfl, rfl⟩
  | call c k ih =>
    obtain ⟨answer⟩ : Nonempty (R c) := inferInstance
    obtain ⟨t, r, h⟩ := ih answer
    exact ⟨⟨c, answer⟩ :: t, r, answer, t, rfl, h⟩

-- ════════════════════════════════════════════════════════════════════════
-- What all calls satisfy
-- ════════════════════════════════════════════════════════════════════════

/-- Every call of every run satisfies `P`. -/
def Always (P : C → Prop) (x : Comp C R ε α) : Prop :=
  ∀ t r, x.Runs t r → ∀ event ∈ t, P event.1

namespace Always

variable {P : C → Prop}

theorem pure : Always P (pure a : Comp C R ε α) := by
  rintro _ _ ⟨rfl, -⟩
  exact fun _ h => nomatch h

theorem fail : Always P (fail e : Comp C R ε α) := by
  rintro _ _ ⟨rfl, -⟩
  exact fun _ h => nomatch h

theorem ofExcept {r : Except ε α} : Always P (ofExcept r : Comp C R ε α) := by
  rintro _ _ ⟨rfl, -⟩
  exact fun _ h => nomatch h

theorem request (h : P c) : Always P (request c : Comp C R ε (R c)) := by
  intro t r hrun event hevent
  obtain ⟨answer, rfl, -⟩ := runs_request.1 hrun
  cases List.mem_singleton.1 hevent
  exact h

/-- **Sequences**: the second program is only looked at after a result of the first. -/
theorem bind_of (hx : x.Always P) (hf : ∀ a t, x.Runs t (.ok a) → (f a).Always P) :
    (x >>= f).Always P := by
  intro t r hrun event hevent
  rcases runs_bind.1 hrun with ⟨e, -, h⟩ | ⟨a, t₁, t₂, rfl, h1, h2⟩
  · exact hx _ _ h event hevent
  · rcases List.mem_append.1 hevent with hevent | hevent
    · exact hx _ _ h1 event hevent
    · exact hf a t₁ h1 _ _ h2 event hevent

theorem bind (hx : x.Always P) (hf : ∀ a, (f a).Always P) : (x >>= f).Always P :=
  hx.bind_of fun a _ _ => hf a

theorem ite {p : Prop} [Decidable p] {y : Comp C R ε α} (hx : x.Always P) (hy : y.Always P) :
    (if p then x else y).Always P := by
  split
  · exact hx
  · exact hy

theorem mono {Q : C → Prop} (hx : x.Always P) (h : ∀ c, P c → Q c) : x.Always Q :=
  fun t r hrun event hevent => h _ (hx t r hrun event hevent)

theorem tryCatch {handler : ε → Comp C R ε α} (hx : x.Always P)
    (hhandler : ∀ e, (handler e).Always P) : (Comp.tryCatch x handler).Always P := by
  intro t r hrun event hevent
  rcases runs_tryCatch.1 hrun with ⟨a, -, h⟩ | ⟨e, t₁, t₂, rfl, h1, h2⟩
  · exact hx _ _ h event hevent
  · rcases List.mem_append.1 hevent with hevent | hevent
    · exact hx _ _ h1 event hevent
    · exact hhandler e _ _ h2 event hevent

end Always

-- ════════════════════════════════════════════════════════════════════════
-- What all results satisfy
-- ════════════════════════════════════════════════════════════════════════

/-- Every result satisfies `Q`. -/
def Returns (Q : α → Prop) (x : Comp C R ε α) : Prop := ∀ t a, x.Runs t (.ok a) → Q a

namespace Returns

variable {Q : β → Prop}

theorem pure {b : β} (h : Q b) : Returns Q (pure b : Comp C R ε β) := by
  rintro _ _ ⟨-, heq⟩
  exact Except.ok.inj heq ▸ h

theorem fail : Returns Q (fail e : Comp C R ε β) := by
  rintro _ _ ⟨-, heq⟩
  cases heq

theorem bind_of (hf : ∀ a t, x.Runs t (.ok a) → (f a).Returns Q) : (x >>= f).Returns Q := by
  intro t b hrun
  rcases runs_bind.1 hrun with ⟨e, heq, -⟩ | ⟨a, t₁, t₂, -, h1, h2⟩
  · cases heq
  · exact hf a t₁ h1 t₂ b h2

theorem bind (hf : ∀ a, (f a).Returns Q) : (x >>= f).Returns Q := bind_of fun a _ _ => hf a

theorem ofExcept {r : Except ε β} (h : ∀ b, r = .ok b → Q b) :
    Returns Q (ofExcept r : Comp C R ε β) := by
  rintro _ b ⟨-, heq⟩
  exact h b heq.symm

theorem ite {p : Prop} [Decidable p] {y z : Comp C R ε β} (hy : y.Returns Q) (hz : z.Returns Q) :
    (if p then y else z).Returns Q := by
  split
  · exact hy
  · exact hz

theorem tryCatch {y : Comp C R ε β} {handler : ε → Comp C R ε β} (hy : y.Returns Q)
    (hhandler : ∀ e, (handler e).Returns Q) : (Comp.tryCatch y handler).Returns Q := by
  intro t b hrun
  rcases runs_tryCatch.1 hrun with ⟨b', heq, h⟩ | ⟨e, t₁, t₂, -, -, h2⟩
  · exact hy t b (Except.ok.inj heq ▸ h)
  · exact hhandler e t₂ b h2

end Returns

-- ════════════════════════════════════════════════════════════════════════
-- What all traces satisfy
-- ════════════════════════════════════════════════════════════════════════

/-- The events of every run satisfy `Q`. -/
def Traces (Q : List (Event C R) → Prop) (x : Comp C R ε α) : Prop := ∀ t r, x.Runs t r → Q t

namespace Traces

variable {Q : List (Event C R) → Prop}

theorem pure (h : Q []) : Traces Q (pure a : Comp C R ε α) := by
  rintro _ _ ⟨rfl, -⟩
  exact h

theorem fail (h : Q []) : Traces Q (fail e : Comp C R ε α) := by
  rintro _ _ ⟨rfl, -⟩
  exact h

/-- Calls that `Q` does not see may come first. -/
theorem bind {P : C → Prop}
    (hQ : ∀ t₁ t₂ : List (Event C R), (∀ event ∈ t₁, P event.1) → Q t₂ → Q (t₁ ++ t₂)) (hnil : Q [])
    (hx : x.Always P) (hf : ∀ a t, x.Runs t (.ok a) → (f a).Traces Q) : (x >>= f).Traces Q := by
  intro t r hrun
  rcases runs_bind.1 hrun with ⟨e, -, h⟩ | ⟨a, t₁, t₂, rfl, h1, h2⟩
  · exact List.append_nil t ▸ hQ t [] (hx t _ h) hnil
  · exact hQ t₁ t₂ (hx t₁ _ h1) (hf a t₁ h1 t₂ r h2)

theorem ite {p : Prop} [Decidable p] {y : Comp C R ε α} (hx : x.Traces Q) (hy : y.Traces Q) :
    (if p then x else y).Traces Q := by
  split
  · exact hx
  · exact hy

theorem mono {Q' : List (Event C R) → Prop} (hx : x.Traces Q) (h : ∀ t, Q t → Q' t) :
    x.Traces Q' :=
  fun t r hrun => h t (hx t r hrun)

end Traces

-- ════════════════════════════════════════════════════════════════════════
-- What calls know
-- ════════════════════════════════════════════════════════════════════════

/-- After the events `seen`, every call satisfies `P` with the events before it. -/
def Guards (P : List (Event C R) → C → Prop) : List (Event C R) → Comp C R ε α → Prop
  | _, done _ => True
  | seen, call c k => P seen c ∧ ∀ answer, Guards P (seen ++ [⟨c, answer⟩]) (k answer)

namespace Guards

variable {P : List (Event C R) → C → Prop} {seen : List (Event C R)}

theorem pure : Guards P seen (pure a : Comp C R ε α) := trivial

theorem fail : Guards P seen (fail e : Comp C R ε α) := trivial

theorem request (h : P seen c) : Guards P seen (request c : Comp C R ε (R c)) :=
  ⟨h, fun _ => trivial⟩

/-- Calls that satisfy `P` whatever came before. -/
theorem of_always [∀ c, Nonempty (R c)] {Q : C → Prop} (hQ : ∀ seen c, Q c → P seen c)
    (hx : x.Always Q) : Guards P seen x := by
  induction x generalizing seen with
  | done r => trivial
  | call c k ih =>
    constructor
    · obtain ⟨answer⟩ : Nonempty (R c) := inferInstance
      obtain ⟨t, r, hrun⟩ := exists_runs (k answer)
      exact hQ _ _ (hx _ r ⟨answer, t, rfl, hrun⟩ ⟨c, answer⟩ List.mem_cons_self)
    · exact fun answer => ih answer fun t r hrun event hmem =>
        hx _ r ⟨answer, t, rfl, hrun⟩ event (List.mem_cons_of_mem _ hmem)

/-- **Sequences**: the second program knows the events of the first. -/
theorem bind (hx : Guards P seen x)
    (hf : ∀ a t, x.Runs t (.ok a) → Guards P (seen ++ t) (f a)) : Guards P seen (x >>= f) := by
  show Guards P seen (Comp.bind x f)
  induction x generalizing seen with
  | done r =>
    cases r with
    | error e => trivial
    | ok a => exact List.append_nil seen ▸ hf a [] ⟨rfl, rfl⟩
  | call c k ih =>
    refine ⟨hx.1, fun answer => ih answer (hx.2 answer) fun a t hrun => ?_⟩
    rw [List.append_assoc]
    exact hf a _ ⟨answer, t, rfl, hrun⟩

theorem tryCatch {handler : ε → Comp C R ε α} (hx : Guards P seen x)
    (hhandler : ∀ e t, x.Runs t (.error e) → Guards P (seen ++ t) (handler e)) :
    Guards P seen (Comp.tryCatch x handler) := by
  induction x generalizing seen with
  | done r =>
    cases r with
    | ok a => trivial
    | error e => exact List.append_nil seen ▸ hhandler e [] ⟨rfl, rfl⟩
  | call c k ih =>
    refine ⟨hx.1, fun answer => ih answer (hx.2 answer) fun e t hrun => ?_⟩
    rw [List.append_assoc]
    exact hhandler e _ ⟨answer, t, rfl, hrun⟩

theorem ite {p : Prop} [Decidable p] {y : Comp C R ε α} (hx : Guards P seen x)
    (hy : Guards P seen y) : Guards P seen (if p then x else y) := by
  split
  · exact hx
  · exact hy

/-- **A call** of a run satisfies `P` with the events before it. -/
theorem run {before after : List (Event C R)} {event : Event C R} {r : Except ε α}
    (hx : Guards P seen x) (hrun : x.Runs (before ++ event :: after) r) :
    P (seen ++ before) event.1 := by
  induction x generalizing seen before with
  | done result => exact absurd hrun.1 (by simp)
  | call c k ih =>
    obtain ⟨answer, t, ht, hrest⟩ := hrun
    cases before with
    | nil =>
      obtain ⟨rfl, -⟩ := List.cons.inj ht
      exact (List.append_nil seen).symm ▸ hx.1
    | cons first before =>
      obtain ⟨rfl, rfl⟩ := List.cons.inj ht
      rw [List.append_cons]
      exact ih answer (hx.2 answer) hrest

end Guards

-- ════════════════════════════════════════════════════════════════════════
-- What may be called
-- ════════════════════════════════════════════════════════════════════════

/-- Some call of some run satisfies `P`. -/
def May (P : C → Prop) (x : Comp C R ε α) : Prop :=
  ∃ t r, x.Runs t r ∧ ∃ event ∈ t, P event.1

namespace May

variable {P : C → Prop}

theorem request [∀ c, Nonempty (R c)] (h : P c) : May P (request c : Comp C R ε (R c)) := by
  obtain ⟨answer⟩ : Nonempty (R c) := inferInstance
  exact ⟨_, _, runs_request.2 ⟨answer, rfl, rfl⟩, ⟨c, answer⟩, List.mem_singleton_self _, h⟩

theorem bind_left [∀ c, Nonempty (R c)] (hx : x.May P) : (x >>= f).May P := by
  obtain ⟨t, r, hrun, event, hevent, h⟩ := hx
  cases r with
  | error e => exact ⟨t, .error e, runs_bind.2 (.inl ⟨e, rfl, hrun⟩), event, hevent, h⟩
  | ok a =>
    obtain ⟨t', r', hrest⟩ := exists_runs (f a)
    exact ⟨t ++ t', r', hrun.bind hrest, event, List.mem_append_left _ hevent, h⟩

theorem bind_right (hx : x.Runs t (.ok a)) (hf : (f a).May P) : (x >>= f).May P := by
  obtain ⟨t', r, hrun, event, hevent, h⟩ := hf
  exact ⟨t ++ t', r, hx.bind hrun, event, List.mem_append_right _ hevent, h⟩

theorem tryCatch [∀ c, Nonempty (R c)] {handler : ε → Comp C R ε α} (hx : x.May P) :
    (Comp.tryCatch x handler).May P := by
  obtain ⟨t, r, hrun, event, hevent, h⟩ := hx
  cases r with
  | ok a => exact ⟨t, .ok a, hrun.tryCatch, event, hevent, h⟩
  | error e =>
    obtain ⟨t', r', hrest⟩ := exists_runs (handler e)
    exact ⟨t ++ t', r', runs_tryCatch.2 (.inr ⟨e, t, t', rfl, hrun, hrest⟩), event,
      List.mem_append_left _ hevent, h⟩

end May

/-- What always holds of the calls holds of those that may be made. -/
theorem Always.may {P Q : C → Prop} (hx : x.Always P) (h : x.May Q) : ∃ c, P c ∧ Q c := by
  obtain ⟨t, r, hrun, event, hevent, hq⟩ := h
  exact ⟨event.1, hx t r hrun event hevent, hq⟩

-- ════════════════════════════════════════════════════════════════════════
-- Programs around others
-- ════════════════════════════════════════════════════════════════════════

/-- An element of three lists is in the first, splits the second or is in the third. -/
theorem split_append {E : Type} {event : E} {before after first inner last : List E}
    (h : before ++ event :: after = first ++ (inner ++ last)) :
    event ∈ first ∨ (∃ mid rest, before = first ++ mid ∧ inner = mid ++ event :: rest) ∨
      event ∈ last := by
  rcases List.append_eq_append_iff.1 h with ⟨mid, rfl, hrest⟩ | ⟨mid, rfl, hrest⟩
  · cases mid with
    | cons head mid =>
      obtain ⟨rfl, -⟩ := List.cons.inj hrest
      exact .inl (List.mem_append_right _ List.mem_cons_self)
    | nil =>
      cases inner with
      | nil =>
        have hlast : event :: after = last := hrest
        exact .inr (.inr (hlast ▸ List.mem_cons_self))
      | cons head inner =>
        obtain ⟨rfl, -⟩ := List.cons.inj hrest
        exact .inr (.inl ⟨[], inner, by simp, rfl⟩)
  · rcases List.append_eq_append_iff.1 hrest with ⟨mid', rfl, hlast⟩ | ⟨mid', rfl, hcons⟩
    · exact .inr (.inr (hlast ▸ List.mem_append_right _ List.mem_cons_self))
    · cases mid' with
      | nil =>
        have hlast : event :: after = last := hcons
        exact .inr (.inr (hlast ▸ List.mem_cons_self))
      | cons head mid' =>
        obtain ⟨rfl, -⟩ := List.cons.inj hcons
        exact .inr (.inl ⟨mid, mid', rfl, rfl⟩)

/-- Every run of `x` is a run of `y`, or nothing, between calls that satisfy `P`. -/
def Wraps (P : C → Prop) (y : Comp C R ε β) (x : Comp C R ε α) : Prop :=
  ∀ t r, x.Runs t r → ∃ before inner after, t = before ++ inner ++ after ∧
    (∀ event ∈ before ++ after, P event.1) ∧ (inner = [] ∨ ∃ r', y.Runs inner r')

namespace Wraps

variable {γ : Type} {P : C → Prop} {y : Comp C R ε γ}

theorem refl : y.Wraps P y :=
  fun t r hrun => ⟨[], t, [], by simp, fun _ h => (List.not_mem_nil h).elim, .inr ⟨r, hrun⟩⟩

theorem of_always (hx : x.Always P) : y.Wraps P x :=
  fun t r hrun =>
    ⟨t, [], [], by simp, fun event h => hx t r hrun event (by simpa using h), .inl rfl⟩

theorem bind_right (hx : x.Always P) (hf : ∀ a, y.Wraps P (f a)) : y.Wraps P (x >>= f) := by
  intro t r hrun
  rcases runs_bind.1 hrun with ⟨e, rfl, h⟩ | ⟨a, t₁, t₂, rfl, h1, h2⟩
  · exact of_always hx t (.error e) h
  · obtain ⟨before, inner, after, rfl, hothers, hinner⟩ := hf a t₂ r h2
    refine ⟨t₁ ++ before, inner, after, by simp, fun event hevent => ?_, hinner⟩
    rw [List.append_assoc] at hevent
    rcases List.mem_append.1 hevent with hevent | hevent
    · exact hx t₁ _ h1 event hevent
    · exact hothers event hevent

theorem bind_left (hx : y.Wraps P x) (hf : ∀ a, (f a).Always P) : y.Wraps P (x >>= f) := by
  intro t r hrun
  rcases runs_bind.1 hrun with ⟨e, rfl, h⟩ | ⟨a, t₁, t₂, rfl, h1, h2⟩
  · exact hx t (.error e) h
  · obtain ⟨before, inner, after, rfl, hothers, hinner⟩ := hx t₁ _ h1
    refine ⟨before, inner, after ++ t₂, by simp, fun event hevent => ?_, hinner⟩
    rw [← List.append_assoc] at hevent
    rcases List.mem_append.1 hevent with hevent | hevent
    · exact hothers event hevent
    · exact hf a t₂ r h2 event hevent

theorem tryCatch {handler : ε → Comp C R ε α} (hx : y.Wraps P x)
    (hhandler : ∀ e, (handler e).Always P) : y.Wraps P (Comp.tryCatch x handler) := by
  intro t r hrun
  rcases runs_tryCatch.1 hrun with ⟨a, rfl, h⟩ | ⟨e, t₁, t₂, rfl, h1, h2⟩
  · exact hx t (.ok a) h
  · obtain ⟨before, inner, after, rfl, hothers, hinner⟩ := hx t₁ _ h1
    refine ⟨before, inner, after ++ t₂, by simp, fun event hevent => ?_, hinner⟩
    rw [← List.append_assoc] at hevent
    rcases List.mem_append.1 hevent with hevent | hevent
    · exact hothers event hevent
    · exact hhandler e t₂ r h2 event hevent

/-- What all calls of the inner program satisfy, and those around it, all calls satisfy. -/
theorem always {Q : C → Prop} (hx : y.Wraps P x) (hP : ∀ c, P c → Q c) (hy : y.Always Q) :
    x.Always Q := by
  intro t r hrun event hevent
  obtain ⟨before, inner, after, rfl, hothers, hinner⟩ := hx t r hrun
  simp only [List.mem_append] at hevent hothers
  rcases hevent with (hbefore | hmem) | hafter
  · exact hP _ (hothers event (.inl hbefore))
  · rcases hinner with rfl | ⟨r', hrun'⟩
    · cases hmem
    · exact hy inner r' hrun' event hmem
  · exact hP _ (hothers event (.inr hafter))

/-- What guards the inner program, whatever came before, guards its calls in every run. -/
theorem guards {Q : List (Event C R) → C → Prop} (hx : y.Wraps P x)
    (hP : ∀ seen c, P c → Q seen c) (hy : ∀ seen, Guards Q seen y) {before after : List (Event C R)}
    {event : Event C R} {r : Except ε α} (hrun : x.Runs (before ++ event :: after) r) :
    Q before event.1 := by
  obtain ⟨first, inner, last, ht, hothers, hinner⟩ := hx _ r hrun
  rw [List.append_assoc] at ht
  rcases split_append ht with hmem | ⟨mid, rest, rfl, rfl⟩ | hmem
  · exact hP _ _ (hothers event (List.mem_append_left _ hmem))
  · obtain ⟨r', hrun'⟩ := hinner.resolve_left (by simp)
    exact (hy first).run hrun'
  · exact hP _ _ (hothers event (List.mem_append_right _ hmem))

end Wraps

-- ════════════════════════════════════════════════════════════════════════
-- Playing a run
-- ════════════════════════════════════════════════════════════════════════

/-- The run against an environment that answers each call in the same way every time. -/
def play (answer : (c : C) → R c) : Comp C R ε α → List (Event C R) × Except ε α
  | done r => ([], r)
  | call c k =>
    let rest := play answer (k (answer c))
    (⟨c, answer c⟩ :: rest.1, rest.2)

theorem play_runs (answer : (c : C) → R c) (x : Comp C R ε α) :
    x.Runs (x.play answer).1 (x.play answer).2 := by
  induction x with
  | done r => exact ⟨rfl, rfl⟩
  | call c k ih => exact ⟨answer c, _, rfl, ih (answer c)⟩

/-- The run against an environment that answers by what was called before: the calls so far, with
those of the run, and the outcome. -/
def respond (answer : List (Event C R) → (c : C) → R c) :
    List (Event C R) → Comp C R ε α → List (Event C R) × Except ε α
  | seen, done r => (seen, r)
  | seen, call c k => respond answer (seen ++ [⟨c, answer seen c⟩]) (k (answer seen c))

theorem respond_runs (answer : List (Event C R) → (c : C) → R c) (x : Comp C R ε α) :
    ∀ seen, ∃ t, (x.respond answer seen).1 = seen ++ t ∧ x.Runs t (x.respond answer seen).2 := by
  induction x with
  | done r => exact fun seen => ⟨[], (List.append_nil _).symm, rfl, rfl⟩
  | call c k ih =>
    intro seen
    obtain ⟨t, hseen, hrun⟩ := ih (answer seen c) (seen ++ [⟨c, answer seen c⟩])
    exact ⟨⟨c, answer seen c⟩ :: t, hseen.trans (List.append_assoc _ _ _), answer seen c, t, rfl,
      hrun⟩

end Comp

end Interaction
