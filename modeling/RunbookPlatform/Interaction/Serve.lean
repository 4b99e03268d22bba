import RunbookPlatform.Interaction.Comp

/-!
# Environments with a state

An environment that answers each call from a state of its own, which the call may change. A
program served by it has one run, which is computed piece by piece along the program.

## Main definitions

- `Comp.serve` — the outcome of a program, and the state it leaves

## Main results

- `Comp.serve_bind`, `Comp.serve_tryCatch` — the outcome of a sequence and of a handler
- `Comp.serve_runs` — what is served is a run
- `Comp.Always.serve` — what all calls of a program keep is kept
-/

namespace Interaction.Comp

variable {C σ : Type} {R : C → Type} {ε α β : Type}

/-- The outcome of the program against an environment in a state, and the state it leaves. -/
def serve (env : σ → (c : C) → R c × σ) : σ → Comp C R ε α → Except ε α × σ
  | s, done r => (r, s)
  | s, call c k => serve env (env s c).2 (k (env s c).1)

variable {env : σ → (c : C) → R c × σ} {s : σ} {x : Comp C R ε α} {f : α → Comp C R ε β}

@[simp] theorem serve_pure {a : α} : serve env s (pure a : Comp C R ε α) = (.ok a, s) := rfl

@[simp] theorem serve_fail {e : ε} : serve env s (fail e : Comp C R ε α) = (.error e, s) := rfl

@[simp] theorem serve_ofExcept {r : Except ε α} : serve env s (ofExcept r) = (r, s) := rfl

@[simp] theorem serve_request {c : C} :
    serve env s (request c : Comp C R ε (R c)) = (.ok (env s c).1, (env s c).2) := rfl

/-- **Sequences** go on in the state that the first program leaves. -/
theorem serve_bind :
    serve env s (x >>= f) =
      match serve env s x with
      | (.ok a, s') => serve env s' (f a)
      | (.error e, s') => (.error e, s') := by
  show serve env s (bind x f) = _
  induction x generalizing s with
  | done r => cases r <;> rfl
  | call c k ih => exact ih (env s c).1

/-- A call comes before the rest. -/
theorem serve_request_bind {c : C} {f : R c → Comp C R ε β} :
    serve env s (request c >>= f) = serve env (env s c).2 (f (env s c).1) := rfl

theorem serve_bind_ok {a : α} {s' : σ} (h : serve env s x = (.ok a, s')) :
    serve env s (x >>= f) = serve env s' (f a) := by
  rw [serve_bind, h]

theorem serve_map {g : α → β} :
    serve env s (g <$> x) =
      match serve env s x with
      | (.ok a, s') => (.ok (g a), s')
      | (.error e, s') => (.error e, s') := serve_bind

/-- **A handler** goes on in the state in which the exception was raised. -/
theorem serve_tryCatch {handler : ε → Comp C R ε α} :
    serve env s (x.tryCatch handler) =
      match serve env s x with
      | (.ok a, s') => (.ok a, s')
      | (.error e, s') => serve env s' (handler e) := by
  induction x generalizing s with
  | done r => cases r <;> rfl
  | call c k ih => exact ih (env s c).1

/-- What is served is a run. -/
theorem serve_runs (env : σ → (c : C) → R c × σ) (s : σ) (x : Comp C R ε α) :
    ∃ t, x.Runs t (serve env s x).1 := by
  induction x generalizing s with
  | done r => exact ⟨[], rfl, rfl⟩
  | call c k ih =>
    obtain ⟨t, hrun⟩ := ih (env s c).1 (env s c).2
    exact ⟨⟨c, (env s c).1⟩ :: t, (env s c).1, t, rfl, hrun⟩


/-- **An invariant** of the environment that all calls of the program keep is kept. -/
theorem Always.serve {P : C → Prop} {I : σ → Prop} (hx : x.Always P)
    (hstep : ∀ s c, P c → I s → I (env s c).2) (hs : I s) : I (Comp.serve env s x).2 := by
  induction x generalizing s with
  | done r => exact hs
  | call c k ih =>
    obtain ⟨t, hrun⟩ := serve_runs env (env s c).2 (k (env s c).1)
    have hc : P c := hx _ _ ⟨(env s c).1, t, rfl, hrun⟩ _ List.mem_cons_self
    refine ih (env s c).1 (fun t r hrun event hevent => ?_) (hstep s c hc hs)
    exact hx _ r ⟨(env s c).1, t, rfl, hrun⟩ event (List.mem_cons_of_mem _ hevent)

end Interaction.Comp
