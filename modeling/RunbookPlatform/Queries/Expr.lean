import Mathlib.Data.List.Basic

/-!
# Query expressions

Conditions on the rows of a query are composed with `&` and `|`. The empty expression restricts
nothing, and either composition drops an operand that is empty: for `&` that is the meaning of
the two operands, for `|` it is not, as the other operand alone decides.

A query over related rows is over the joined rows: one of each relation, or none where the
relation is empty.

## Main definitions

- `Q`, `Q.conj`, `Q.disj`, `Q.holds` — expressions, `&`, `|`, and their meaning
- `anyOf` — the disjunction of expressions one after another
- `leftJoin` — the related rows that a joined row can have

## Main results

- `Q.holds_conj`, `Q.holds_disj` — what `&` and `|` mean
- `holds_anyOf` — a disjunction means that of the expressions that are not empty, if any
-/

namespace Queries

variable {ρ : Type}

/-- A condition on rows. -/
inductive Q (ρ : Type) where
  | empty
  | atom (p : ρ → Bool)
  | both (a b : Q ρ)
  | either (a b : Q ρ)
  deriving Inhabited

namespace Q

/-- The expression restricts nothing. -/
def isEmpty : Q ρ → Bool
  | empty => true
  | _ => false

/-- `a & b`. -/
def conj (a b : Q ρ) : Q ρ :=
  if a.isEmpty then b else if b.isEmpty then a else .both a b

/-- `a | b`. -/
def disj (a b : Q ρ) : Q ρ :=
  if a.isEmpty then b else if b.isEmpty then a else .either a b

/-- The row satisfies the expression. -/
def holds : Q ρ → ρ → Bool
  | empty, _ => true
  | atom p, r => p r
  | both a b, r => a.holds r && b.holds r
  | either a b, r => a.holds r || b.holds r

variable {a b : Q ρ} {r : ρ}

theorem isEmpty_iff : a.isEmpty = true ↔ a = empty := by
  cases a <;> simp [isEmpty]

theorem holds_of_isEmpty (h : a.isEmpty = true) : a.holds r = true := by
  rw [isEmpty_iff.1 h, holds]

@[simp] theorem isEmpty_conj : (a.conj b).isEmpty = (a.isEmpty && b.isEmpty) := by
  unfold conj
  split_ifs with ha hb <;> simp_all [isEmpty]

@[simp] theorem isEmpty_disj : (a.disj b).isEmpty = (a.isEmpty && b.isEmpty) := by
  unfold disj
  split_ifs with ha hb <;> simp_all [isEmpty]

/-- `&` means the conjunction. -/
@[simp] theorem holds_conj : (a.conj b).holds r = (a.holds r && b.holds r) := by
  unfold conj
  split_ifs with ha hb
  · rw [holds_of_isEmpty ha, Bool.true_and]
  · rw [holds_of_isEmpty hb, Bool.and_true]
  · rfl

/-- `|` means the disjunction when both operands restrict something. -/
theorem holds_disj (ha : a.isEmpty = false) (hb : b.isEmpty = false) :
    (a.disj b).holds r = (a.holds r || b.holds r) := by
  simp [disj, ha, hb, holds]

end Q

/-- Expressions joined by `|`, one after another. -/
def anyOf (qs : List (Q ρ)) : Q ρ := qs.foldl .disj .empty

theorem foldl_disj_isEmpty {qs : List (Q ρ)} {q : Q ρ} :
    (qs.foldl .disj q).isEmpty = true ↔ q.isEmpty = true ∧ ∀ p ∈ qs, p.isEmpty = true := by
  induction qs generalizing q with
  | nil => simp
  | cons p qs ih => simp [ih, and_assoc]

theorem holds_foldl_disj {qs : List (Q ρ)} {q : Q ρ} {r : ρ} (hq : q.isEmpty = false) :
    (qs.foldl .disj q).holds r = true ↔
      q.holds r = true ∨ ∃ p ∈ qs, p.isEmpty = false ∧ p.holds r = true := by
  induction qs generalizing q with
  | nil => simp
  | cons p qs ih =>
    rw [List.foldl_cons, ih (by simp [hq])]
    cases hp : p.isEmpty with
    | true => simp [Q.disj, hq, hp]
    | false => simp [Q.holds_disj hq hp, hp, or_assoc]

/-- **A disjunction** of empty expressions restricts nothing, and otherwise the expressions that
are not empty decide alone. -/
theorem holds_anyOf {qs : List (Q ρ)} {r : ρ} :
    (anyOf qs).holds r = true ↔
      (∀ q ∈ qs, q.isEmpty = true) ∨ ∃ q ∈ qs, q.isEmpty = false ∧ q.holds r = true := by
  induction qs with
  | nil => simp [anyOf, Q.holds]
  | cons q qs ih =>
    have hfirst : anyOf (q :: qs) = qs.foldl .disj q := by simp [anyOf, Q.disj, Q.isEmpty]
    cases hq : q.isEmpty with
    | true =>
      have hrest : anyOf (q :: qs) = anyOf qs := by rw [hfirst, Q.isEmpty_iff.1 hq, anyOf]
      rw [hrest, ih]
      simp [hq]
    | false =>
      rw [hfirst, holds_foldl_disj hq]
      simp [hq]

/-- What a joined row has of a relation: one of the related rows, or none if there are none. -/
def leftJoin {α : Type} (rows : List α) : List (Option α) :=
  if rows.isEmpty then [none] else rows.map some

variable {α : Type} {rows : List α}

@[simp] theorem some_mem_leftJoin {a : α} : some a ∈ leftJoin rows ↔ a ∈ rows := by
  cases rows <;> simp [leftJoin]

@[simp] theorem none_mem_leftJoin : none ∈ leftJoin rows ↔ rows = [] := by
  cases rows <;> simp [leftJoin]

theorem exists_mem_leftJoin (rows : List α) : ∃ a, a ∈ leftJoin rows := by
  cases rows with
  | nil => exact ⟨none, by simp⟩
  | cons a rows => exact ⟨some a, by simp⟩

end Queries
