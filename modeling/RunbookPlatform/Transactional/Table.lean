import Mathlib.Data.List.Basic

/-!
# Append-only tables

A relational table as a list of rows whose primary keys are the positions. Rows
are inserted at the end and updated in place; none is ever deleted, so a key
that named a row once names it for good. The lemmas describe each operation by
what `get?` reads afterwards, which is the only way the rest of the development
looks into a table.

## Main definitions

- `Table` — rows addressed by key
- `Table.insert`, `Table.modify`, `Table.modifyWhere` — the three writes
- `Table.Replaced`, `Table.Edited`, `Table.Evolves`, `Table.Moves` — what becomes of the rows of
  a table
- `Table.keys`, `Table.find?` — queries in insertion order
-/

namespace Transactional

/-- A table of rows of type `α`; the key of a row is its position. -/
structure Table (α : Type) where
  /-- The rows, oldest first. -/
  rows : List α

namespace Table

variable {α β : Type}

/-- The table without rows. -/
def empty : Table α := ⟨[]⟩

/-- The row with key `i`, if there is one. -/
def get? (t : Table α) (i : ℕ) : Option α := t.rows[i]?

/-- The key the next inserted row gets. -/
def next (t : Table α) : ℕ := t.rows.length

/-- Insert a row; its key is `t.next`. -/
def insert (t : Table α) (row : α) : Table α := ⟨t.rows ++ [row]⟩

/-- Update the row with key `i`; nothing happens when there is none. -/
def modify (t : Table α) (i : ℕ) (f : α → α) : Table α := ⟨t.rows.modify i f⟩

/-- Update every row that satisfies `p`. -/
def modifyWhere (t : Table α) (p : α → Bool) (f : α → α) : Table α :=
  ⟨t.rows.map fun row => if p row then f row else row⟩

/-- The keys of the rows satisfying `p`, oldest first. -/
def keys (t : Table α) (p : ℕ → α → Bool) : List ℕ :=
  (List.range t.next).filter fun i => (t.get? i).any (p i)

/-- The oldest row satisfying `p`, with its key. -/
def find? (t : Table α) (p : ℕ → α → Bool) : Option (ℕ × α) :=
  (t.keys p).head?.bind fun i => (t.get? i).map fun row => (i, row)

/-- The rows satisfying `p`, oldest first. -/
def log (t : Table α) (p : α → Bool) : List α := t.rows.filter p

/-- The newest row satisfying `p`, with its key. -/
def findLast? (t : Table α) (p : ℕ → α → Bool) : Option (ℕ × α) :=
  (t.keys p).getLast?.bind fun i => (t.get? i).map fun row => (i, row)

-- ════════════════════════════════════════════════════════════════════════
-- Reading after a write
-- ════════════════════════════════════════════════════════════════════════

@[simp] theorem get?_empty (i : ℕ) : (empty : Table α).get? i = none := rfl

/-- Every key below `next` is in use and no other. -/
theorem get?_isSome_iff {t : Table α} {i : ℕ} : (t.get? i).isSome ↔ i < t.next := by
  simp [get?, next]

theorem lt_next {t : Table α} {i : ℕ} {row : α} (h : t.get? i = some row) : i < t.next :=
  get?_isSome_iff.1 (by simp [h])

@[simp] theorem get?_next (t : Table α) : t.get? t.next = none := by
  simp [get?, next]

@[simp] theorem next_insert (t : Table α) (row : α) : (t.insert row).next = t.next + 1 := by
  simp [next, insert]

@[simp] theorem next_modify (t : Table α) (i : ℕ) (f : α → α) :
    (t.modify i f).next = t.next := by
  simp [next, modify]

@[simp] theorem next_modifyWhere (t : Table α) (p : α → Bool) (f : α → α) :
    (t.modifyWhere p f).next = t.next := by
  simp [next, modifyWhere]

theorem get?_insert (t : Table α) (row : α) (i : ℕ) :
    (t.insert row).get? i = if i = t.next then some row else t.get? i := by
  unfold insert get? next
  simp only [List.getElem?_append, List.getElem?_singleton]
  split_ifs <;> first | rfl | omega | simp_all

@[simp] theorem get?_insert_next (t : Table α) (row : α) :
    (t.insert row).get? t.next = some row := by
  simp [get?_insert]

/-- An insertion leaves the rows that are there alone. -/
theorem get?_insert_of_some {t : Table α} {i : ℕ} {old : α} (row : α)
    (h : t.get? i = some old) : (t.insert row).get? i = some old := by
  rw [get?_insert, if_neg (Nat.ne_of_lt (lt_next h)), h]

theorem get?_modify (t : Table α) (i : ℕ) (f : α → α) (j : ℕ) :
    (t.modify i f).get? j = if j = i then (t.get? j).map f else t.get? j := by
  unfold modify get?
  rw [List.getElem?_modify]
  by_cases h : j = i
  · simp [h]
  · simp [h, Ne.symm h]

@[simp] theorem get?_modify_self (t : Table α) (i : ℕ) (f : α → α) :
    (t.modify i f).get? i = (t.get? i).map f := by
  simp [get?_modify]

theorem get?_modify_of_ne {i j : ℕ} (h : j ≠ i) (t : Table α) (f : α → α) :
    (t.modify i f).get? j = t.get? j := by
  rw [get?_modify, if_neg h]

/-- An update leaves what it keeps of each row. -/
theorem map_get?_modify {β : Type} {g : α → β} {f : α → α} (h : ∀ row, g (f row) = g row)
    (t : Table α) (i j : ℕ) : ((t.modify i f).get? j).map g = (t.get? j).map g := by
  rw [get?_modify]
  split_ifs
  · cases t.get? j <;> simp [h]
  · rfl

/-- Two updates that agree on the row are the same. -/
theorem modify_congr {t : Table α} {i : ℕ} {row : α} (h : t.get? i = some row) {f g : α → α}
    (hfg : f row = g row) : t.modify i f = t.modify i g := by
  have hrows : t.rows.modify i f = t.rows.modify i g := by
    refine List.ext_getElem? fun j => ?_
    rw [List.getElem?_modify, List.getElem?_modify]
    by_cases hij : i = j
    · subst hij
      rw [show t.rows[i]? = some row from h]
      simp [hfg]
    · simp [hij]
  rw [modify, modify, hrows]

/-- An update that finds no row does nothing. -/
theorem modify_of_none {t : Table α} {i : ℕ} (h : t.get? i = none) (f : α → α) :
    t.modify i f = t := by
  have hlength : t.rows.length ≤ i := List.getElem?_eq_none_iff.1 h
  rw [modify, List.modify_eq_self hlength]

/-- The row just inserted can still be changed before anyone reads it. -/
@[simp] theorem modify_insert_next (t : Table α) (row : α) (f : α → α) :
    (t.insert row).modify t.next f = t.insert (f row) := by
  simpa [modify, insert, next, List.modify] using
    List.modifyTailIdx_add (List.modifyHead f) 0 t.rows [row]

@[simp] theorem get?_modifyWhere (t : Table α) (p : α → Bool) (f : α → α) (j : ℕ) :
    (t.modifyWhere p f).get? j = (t.get? j).map fun row => if p row then f row else row := by
  simp [modifyWhere, get?]

/-- A log grows at its end. -/
theorem log_insert (t : Table α) (p : α → Bool) (row : α) :
    (t.insert row).log p = if p row then t.log p ++ [row] else t.log p := by
  unfold log insert
  rw [List.filter_append]
  split_ifs with h <;> simp [h]

@[simp] theorem log_insert_of_pos {p : α → Bool} {row : α} (t : Table α) (h : p row = true) :
    (t.insert row).log p = t.log p ++ [row] := by
  rw [log_insert, if_pos h]

@[simp] theorem log_insert_of_neg {p : α → Bool} {row : α} (t : Table α) (h : p row = false) :
    (t.insert row).log p = t.log p := by
  rw [log_insert, if_neg (by simp [h])]

/-- `t'` has `new` for the row `old` with key `i`, and is `t` otherwise. -/
structure Replaced (i : ℕ) (old new : α) (t t' : Table α) : Prop where
  before : t.get? i = some old
  after : t'.get? i = some new
  others : ∀ j, j ≠ i → t'.get? j = t.get? j

theorem Replaced.refl {t : Table α} {i : ℕ} {row : α} (h : t.get? i = some row) :
    t.Replaced i row row t :=
  ⟨h, h, fun _ _ => rfl⟩

theorem Replaced.modify {t : Table α} {i : ℕ} {row : α} (h : t.get? i = some row) (f : α → α) :
    t.Replaced i row (f row) (t.modify i f) :=
  ⟨h, by simp [h], fun _ hj => get?_modify_of_ne hj t f⟩

/-- Where a row of the new table comes from. -/
theorem Replaced.cases {t t' : Table α} {i j : ℕ} {old new row : α} (h : t.Replaced i old new t')
    (hrow : t'.get? j = some row) : (j = i ∧ row = new) ∨ (j ≠ i ∧ t.get? j = some row) := by
  by_cases hj : j = i
  · subst hj
    rw [h.after] at hrow
    cases hrow
    exact .inl ⟨rfl, rfl⟩
  · exact .inr ⟨hj, h.others j hj ▸ hrow⟩

/-- Row `i` of `t` stays as it is or changes as `P` says, and all other rows stay. -/
structure Edited (i : ℕ) (P : α → α → Prop) (t t' : Table α) : Prop where
  to_new : ∀ {j old}, t.get? j = some old →
    ∃ new, t'.get? j = some new ∧ (new = old ∨ j = i ∧ P old new)
  of_new : ∀ {j new}, t'.get? j = some new →
    ∃ old, t.get? j = some old ∧ (new = old ∨ j = i ∧ P old new)

theorem Edited.modify {P : α → α → Prop} {t : Table α} {i : ℕ} {f : α → α}
    (hf : ∀ row, t.get? i = some row → f row = row ∨ P row (f row)) :
    t.Edited i P (t.modify i f) := by
  constructor
  · intro j old hold
    by_cases hj : j = i
    · subst hj
      exact ⟨f old, by simp [hold], (hf old hold).imp_right fun h => ⟨rfl, h⟩⟩
    · exact ⟨old, by rw [get?_modify_of_ne hj, hold], .inl rfl⟩
  · intro j new hnew
    by_cases hj : j = i
    · subst hj
      simp only [get?_modify_self, Option.map_eq_some_iff] at hnew
      obtain ⟨old, hold, rfl⟩ := hnew
      exact ⟨old, hold, (hf old hold).imp_right fun h => ⟨rfl, h⟩⟩
    · rw [get?_modify_of_ne hj] at hnew
      exact ⟨new, hnew, .inl rfl⟩

theorem Edited.mono {P Q : α → α → Prop} {t t' : Table α} {i : ℕ} (h : t.Edited i P t')
    (hPQ : ∀ old new, P old new → Q old new) : t.Edited i Q t' where
  to_new hold := by
    obtain ⟨new, hnew, hrow⟩ := h.to_new hold
    exact ⟨new, hnew, hrow.imp_right fun ⟨hi, hP⟩ => ⟨hi, hPQ _ _ hP⟩⟩
  of_new hnew := by
    obtain ⟨old, hold, hrow⟩ := h.of_new hnew
    exact ⟨old, hold, hrow.imp_right fun ⟨hi, hP⟩ => ⟨hi, hPQ _ _ hP⟩⟩

-- ════════════════════════════════════════════════════════════════════════
-- Histories
-- ════════════════════════════════════════════════════════════════════════

/-- Every row of `t` is still there in `t'`, and has become what `R` allows. -/
def Evolves (R : α → α → Prop) (t t' : Table α) : Prop :=
  ∀ i row, t.get? i = some row → ∃ row', t'.get? i = some row' ∧ R row row'

namespace Evolves

variable {R : α → α → Prop}

theorem refl (hR : ∀ row, R row row) (t : Table α) : t.Evolves R t :=
  fun _ row h => ⟨row, h, hR row⟩

theorem trans (hR : ∀ a b c, R a b → R b c → R a c) {t u v : Table α} (h1 : t.Evolves R u)
    (h2 : u.Evolves R v) : t.Evolves R v := by
  intro i row hrow
  obtain ⟨row1, hrow1, hR1⟩ := h1 i row hrow
  obtain ⟨row2, hrow2, hR2⟩ := h2 i row1 hrow1
  exact ⟨row2, hrow2, hR _ _ _ hR1 hR2⟩

theorem insert (hR : ∀ row, R row row) (t : Table α) (new : α) : t.Evolves R (t.insert new) :=
  fun _ row h => ⟨row, get?_insert_of_some new h, hR row⟩

theorem modifyWhere (hR : ∀ row, R row row) {f : α → α} (hf : ∀ row, R row (f row)) (t : Table α)
    (p : α → Bool) : t.Evolves R (t.modifyWhere p f) := by
  intro i row hrow
  refine ⟨if p row then f row else row, by simp [hrow], ?_⟩
  split_ifs
  · exact hf row
  · exact hR row

theorem modify (hR : ∀ row, R row row) {f : α → α} (hf : ∀ row, R row (f row)) (t : Table α)
    (i : ℕ) : t.Evolves R (t.modify i f) := by
  intro j row hrow
  by_cases h : j = i
  · subst h
    exact ⟨f row, by simp [hrow], hf row⟩
  · exact ⟨row, by rw [get?_modify_of_ne h, hrow], hR row⟩

end Evolves

/-- No row is new in `t'`, and each row is the same or has become what `R` allows. -/
def Moves (R : α → α → Prop) (t t' : Table α) : Prop :=
  ∀ i, t'.get? i = t.get? i ∨ ∃ old new, t.get? i = some old ∧ t'.get? i = some new ∧ R old new

namespace Moves

variable {R : α → α → Prop}

theorem refl (t : Table α) : t.Moves R t := fun _ => .inl rfl

theorem trans (hR : ∀ a b c, R a b → R b c → R a c) {t u v : Table α} (h1 : t.Moves R u)
    (h2 : u.Moves R v) : t.Moves R v := by
  intro i
  rcases h2 i with h2 | ⟨old2, new2, hold2, hnew2, hR2⟩
  · rw [h2]
    exact h1 i
  · rcases h1 i with h1 | ⟨old1, new1, hold1, hnew1, hR1⟩
    · exact .inr ⟨old2, new2, h1 ▸ hold2, hnew2, hR2⟩
    · rw [hnew1] at hold2
      cases hold2
      exact .inr ⟨old1, new2, hold1, hnew2, hR _ _ _ hR1 hR2⟩

theorem modify {f : α → α} (hf : ∀ row, R row (f row)) (t : Table α) (i : ℕ) :
    t.Moves R (t.modify i f) := by
  intro j
  by_cases h : j = i
  · subst h
    cases hrow : t.get? j with
    | none => exact .inl (by simp [hrow])
    | some row => exact .inr ⟨row, f row, rfl, by simp [hrow], hf row⟩
  · exact .inl (get?_modify_of_ne h t f)

/-- Where a row of `t'` comes from. -/
theorem of_new {t t' : Table α} (h : t.Moves R t') (hR : ∀ row, R row row) {i : ℕ} {new : α}
    (hnew : t'.get? i = some new) : ∃ old, t.get? i = some old ∧ R old new := by
  rcases h i with h | ⟨old, new', hold, hnew', hmoves⟩
  · exact ⟨new, h ▸ hnew, hR new⟩
  · rw [hnew] at hnew'
    cases hnew'
    exact ⟨old, hold, hmoves⟩

end Moves

/-- A replacement is an evolution of its one row. -/
theorem Replaced.evolves {R : α → α → Prop} {t t' : Table α} {i : ℕ} {old new : α}
    (h : t.Replaced i old new t') (hrefl : ∀ row, R row row) (hnew : R old new) :
    t.Evolves R t' := by
  intro j row hrow
  by_cases hj : j = i
  · subst hj
    rw [h.before] at hrow
    cases hrow
    exact ⟨new, h.after, hnew⟩
  · exact ⟨row, (h.others j hj).trans hrow, hrefl row⟩

-- ════════════════════════════════════════════════════════════════════════
-- Queries
-- ════════════════════════════════════════════════════════════════════════

theorem mem_keys {t : Table α} {p : ℕ → α → Bool} {i : ℕ} :
    i ∈ t.keys p ↔ ∃ row, t.get? i = some row ∧ p i row = true := by
  simp only [keys, List.mem_filter, List.mem_range, Option.any_eq_true]
  constructor
  · rintro ⟨_, row, hrow, hp⟩
    exact ⟨row, hrow, hp⟩
  · rintro ⟨row, hrow, hp⟩
    exact ⟨lt_next hrow, row, hrow, hp⟩

theorem nodup_keys (t : Table α) (p : ℕ → α → Bool) : (t.keys p).Nodup :=
  List.nodup_range.filter _

/-- Where the same keys satisfy the tests, the keys are the same. -/
theorem keys_congr {t t' : Table α} {p q : ℕ → α → Bool} (hnext : t'.next = t.next)
    (h : ∀ i, (t'.get? i).any (q i) = (t.get? i).any (p i)) : t'.keys q = t.keys p := by
  simp only [keys, hnext, h]

/-- An inserted row comes last. -/
theorem keys_insert (t : Table α) (row : α) (p : ℕ → α → Bool) :
    (t.insert row).keys p = t.keys p ++ if p t.next row then [t.next] else [] := by
  have hold : (List.range t.next).filter (fun i => ((t.insert row).get? i).any (p i)) = t.keys p := by
    refine List.filter_congr fun i hi => ?_
    rw [get?_insert, if_neg (Nat.ne_of_lt (List.mem_range.1 hi))]
  rw [keys, next_insert, List.range_succ, List.filter_append, hold, List.filter_singleton,
    get?_insert_next, Option.any_some, Bool.cond_eq_ite]

/-- There are as many keys as rows that satisfy the test. -/
theorem length_keys (t : Table α) (p : α → Bool) :
    (t.keys fun _ row => p row).length = (t.log p).length := by
  obtain ⟨rows⟩ := t
  simp only [keys, log, next, get?]
  induction rows with
  | nil => rfl
  | cons row rows ih =>
    -- the first row has the first key, and the others have the keys after their own
    rw [List.length_cons, List.range_succ_eq_map, List.filter_cons, List.filter_cons,
      List.filter_map]
    have hrest : (List.map Nat.succ ((List.range rows.length).filter
        ((fun i => ((row :: rows)[i]?).any p) ∘ Nat.succ))).length = (rows.filter p).length := by
      rw [List.length_map]
      exact ih
    rw [List.getElem?_cons_zero, Option.any_some]
    split_ifs
    · rw [List.length_cons, List.length_cons, hrest]
    · exact hrest

/-- When no row comes to satisfy the test, there are no more than before. -/
theorem length_log_modify_le {p : α → Bool} {f : α → α} (h : ∀ row, p (f row) = true → p row = true)
    (t : Table α) (i : ℕ) : ((t.modify i f).log p).length ≤ (t.log p).length := by
  obtain ⟨rows⟩ := t
  simp only [log, modify]
  induction rows generalizing i with
  | nil => simp
  | cons row rows ih =>
    cases i with
    | zero =>
      rw [List.modify_zero_cons, List.filter_cons, List.filter_cons]
      by_cases hf : p (f row) = true
      · rw [if_pos hf, if_pos (h row hf)]
        exact Nat.le_refl _
      · rw [if_neg hf]
        split_ifs
        · exact Nat.le_succ _
        · exact Nat.le_refl _
    | succ i =>
      rw [List.modify_succ_cons, List.filter_cons, List.filter_cons]
      split_ifs
      · exact Nat.succ_le_succ (ih i)
      · exact ih i

/-- When the first key does not satisfy the new test, and no other row has changed its answer,
the other keys are left. -/
theorem keys_eq_tail {t t' : Table α} {p q : ℕ → α → Bool} {i : ℕ} {is : List ℕ}
    (h : t.keys p = i :: is) (hnext : t'.next = t.next) (hi : (t'.get? i).any (q i) = false)
    (hothers : ∀ j, j ≠ i → (t'.get? j).any (q j) = (t.get? j).any (p j)) : t'.keys q = is := by
  have hfilter : t'.keys q = (t.keys p).filter (· ≠ i) := by
    rw [keys, keys, hnext, List.filter_filter]
    refine List.filter_congr fun j _ => ?_
    by_cases hj : j = i
    · subst hj
      simp [hi]
    · simp [hj, hothers j hj]
  have hnodup : (i :: is).Nodup := h ▸ t.nodup_keys p
  rw [hfilter, h, List.filter_cons_of_neg (by simp), List.filter_eq_self]
  intro j hj
  have hne : j ≠ i := fun hji => (List.nodup_cons.1 hnodup).1 (hji ▸ hj)
  simpa using hne

/-- A found row is in the table under the returned key and satisfies the test. -/
theorem find?_some {t : Table α} {p : ℕ → α → Bool} {i : ℕ} {row : α}
    (h : t.find? p = some (i, row)) : t.get? i = some row ∧ p i row = true := by
  simp only [find?, Option.bind_eq_some_iff, Option.map_eq_some_iff, Prod.mk.injEq] at h
  obtain ⟨j, hj, r, hr, rfl, rfl⟩ := h
  obtain ⟨r', hr', hp⟩ := mem_keys.1 (List.mem_of_mem_head? hj)
  rw [hr] at hr'
  cases hr'
  exact ⟨hr, hp⟩

/-- Nothing is found exactly when no row satisfies the test. -/
theorem find?_none {t : Table α} {p : ℕ → α → Bool} :
    t.find? p = none ↔ ∀ i row, t.get? i = some row → p i row = false := by
  constructor
  · intro h i row hrow
    by_contra hp
    have hmem : i ∈ t.keys p := mem_keys.2 ⟨row, hrow, by simpa using hp⟩
    cases hk : t.keys p with
    | nil => simp [hk] at hmem
    | cons j rest =>
      have hj : j ∈ t.keys p := by simp [hk]
      obtain ⟨r, hr, _⟩ := mem_keys.1 hj
      simp [find?, hk, hr] at h
  · intro h
    have hk : t.keys p = [] := by
      rw [List.eq_nil_iff_forall_not_mem]
      intro i hi
      obtain ⟨row, hrow, hp⟩ := mem_keys.1 hi
      simp [h i row hrow] at hp
    simp [find?, hk]

/-- The search, key by key. -/
theorem find?_eq_findSome? (t : Table α) (p : ℕ → α → Bool) :
    t.find? p = (List.range t.next).findSome? fun i =>
      ((t.get? i).filter (p i)).map fun row => (i, row) := by
  unfold find? keys
  induction List.range t.next with
  | nil => rfl
  | cons i is ih =>
    rw [List.findSome?_cons, List.filter_cons]
    cases hrow : t.get? i with
    | none => simpa [hrow] using ih
    | some row =>
      by_cases hp : p i row = true
      · simp [hrow, hp, Option.filter]
      · simpa [hrow, hp, Option.filter] using ih

/-- Two tables in which the same keys satisfy the tests give the same key. -/
theorem find?_key {t t' : Table α} {p q : ℕ → α → Bool} (hnext : t.next = t'.next)
    (h : ∀ i, (t.get? i).any (p i) = (t'.get? i).any (q i)) {i : ℕ} {row : α}
    (hfound : t.find? p = some (i, row)) : ∃ row', t'.find? q = some (i, row') := by
  have hkeys : t.keys p = t'.keys q := by
    simp only [keys, hnext, h]
  simp only [find?, hkeys, Option.bind_eq_some_iff, Option.map_eq_some_iff, Prod.mk.injEq] at hfound ⊢
  obtain ⟨j, hj, r, -, rfl, -⟩ := hfound
  obtain ⟨r', hr', -⟩ := mem_keys.1 (List.mem_of_mem_head? hj)
  exact ⟨r', j, hj, r', hr', rfl, rfl⟩

theorem findLast?_some {t : Table α} {p : ℕ → α → Bool} {i : ℕ} {row : α}
    (h : t.findLast? p = some (i, row)) : t.get? i = some row ∧ p i row = true := by
  simp only [findLast?, Option.bind_eq_some_iff, Option.map_eq_some_iff, Prod.mk.injEq] at h
  obtain ⟨j, hj, r, hr, rfl, rfl⟩ := h
  obtain ⟨r', hr', hp⟩ := mem_keys.1 (List.mem_of_mem_getLast? hj)
  rw [hr] at hr'
  cases hr'
  exact ⟨hr, hp⟩

end Table

end Transactional
