import Mathlib.Data.Finset.Dedup
import Mathlib.Data.Finset.Max
import Mathlib.Data.List.Sort

/-!
# Rows in the order of their keys

Rows whose keys differ have one order by key, however they were listed before; what comes
before a row in it is what has a smaller key.
-/

namespace Ranked

variable {ι κ : Type*} [LinearOrder κ] {key : ι → κ} {rows rows' : List ι} {r : ι}

/-- The rows in the order of their keys. -/
def rank (key : ι → κ) (rows : List ι) : List ι :=
  rows.insertionSort fun a b => key a ≤ key b

/-- No two rows have the same key. -/
def Distinct (key : ι → κ) (rows : List ι) : Prop :=
  ∀ a ∈ rows, ∀ b ∈ rows, key a = key b → a = b

theorem perm_rank (key : ι → κ) (rows : List ι) : (rank key rows).Perm rows :=
  List.perm_insertionSort _ rows

theorem mem_rank (key : ι → κ) : r ∈ rank key rows ↔ r ∈ rows := (perm_rank key rows).mem_iff

theorem pairwise_rank (key : ι → κ) (rows : List ι) :
    (rank key rows).Pairwise fun a b => key a ≤ key b := by
  have htotal : Std.Total fun a b : ι => key a ≤ key b := ⟨fun a b => le_total _ _⟩
  have htrans : IsTrans ι fun a b => key a ≤ key b := ⟨fun a b c => le_trans⟩
  exact List.pairwise_insertionSort _ rows

/-- The order of rows with distinct keys does not depend on how they were listed. -/
theorem rank_eq_of_perm (hdistinct : Distinct key rows) (hperm : rows'.Perm rows) :
    rank key rows' = rank key rows := by
  refine List.Perm.eq_of_pairwise (fun a b ha hb hab hba => ?_) (pairwise_rank key rows')
    (pairwise_rank key rows)
    ((perm_rank key rows').trans (hperm.trans (perm_rank key rows).symm))
  exact hdistinct a (hperm.mem_iff.1 ((mem_rank key).1 ha)) b ((mem_rank key).1 hb) (le_antisymm hab hba)

/-- What comes before a row is what has a smaller key. -/
theorem exists_split (hdistinct : Distinct key rows) (hr : r ∈ rows) :
    ∃ before after, rank key rows = before ++ r :: after ∧
      ∀ q ∈ before, q ∈ rows ∧ key q < key r := by
  obtain ⟨before, after, hsplit, hfirst⟩ :=
    List.eq_append_cons_of_mem ((mem_rank key).2 hr)
  refine ⟨before, after, hsplit, fun q hq => ?_⟩
  have hmem : q ∈ rows := by
    rw [← mem_rank key, hsplit]
    exact List.mem_append_left _ hq
  have hsorted := pairwise_rank key rows
  rw [hsplit, List.pairwise_append] at hsorted
  have hle : key q ≤ key r := hsorted.2.2 q hq r List.mem_cons_self
  refine ⟨hmem, lt_of_le_of_ne hle fun heq => hfirst ?_⟩
  rwa [← hdistinct q hmem r hr heq]

/-- Among the rows with some property there is a first one. -/
theorem exists_first (key : ι → κ) {p : ι → Prop} (h : ∃ r ∈ rows, p r) :
    ∃ r ∈ rows, p r ∧ ∀ q ∈ rows, p q → key r ≤ key q := by
  classical
  obtain ⟨r, hr, hp⟩ := h
  obtain ⟨first, hfirst, hleast⟩ := (rows.toFinset.filter p).exists_min_image key ⟨r, by simp [hr, hp]⟩
  simp only [Finset.mem_filter, List.mem_toFinset] at hfirst hleast
  exact ⟨first, hfirst.1, hfirst.2, fun q hq hpq => hleast q ⟨hq, hpq⟩⟩

end Ranked
