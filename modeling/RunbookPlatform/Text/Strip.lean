import Mathlib.Data.List.TakeWhile
import RunbookPlatform.Core.Env

/-!
# Stripped and cut texts

What `text.strip()` and `text[:n]` leave of a text.

## Main definitions

- `takeText` — `text[:n]`

## Main results

- `strip_eq_empty_iff`, `strip_ofList` — the texts that strip to nothing, and to themselves
- `getLast?_strip` — a stripped text ends with no space
-/

namespace RunbookPlatform

/-- What is dropped, and what stays, of a row that ends where the predicate fails. -/
theorem dropWhile_row {α : Type} {p : α → Bool} {xs ys : List α} (hxs : ∀ x ∈ xs, p x = true)
    (hys : ∀ y, ys.head? = some y → p y = false) : (xs ++ ys).dropWhile p = ys := by
  rw [List.dropWhile_append_of_pos hxs]
  cases ys with
  | nil => rfl
  | cons y ys => rw [List.dropWhile_cons_of_neg (by simp [hys y rfl])]

theorem head_dropWhile {α : Type} {p : α → Bool} {xs : List α} {x : α}
    (h : (xs.dropWhile p).head? = some x) : p x = false := by
  have hnot := List.head?_dropWhile_not p xs
  rw [h] at hnot
  simpa using hnot

theorem toList_strip (text : String) : (strip text).toList =
    ((text.toList.dropWhile isSpace).reverse.dropWhile isSpace).reverse := String.toList_ofList

theorem strip_eq_empty_iff {text : String} :
    strip text = "" ↔ ∀ c ∈ text.toList, isSpace c = true := by
  rw [← String.toList_inj, toList_strip, String.toList_empty, List.reverse_eq_nil_iff,
    List.dropWhile_eq_nil_iff]
  constructor
  · intro h c hc
    rw [← List.takeWhile_append_dropWhile (p := isSpace) (l := text.toList), List.mem_append] at hc
    rcases hc with hc | hc
    · exact List.mem_takeWhile_imp hc
    · exact h c (List.mem_reverse.2 hc)
  · intro h c hc
    exact h c ((List.dropWhile_suffix isSpace).subset (List.mem_reverse.1 hc))

theorem mem_of_mem_strip {text : String} {c : Char} (h : c ∈ (strip text).toList) :
    c ∈ text.toList := by
  rw [toList_strip, List.mem_reverse] at h
  have hmem := (List.dropWhile_suffix isSpace).subset h
  exact (List.dropWhile_suffix isSpace).subset (List.mem_reverse.1 hmem)

theorem length_strip_le (text : String) : (strip text).length ≤ text.length := by
  have hend := (List.dropWhile_suffix isSpace (l := (text.toList.dropWhile isSpace).reverse)).length_le
  have hstart := (List.dropWhile_suffix isSpace (l := text.toList)).length_le
  rw [List.length_reverse] at hend
  rw [← String.length_toList, ← String.length_toList, toList_strip, List.length_reverse]
  exact hend.trans hstart

/-- A stripped text ends with no space. -/
theorem getLast?_strip {text : String} {c : Char} (h : (strip text).toList.getLast? = some c) :
    isSpace c = false := by
  rw [toList_strip, List.getLast?_reverse] at h
  exact head_dropWhile h

/-- A text that starts and ends with no space is stripped. -/
theorem strip_ofList {cs : List Char} (hfirst : ∀ c, cs.head? = some c → isSpace c = false)
    (hlast : ∀ c, cs.getLast? = some c → isSpace c = false) :
    strip (String.ofList cs) = String.ofList cs := by
  have hstays : ∀ ds : List Char, (∀ c, ds.head? = some c → isSpace c = false) →
      ds.dropWhile isSpace = ds := fun ds hds =>
    @dropWhile_row Char isSpace [] ds (fun _ h => absurd h List.not_mem_nil) hds
  have hdrop := hstays cs hfirst
  have hreverse := hstays cs.reverse
    fun c hc => hlast c (by rw [← List.head?_reverse]; exact hc)
  rw [strip, String.toList_ofList, hdrop, hreverse, List.reverse_reverse]

/-- `text[:n]`. -/
def takeText (n : ℕ) (text : String) : String := String.ofList (text.toList.take n)

theorem length_takeText (n : ℕ) (text : String) : (takeText n text).length ≤ n := by
  rw [takeText, ← String.length_toList, String.toList_ofList, List.length_take]
  exact min_le_left _ _

theorem takeText_ne_empty {n : ℕ} (hn : n ≠ 0) {text : String} (h : text ≠ "") :
    takeText n text ≠ "" := by
  intro htake
  have hlist := congrArg String.toList htake
  rw [takeText, String.toList_ofList, String.toList_empty, List.take_eq_nil_iff] at hlist
  exact h (String.toList_inj.1 ((hlist.resolve_left hn).trans String.toList_empty.symm))

theorem takeText_of_length_le {n : ℕ} {text : String} (h : text.length ≤ n) :
    takeText n text = text := by
  rw [takeText, List.take_of_length_le (by rwa [String.length_toList]), String.ofList_toList]

end RunbookPlatform
