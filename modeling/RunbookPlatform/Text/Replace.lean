import Mathlib.Data.List.Chain
import Mathlib.Data.List.Infix

/-!
# Replacement of a pattern

One pass over a list replaces every occurrence of a pattern, from left to right and without
overlaps. Elements are compared by a key, so that a text can carry more than its characters
through the pass.

## Main definitions

- `replaceAll` — the pass
- `Replaced` — what a pass does to a list

## Main results

- `replaced_replaceAll` — the pass does that
- `Replaced.append`, `Replaced.skip`, `Replaced.matched` — a pass over parts of a list
- `Replaced.isChain` — what neighbours have in common after a pass
-/

namespace Text

variable {α β : Type} {key : α → β} {pattern : List β} {marker : List α}

/-- The pass, when `skip` elements still belong to an occurrence. -/
def replaceFrom [DecidableEq β] (key : α → β) (pattern : List β) (marker : List α) : ℕ → List α → List α
  | _, [] => []
  | skip + 1, _ :: xs => replaceFrom key pattern marker skip xs
  | 0, x :: xs =>
    if pattern <+: (x :: xs).map key then
      marker ++ replaceFrom key pattern marker (pattern.length - 1) xs
    else x :: replaceFrom key pattern marker 0 xs

/-- Replace every occurrence of `pattern`. -/
def replaceAll [DecidableEq β] (key : α → β) (pattern : List β) (marker xs : List α) : List α :=
  replaceFrom key pattern marker 0 xs

/-- A pass turns `xs` into `ys`. -/
inductive Replaced (key : α → β) (pattern : List β) (marker : List α) :
    List α → List α → Prop where
  | nil : Replaced key pattern marker [] []
  | keep {x : α} {xs ys : List α} : ¬pattern <+: (x :: xs).map key →
      Replaced key pattern marker xs ys → Replaced key pattern marker (x :: xs) (x :: ys)
  | swap {w xs ys : List α} : w.map key = pattern → Replaced key pattern marker xs ys →
      Replaced key pattern marker (w ++ xs) (marker ++ ys)

theorem replaceFrom_eq_drop [DecidableEq β] (skip : ℕ) (xs : List α) :
    replaceFrom key pattern marker skip xs = replaceFrom key pattern marker 0 (xs.drop skip) := by
  induction skip generalizing xs with
  | zero => rfl
  | succ skip ih =>
    cases xs with
    | nil => rfl
    | cons x xs =>
      rw [List.drop_succ_cons, replaceFrom]
      exact ih xs

theorem replaced_replaceAll [DecidableEq β] (hpattern : pattern ≠ []) (xs : List α) :
    Replaced key pattern marker xs (replaceAll key pattern marker xs) := by
  induction hn : xs.length using Nat.strong_induction_on generalizing xs with
  | _ n ih =>
    cases xs with
    | nil => exact .nil
    | cons x xs =>
      rw [replaceAll, replaceFrom]
      split_ifs with hmatch
      · have hlength := List.length_pos_of_ne_nil hpattern
        have hdrop : (x :: xs).drop pattern.length = xs.drop (pattern.length - 1) := by
          obtain ⟨k, hk⟩ := Nat.exists_eq_add_of_lt hlength
          rw [hk]
          simp
        have hwindow : ((x :: xs).take pattern.length).map key = pattern := by
          rw [List.map_take]
          exact (List.prefix_iff_eq_take.1 hmatch).symm
        have hrest := ih (xs.drop (pattern.length - 1)).length
          (by rw [List.length_cons] at hn; rw [List.length_drop]; omega) _ rfl
        have hswap : Replaced key pattern marker _ _ := Replaced.swap hwindow hrest
        rw [← hdrop, List.take_append_drop, hdrop] at hswap
        rwa [replaceFrom_eq_drop]
      · exact .keep hmatch (ih xs.length (by rw [← hn, List.length_cons]; omega) xs rfl)

/-- The pass of the keys alone. -/
theorem map_replaceAll [DecidableEq β] (xs : List α) :
    (replaceAll key pattern marker xs).map key =
      replaceAll id pattern (marker.map key) (xs.map key) := by
  have hfrom : ∀ (xs : List α) (skip : ℕ), (replaceFrom key pattern marker skip xs).map key =
      replaceFrom id pattern (marker.map key) skip (xs.map key) := by
    intro xs
    induction xs with
    | nil => exact fun skip => by rw [replaceFrom, List.map_nil, replaceFrom]
    | cons x xs ih =>
      intro skip
      cases skip with
      | succ skip =>
        rw [replaceFrom, List.map_cons, replaceFrom]
        exact ih skip
      | zero =>
        rw [List.map_cons, replaceFrom, replaceFrom, List.map_id, ← List.map_cons]
        split_ifs
        · rw [List.map_append, ih]
        · rw [List.map_cons, ih]
  exact hfrom xs 0

namespace Replaced

variable {x : α} {xs ys l w rest : List α}

/-- What a pass keeps of the elements is in order. -/
theorem sublist {γ : Type} {f : α → Option γ} (hmarker : marker.filterMap f = [])
    (h : Replaced key pattern marker xs ys) : (ys.filterMap f).Sublist (xs.filterMap f) := by
  induction h with
  | nil => exact .slnil
  | @keep x xs ys _ _ ih =>
    rw [List.filterMap_cons, List.filterMap_cons]
    split
    · exact ih
    · exact ih.cons_cons _
  | swap _ _ ih =>
    rw [List.filterMap_append, List.filterMap_append, hmarker, List.nil_append]
    exact ih.trans (List.sublist_append_right _ _)

theorem mem (h : Replaced key pattern marker xs ys) (hx : x ∈ ys) : x ∈ xs ∨ x ∈ marker := by
  induction h with
  | nil => exact absurd hx List.not_mem_nil
  | keep _ _ ih =>
    obtain rfl | hx := List.mem_cons.1 hx
    · exact .inl List.mem_cons_self
    · exact (ih hx).imp_left (List.mem_cons_of_mem _)
  | swap _ _ ih =>
    obtain hx | hx := List.mem_append.1 hx
    · exact .inr hx
    · exact (ih hx).imp_left (List.mem_append_right _)

/-- How a pass starts. -/
theorem cons_cases (h : Replaced key pattern marker (x :: xs) ys) :
    (¬pattern <+: (x :: xs).map key ∧ ∃ ys', ys = x :: ys' ∧ Replaced key pattern marker xs ys') ∨
      ∃ w rest ys', w.map key = pattern ∧ x :: xs = w ++ rest ∧ ys = marker ++ ys' ∧
        Replaced key pattern marker rest ys' := by
  generalize hz : x :: xs = z at h
  cases h with
  | nil => cases hz
  | keep hmatch h =>
    cases hz
    exact .inl ⟨hmatch, _, rfl, h⟩
  | swap hw h => exact .inr ⟨_, _, _, hw, rfl, rfl, h⟩

/-- A pass over two parts, when no occurrence begins in the first and ends in the second. -/
theorem append (h : Replaced key pattern marker (l ++ rest) ys)
    (hapart : ∀ m, m ≠ [] → m <:+ l → pattern <+: (m ++ rest).map key → pattern.length ≤ m.length) :
    ∃ ys₁ ys₂, ys = ys₁ ++ ys₂ ∧ Replaced key pattern marker l ys₁ ∧
      Replaced key pattern marker rest ys₂ := by
  generalize hz : l ++ rest = z at h
  induction h generalizing l with
  | nil =>
    obtain ⟨rfl, rfl⟩ := List.append_eq_nil_iff.1 hz
    exact ⟨[], [], rfl, .nil, .nil⟩
  | @keep x xs ys hmatch h ih =>
    cases l with
    | nil =>
      rw [List.nil_append] at hz
      exact ⟨[], x :: ys, rfl, .nil, hz ▸ .keep hmatch h⟩
    | cons y l =>
      rw [List.cons_append, List.cons.injEq] at hz
      obtain ⟨rfl, rfl⟩ := hz
      obtain ⟨ys₁, ys₂, rfl, h₁, h₂⟩ := ih
        (fun m hm hsuffix => hapart m hm (hsuffix.trans (List.suffix_cons _ _))) rfl
      refine ⟨y :: ys₁, ys₂, rfl, .keep (fun hprefix => hmatch ?_) h₁, h₂⟩
      refine hprefix.trans ?_
      rw [← List.cons_append, List.map_append]
      exact List.prefix_append _ _
  | @swap w xs ys hw h ih =>
    by_cases hl : l = []
    · subst hl
      rw [List.nil_append] at hz
      exact ⟨[], marker ++ ys, rfl, .nil, hz ▸ .swap hw h⟩
    · have hle := hapart l hl List.suffix_rfl (by rw [hz, List.map_append, hw]; exact List.prefix_append _ _)
      rw [← hw, List.length_map] at hle
      obtain ⟨l', rfl, rfl⟩ : ∃ l', l = w ++ l' ∧ xs = l' ++ rest := by
        obtain ⟨l', hl', hrest⟩ | ⟨c, hw', hrest⟩ := List.append_eq_append_iff.1 hz
        · -- the window would be longer than the first part
          have hnil : l' = [] := List.eq_nil_of_length_eq_zero (by
            rw [hl', List.length_append] at hle; omega)
          subst hnil
          rw [List.append_nil] at hl'
          exact ⟨[], by rw [hl', List.append_nil], hrest.symm⟩
        · exact ⟨c, hw', hrest⟩
      obtain ⟨ys₁, ys₂, rfl, h₁, h₂⟩ := ih
        (fun m hm hsuffix => hapart m hm (hsuffix.trans (List.suffix_append _ _))) rfl
      exact ⟨marker ++ ys₁, ys₂, by rw [List.append_assoc], .swap hw h₁, h₂⟩

/-- A part in which no occurrence begins stays. -/
theorem skip (h : Replaced key pattern marker (w ++ rest) ys)
    (hnone : ∀ m, m ≠ [] → m <:+ w → ¬pattern <+: (m ++ rest).map key) :
    ∃ ys', ys = w ++ ys' ∧ Replaced key pattern marker rest ys' := by
  induction w generalizing ys with
  | nil => exact ⟨ys, rfl, h⟩
  | cons x w ih =>
    rw [List.cons_append] at h
    obtain ⟨-, ys', rfl, hrest⟩ | ⟨v, rest', ys', hv, hsplit, -, -⟩ := h.cons_cases
    · obtain ⟨ys', rfl, htail⟩ := ih hrest fun m hm hsuffix =>
        hnone m hm (hsuffix.trans (List.suffix_cons _ _))
      exact ⟨ys', rfl, htail⟩
    · refine absurd ?_ (hnone (x :: w) (List.cons_ne_nil _ _) List.suffix_rfl)
      rw [List.cons_append, hsplit, List.map_append, hv]
      exact List.prefix_append _ _

/-- An occurrence where the pass begins is replaced. -/
theorem matched (hpattern : pattern ≠ []) (h : Replaced key pattern marker (w ++ rest) ys)
    (hw : w.map key = pattern) :
    ∃ ys', ys = marker ++ ys' ∧ Replaced key pattern marker rest ys' := by
  cases w with
  | nil => exact absurd hw.symm hpattern
  | cons x w =>
    rw [List.cons_append] at h
    obtain ⟨hmatch, -⟩ | ⟨v, rest', ys', hv, hsplit, rfl, h⟩ := h.cons_cases
    · refine absurd ?_ hmatch
      rw [← List.cons_append, List.map_append, hw]
      exact List.prefix_append _ _
    · rw [← List.cons_append] at hsplit
      have hlength : (x :: w).length = v.length := by
        rw [← List.length_map (f := key), hw, ← hv, List.length_map]
      obtain ⟨-, rfl⟩ := List.append_inj hsplit hlength
      exact ⟨ys', rfl, h⟩

/-- What neighbours have in common: a relation goes over when it does so around the marker. -/
theorem isChain {R R' : α → α → Prop} (first last : α) (hpattern : pattern ≠ [])
    (hmono : ∀ x y, R x y → R' x y) (hmarker : marker.IsChain R')
    (hfirst : marker.head? = some first) (hlast : marker.getLast? = some last)
    (hself : R' last first)
    (hbefore : ∀ w, w <:+: xs → w.map key = pattern → ∀ x y, w.head? = some y → R x y → R' x first)
    (hafter : ∀ w, w <:+: xs → w.map key = pattern → ∀ x y, w.getLast? = some x → R x y → R' last y)
    (h : Replaced key pattern marker xs ys) (hchain : xs.IsChain R) : ys.IsChain R' := by
  -- an element `v` of the result stands where `u` stood
  have hfrom : ∀ {zs ys : List α}, Replaced key pattern marker zs ys → zs <:+ xs → ∀ u v,
      (∀ z, R u z → R' v z) →
        (∀ w, w <:+: xs → w.map key = pattern → ∀ y, w.head? = some y → R u y → R' v first) →
          (u :: zs).IsChain R → (v :: ys).IsChain R' := by
    intro zs ys h
    induction h with
    | nil => exact fun _ _ v _ _ _ => .singleton v
    | @keep x zs ys _ _ ih =>
      intro hsuffix u v hkept hreplaced hchain
      rw [List.isChain_cons_cons] at hchain ⊢
      exact ⟨hkept x hchain.1, ih ((List.suffix_cons _ _).trans hsuffix) x x (hmono x)
        (fun w hw hmatch y hy => hbefore w hw hmatch x y hy) hchain.2⟩
    | @swap w zs ys hw _ ih =>
      intro hsuffix u v hkept hreplaced hchain
      have hwithin : w <:+: xs := (List.prefix_append w zs).isInfix.trans hsuffix.isInfix
      obtain ⟨y, hy⟩ : ∃ y, w.head? = some y := by
        cases w with
        | nil => exact absurd hw.symm hpattern
        | cons y w => exact ⟨y, rfl⟩
      obtain ⟨x, hx⟩ : ∃ x, w.getLast? = some x :=
        ⟨_, List.getLast?_eq_some_getLast (List.ne_nil_of_mem (List.mem_of_mem_head? hy))⟩
      rw [List.isChain_cons] at hchain
      have hrest : (last :: ys).IsChain R' := by
        refine ih ((List.suffix_append _ _).trans hsuffix) x last
          (fun z => hafter w hwithin hw x z hx) (fun _ _ _ _ _ _ => hself) ?_
        obtain ⟨w', rfl⟩ := List.getLast?_eq_some_iff.1 hx
        have htail := hchain.2
        rw [List.append_assoc] at htail
        exact htail.right_of_append
      rw [List.isChain_cons, List.isChain_append]
      refine ⟨fun z hz => ?_, hmarker, hrest.tail, fun a ha b hb => ?_⟩
      · rw [List.head?_append, hfirst, Option.some_or, Option.mem_some] at hz
        subst hz
        refine hreplaced w hwithin hw y hy (hchain.1 y ?_)
        rw [List.head?_append, hy]
        rfl
      · rw [hlast, Option.mem_some] at ha
        subst ha
        exact hrest.rel_head? hb
  cases h with
  | nil => exact .nil
  | @keep x zs ys _ h =>
    exact hfrom h (List.suffix_cons _ _) x x (hmono x)
      (fun w hw hmatch y hy => hbefore w hw hmatch x y hy) hchain
  | @swap w zs ys hw h =>
    have hw' : w ≠ [] := by
      rintro rfl
      exact hpattern hw.symm
    obtain ⟨x, hx⟩ : ∃ x, w.getLast? = some x := ⟨_, List.getLast?_eq_some_getLast hw'⟩
    have hwithin : w <:+: w ++ zs := (List.prefix_append w zs).isInfix
    have hrest : (last :: ys).IsChain R' := by
      refine hfrom h (List.suffix_append _ _) x last (fun z => hafter w hwithin hw x z hx)
        (fun _ _ _ _ _ _ => hself) ?_
      obtain ⟨w', rfl⟩ := List.getLast?_eq_some_iff.1 hx
      rw [List.append_assoc] at hchain
      exact hchain.right_of_append
    rw [List.isChain_append]
    refine ⟨hmarker, hrest.tail, fun a ha b hb => ?_⟩
    rw [hlast, Option.mem_some] at ha
    subst ha
    exact hrest.rel_head? hb

end Replaced

end Text
