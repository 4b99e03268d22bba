import Mathlib
import RunbookPlatform.Core.Json

/-!
# Canonical texts determine their values

The canonical text of a value forgets the order of keys and nothing else: two values with the
same text have the same `sorted` form. The text is read from left to right: after the text of
a value comes the end, or a character that no number contains, so a text that starts with two
values starts with one.

## Main definitions

- `Json.sorted` — the value with the keys of all objects in order
- `Json.print` — the text of a value, with the keys as they are

## Main results

- `Json.print_unique` — unique readability
- `Json.sorted_eq_of_dumps` — values with the same canonical text are equal up to key order
-/

namespace RunbookPlatform

namespace Json

-- ════════════════════════════════════════════════════════════════════════
-- Sorted values
-- ════════════════════════════════════════════════════════════════════════

/-- Insert an entry by key. -/
def insertEntry {α : Type} (kv : String × α) : List (String × α) → List (String × α)
  | [] => [kv]
  | x :: xs => if kv.1 < x.1 then kv :: x :: xs else x :: insertEntry kv xs

/-- Entries in key order. -/
def sortEntries {α : Type} (kvs : List (String × α)) : List (String × α) :=
  kvs.foldr insertEntry []

mutual

/-- The value with the keys of all its objects in order. -/
def sorted : Json → Json
  | arr items => arr (sortedItems items)
  | obj fs => obj (sortEntries (sortedFields fs))
  | v => v

def sortedItems : List Json → List Json
  | [] => []
  | v :: vs => sorted v :: sortedItems vs

def sortedFields : List (String × Json) → List (String × Json)
  | [] => []
  | (k, v) :: fs => (k, sorted v) :: sortedFields fs

end

theorem sortedItems_eq_map (items : List Json) : sortedItems items = items.map sorted := by
  induction items with
  | nil => rfl
  | cons v vs ih => rw [sortedItems, ih, List.map_cons]

theorem sortedFields_eq_map (fs : List (String × Json)) :
    sortedFields fs = fs.map fun kv => (kv.1, sorted kv.2) := by
  induction fs with
  | nil => rfl
  | cons kv fs ih => rw [sortedFields, ih, List.map_cons]

/-- Sorting by key commutes with a map of the values. -/
theorem sortEntries_map {α β : Type} (f : α → β) (kvs : List (String × α)) :
    sortEntries (kvs.map fun kv => (kv.1, f kv.2)) =
      (sortEntries kvs).map fun kv => (kv.1, f kv.2) := by
  have hinsert : ∀ (kv : String × α) (xs : List (String × α)),
      insertEntry (kv.1, f kv.2) (xs.map fun kv => (kv.1, f kv.2)) =
        (insertEntry kv xs).map fun kv => (kv.1, f kv.2) := by
    intro kv xs
    induction xs with
    | nil => rfl
    | cons x xs ih =>
      rw [List.map_cons, insertEntry, insertEntry]
      split_ifs
      · rfl
      · rw [ih, List.map_cons]
  induction kvs with
  | nil => rfl
  | cons kv kvs ih =>
    rw [List.map_cons, sortEntries, List.foldr_cons]
    exact (congrArg _ ih).trans (hinsert kv _)

theorem mem_insertEntry {α : Type} {kv y : String × α} {xs : List (String × α)} :
    y ∈ insertEntry kv xs ↔ y = kv ∨ y ∈ xs := by
  induction xs with
  | nil => simp [insertEntry]
  | cons x xs ih =>
    rw [insertEntry]
    split_ifs
    · rw [List.mem_cons]
    · rw [List.mem_cons, ih, List.mem_cons, or_left_comm]

theorem mem_sortEntries {α : Type} {y : String × α} {kvs : List (String × α)} :
    y ∈ sortEntries kvs ↔ y ∈ kvs := by
  induction kvs with
  | nil => rfl
  | cons kv kvs ih =>
    rw [sortEntries, List.foldr_cons, mem_insertEntry, List.mem_cons]
    exact or_congr_right ih

/-- The value under a key that occurs once. -/
theorem lookup_eq_some_of_nodup {α : Type} {kvs : List (String × α)} {k : String} {v : α}
    (hnodup : (kvs.map (·.1)).Nodup) : kvs.lookup k = some v ↔ (k, v) ∈ kvs := by
  induction kvs with
  | nil => simp
  | cons kv kvs ih =>
    obtain ⟨l, w⟩ := kv
    rw [List.map_cons, List.nodup_cons] at hnodup
    rw [List.lookup_cons, List.mem_cons, Prod.mk.injEq]
    by_cases hkl : k = l
    · subst hkl
      have hnot : (k, v) ∉ kvs := fun hmem => hnodup.1 (List.mem_map.2 ⟨_, hmem, rfl⟩)
      simp [hnot, eq_comm]
    · rw [beq_false_of_ne hkl]
      exact (ih hnodup.2).trans (by simp [hkl])

/-- Objects with the same sorted form have the same values under a key, when their keys are
distinct. -/
theorem sorted_field {fs gs : List (String × Json)} (h : sorted (obj fs) = sorted (obj gs))
    (hfs : (fs.map (·.1)).Nodup) (hgs : (gs.map (·.1)).Nodup) {k : String} {v w : Json}
    (hv : fs.lookup k = some v) (hw : gs.lookup k = some w) : v.sorted = w.sorted := by
  rw [sorted, sorted, obj.injEq] at h
  have hmem : ∀ y, y ∈ sortedFields fs ↔ y ∈ sortedFields gs := by
    intro y
    rw [← mem_sortEntries, h, mem_sortEntries]
  have hkv : (k, v.sorted) ∈ sortedFields gs := by
    rw [← hmem, sortedFields_eq_map]
    exact List.mem_map_of_mem ((lookup_eq_some_of_nodup hfs).1 hv)
  rw [sortedFields_eq_map, List.mem_map] at hkv
  obtain ⟨⟨l, u⟩, hu, hlu⟩ := hkv
  obtain ⟨rfl, hsorted⟩ := Prod.mk.inj hlu
  have hlookup := (lookup_eq_some_of_nodup hgs).2 hu
  rw [hw] at hlookup
  cases hlookup
  exact hsorted.symm

/-- Objects with the same sorted form and the same distinct keys have the same values, one
after another. -/
theorem sorted_values {fs gs : List (String × Json)} (h : sorted (obj fs) = sorted (obj gs))
    (hkeys : fs.map (·.1) = gs.map (·.1)) (hnodup : (fs.map (·.1)).Nodup) :
    fs.map (·.2.sorted) = gs.map (·.2.sorted) := by
  have hlength : fs.length = gs.length := by simpa using congrArg List.length hkeys
  refine List.ext_getElem (by simpa using hlength) fun i hi hi' => ?_
  rw [List.length_map] at hi hi'
  have hkey : fs[i].1 = gs[i].1 := by
    have hget := congrArg (·[i]?) hkeys
    simpa [List.getElem?_eq_getElem, hi, hi'] using hget
  rw [List.getElem_map, List.getElem_map]
  refine sorted_field h hnodup (hkeys ▸ hnodup) (k := gs[i].1)
    ((lookup_eq_some_of_nodup hnodup).2 ?_)
    ((lookup_eq_some_of_nodup (hkeys ▸ hnodup)).2 (List.getElem_mem hi'))
  rw [← hkey]
  exact List.getElem_mem hi

-- ════════════════════════════════════════════════════════════════════════
-- Plain texts
-- ════════════════════════════════════════════════════════════════════════

/-- The literal of a text, as characters. -/
def printText (s : String) : List Char :=
  '"' :: s.toList.flatMap (fun c => (escapeChar c).toList) ++ ['"']

mutual

/-- The compact text of a value, with the keys in the order they have. -/
def print : Json → List Char
  | null => "null".toList
  | bool b => if b then "true".toList else "false".toList
  | int n => (toString n).toList
  | str s => printText s
  | arr items => '[' :: List.intercalate [','] (printItems items) ++ [']']
  | obj fs => '\x7b' :: List.intercalate [','] (printFields fs) ++ ['\x7d']

def printItems : List Json → List (List Char)
  | [] => []
  | v :: vs => print v :: printItems vs

def printFields : List (String × Json) → List (List Char)
  | [] => []
  | (k, v) :: fs => (printText k ++ ':' :: print v) :: printFields fs

end

theorem toList_quote (s : String) : (quote escapeChar s).toList = printText s := by
  simp [quote, printText, String.toList_join, List.flatMap_map]

theorem sortByKey_eq (kvs : List (String × String)) : sortByKey kvs = sortEntries kvs := by
  have hinsert : ∀ kv xs, insertByKey kv xs = insertEntry kv xs := by
    intro kv xs
    induction xs with
    | nil => rfl
    | cons x xs ih => rw [insertByKey, insertEntry, ih]
  induction kvs with
  | nil => rfl
  | cons kv kvs ih =>
    rw [sortByKey, List.foldr_cons, sortEntries, List.foldr_cons, ← sortEntries, ← ih, hinsert]
    rfl

theorem dumpsFields_eq_map (q : String → String) (fs : List (String × Json)) :
    dumpsFields q fs = fs.map fun kv => (kv.1, dumpsWith q kv.2) := by
  induction fs with
  | nil => rfl
  | cons kv fs ih => rw [dumpsFields, ih, List.map_cons]

theorem printFields_eq_map (fs : List (String × Json)) :
    printFields fs = fs.map fun kv => printText kv.1 ++ ':' :: print kv.2 := by
  induction fs with
  | nil => rfl
  | cons kv fs ih => rw [printFields, ih, List.map_cons]

mutual

/-- **The canonical text is the plain text of the sorted value.** -/
theorem toList_dumps : ∀ v : Json, (dumps v).toList = print v.sorted
  | null => rfl
  | bool b => by cases b <;> rfl
  | int _ => rfl
  | str s => toList_quote s
  | arr items => by
    simp [dumps, dumpsWith, sorted, print, toList_dumpsItems items]
  | obj fs => by
    have hfields : (dumpsFields (quote escapeChar) fs).map (fun kv => (kv.1, kv.2.toList)) =
        (sortedFields fs).map fun kv => (kv.1, print kv.2) := toList_dumpsFields fs
    have hsorted := congrArg sortEntries hfields
    rw [sortEntries_map, sortEntries_map] at hsorted
    have hprinted := congrArg (List.map fun kv => printText kv.1 ++ ':' :: kv.2) hsorted
    simp only [List.map_map] at hprinted
    simp only [dumps, dumpsWith, sorted, print, sortByKey_eq, printFields_eq_map,
      String.toList_append, String.toList_intercalate, List.map_map]
    refine congrArg (fun t => '\x7b' :: (List.intercalate [','] t ++ ['\x7d'])) ?_
    refine Eq.trans (List.map_congr_left fun kv _ => ?_) hprinted
    simp [toList_quote]

theorem toList_dumpsItems : ∀ items : List Json,
    (dumpsItems (quote escapeChar) items).map String.toList = printItems (sortedItems items)
  | [] => rfl
  | v :: vs => by
    rw [dumpsItems, sortedItems, printItems, List.map_cons, toList_dumpsItems vs]
    exact congrArg (· :: _) (toList_dumps v)

theorem toList_dumpsFields : ∀ fs : List (String × Json),
    (dumpsFields (quote escapeChar) fs).map (fun kv => (kv.1, kv.2.toList)) =
      (sortedFields fs).map fun kv => (kv.1, print kv.2)
  | [] => rfl
  | (k, v) :: fs => by
    rw [dumpsFields, sortedFields, List.map_cons, List.map_cons, toList_dumpsFields fs]
    exact congrArg (fun t => (k, t) :: _) (toList_dumps v)

end

-- ════════════════════════════════════════════════════════════════════════
-- Unique readability
-- ════════════════════════════════════════════════════════════════════════

/-- The first character of an escaped text, with what follows it. -/
def readChar : List Char → Option (Char × List Char)
  | '\\' :: '"' :: r => some ('"', r)
  | '\\' :: '\\' :: r => some ('\\', r)
  | '\\' :: 'n' :: r => some ('\n', r)
  | '\\' :: 'r' :: r => some ('\r', r)
  | '\\' :: 't' :: r => some ('\t', r)
  | '\\' :: 'b' :: r => some (Char.ofNat 8, r)
  | '\\' :: 'f' :: r => some (Char.ofNat 12, r)
  | '\\' :: 'u' :: a :: b :: c :: d :: r =>
    ((List.range 32).find? fun n => (hex4 n).toList = [a, b, c, d]).map fun n => (Char.ofNat n, r)
  | '"' :: _ => none
  | c :: r => some (c, r)
  | [] => none

theorem readChar_hex4 (n : ℕ) (hn : n < 32) (r : List Char) :
    readChar ('\\' :: 'u' :: ((hex4 n).toList ++ r)) = some (Char.ofNat n, r) := by
  have hfind : ∀ n < 32, (List.range 32).find? (fun m => (hex4 m).toList = (hex4 n).toList) =
      some n := by
    decide
  obtain ⟨a, b, c, d, hdigits⟩ : ∃ a b c d, (hex4 n).toList = [a, b, c, d] :=
    ⟨_, _, _, _, String.toList_ofList⟩
  have hn := hfind n hn
  rw [hdigits] at hn ⊢
  exact congrArg (Option.map fun n => (Char.ofNat n, r)) hn

/-- Escaped characters are read back. -/
theorem readChar_escapeChar (c : Char) (r : List Char) :
    readChar ((escapeChar c).toList ++ r) = some (c, r) := by
  have hofNat : ∀ n, c.toNat = n → Char.ofNat n = c := fun n hn => by
    rw [← hn, Char.ofNat_toNat]
  unfold escapeChar
  split_ifs with hquote hslash hn hr ht hb hf hcontrol
  · subst hquote; rfl
  · subst hslash; rfl
  · subst hn; rfl
  · subst hr; rfl
  · subst ht; rfl
  · rw [← hofNat 8 hb]; rfl
  · rw [← hofNat 12 hf]; rfl
  · rw [String.toList_append]
    exact (readChar_hex4 c.toNat hcontrol r).trans (by rw [Char.ofNat_toNat])
  · rw [String.toList_ofList, List.singleton_append, readChar.eq_def]
    split <;> simp_all

/-- What ends a text is no escaped character. -/
theorem readChar_quote (r : List Char) : readChar ('"' :: r) = none := rfl

/-- **Texts are read back**: two escaped texts that start the same way are equal. -/
theorem escaped_unique {cs ds r r' : List Char}
    (h : cs.flatMap (fun c => (escapeChar c).toList) ++ '"' :: r =
      ds.flatMap (fun c => (escapeChar c).toList) ++ '"' :: r') : cs = ds ∧ r = r' := by
  induction cs generalizing ds with
  | nil =>
    cases ds with
    | nil => simpa using h
    | cons d ds =>
      have hread := congrArg readChar h
      rw [List.flatMap_cons, List.append_assoc, readChar_escapeChar] at hread
      exact absurd hread (by simp [readChar_quote])
  | cons c cs ih =>
    cases ds with
    | nil =>
      have hread := congrArg readChar h
      rw [List.flatMap_cons, List.append_assoc, readChar_escapeChar] at hread
      exact absurd hread (by simp [readChar_quote])
    | cons d ds =>
      have hread := congrArg readChar h
      rw [List.flatMap_cons, List.flatMap_cons, List.append_assoc, List.append_assoc,
        readChar_escapeChar, readChar_escapeChar, Option.some.injEq, Prod.mk.injEq] at hread
      obtain ⟨rfl, hrest⟩ := hread
      obtain ⟨rfl, hr⟩ := ih hrest
      exact ⟨rfl, hr⟩

theorem printText_unique {s t : String} {r r' : List Char}
    (h : printText s ++ r = printText t ++ r') : s = t ∧ r = r' := by
  simp only [printText, List.cons_append, List.append_assoc, List.cons.injEq, true_and] at h
  obtain ⟨hst, hr⟩ := escaped_unique h
  exact ⟨String.toList_inj.1 hst, hr⟩

/-- The characters of a number. -/
def isNumberChar (c : Char) : Bool := c.isDigit || c == '-'

/-- The rest of a text after a value: it is over, or goes on with no character of a number. -/
def Stops (r : List Char) : Prop := ∀ c t, r = c :: t → isNumberChar c = false

theorem stops_nil : Stops [] := by
  intro c t h
  cases h

theorem stops_cons {c : Char} {r : List Char} (h : isNumberChar c = false) : Stops (c :: r) := by
  intro c' t ht
  cases ht
  exact h

theorem isNumberChar_of_mem {n : ℤ} {c : Char} (hc : c ∈ (toString n).toList) :
    isNumberChar c = true := by
  have hdigits : ∀ m : ℕ, c ∈ (Nat.repr m).toList → isNumberChar c = true := by
    intro m hm
    have hdigit : c.isDigit = true :=
      Nat.isDigit_of_mem_toDigits (b := 10) (by omega) (by omega) (by simpa [Nat.repr] using hm)
    simp [isNumberChar, hdigit]
  rw [Int.toString_eq_repr, Int.repr_eq_if] at hc
  split_ifs at hc
  · exact hdigits _ hc
  · rw [String.toList_append, List.mem_append] at hc
    rcases hc with hminus | hc
    · obtain rfl : c = '-' := by simpa using hminus
      rfl
    · exact hdigits _ hc

theorem takeWhile_number {n : ℤ} {r : List Char} (hr : Stops r) :
    ((toString n).toList ++ r).takeWhile isNumberChar = (toString n).toList := by
  rw [List.takeWhile_append_of_pos fun c hc => isNumberChar_of_mem hc]
  cases r with
  | nil => simp
  | cons c t => rw [List.takeWhile_cons_of_neg (by simp [hr c t rfl]), List.append_nil]

theorem printInt_unique {m n : ℤ} {r r' : List Char} (hr : Stops r) (hr' : Stops r')
    (h : (toString m).toList ++ r = (toString n).toList ++ r') : m = n ∧ r = r' := by
  have htext : (toString m).toList = (toString n).toList := by
    rw [← takeWhile_number hr, ← takeWhile_number (n := n) hr', h]
  refine ⟨Int.repr_injective (String.toList_inj.1 htext), ?_⟩
  rw [htext] at h
  exact List.append_cancel_left h

/-- What the first character of a text says about the value. -/
def kindOf : List Char → ℕ
  | 'n' :: _ => 0
  | 't' :: _ => 1
  | 'f' :: _ => 2
  | '"' :: _ => 3
  | '[' :: _ => 4
  | '\x7b' :: _ => 5
  | ']' :: _ => 6
  | '\x7d' :: _ => 6
  | [] => 6
  | _ => 7

/-- The kind of a value. -/
def kind : Json → ℕ
  | null => 0
  | bool b => if b then 1 else 2
  | int _ => 7
  | str _ => 3
  | arr _ => 4
  | obj _ => 5

/-- The text of a value starts as its kind says. -/
theorem kindOf_print (v : Json) (r : List Char) : kindOf (print v ++ r) = v.kind := by
  cases v with
  | null => rfl
  | bool b => cases b <;> rfl
  | str s => rfl
  | arr items => rfl
  | obj fs => rfl
  | int n =>
    have hne : (toString n).toList ≠ [] := by
      intro hnil
      rw [Int.toString_eq_repr, Int.repr_eq_if] at hnil
      split_ifs at hnil <;> simp at hnil
    obtain ⟨c, t, hct⟩ := List.exists_cons_of_ne_nil hne
    have hc : isNumberChar c = true := isNumberChar_of_mem (hct ▸ List.mem_cons_self)
    rw [print, hct, List.cons_append, kind]
    revert hc
    unfold kindOf
    split <;> intro hc <;> simp_all [isNumberChar]

theorem kind_ne_close (v : Json) : v.kind ≠ 6 := by
  cases v with
  | bool b => cases b <;> decide
  | _ => simp [kind]

theorem kind_eq {v w : Json} {r r' : List Char} (h : print v ++ r = print w ++ r') :
    v.kind = w.kind := by
  rw [← kindOf_print v r, h, kindOf_print]

/-- The entries of a list or an object, up to its closing bracket. -/
def entries (close : Char) (words : List (List Char)) (r : List Char) : List Char :=
  List.intercalate [','] words ++ close :: r

/-- What comes after an entry. -/
def entriesTail (close : Char) (words : List (List Char)) (r : List Char) : List Char :=
  match words with
  | [] => close :: r
  | words => ',' :: entries close words r

theorem entries_cons (close : Char) (word : List Char) (words : List (List Char)) (r : List Char) :
    entries close (word :: words) r = word ++ entriesTail close words r := by
  cases words with
  | nil => simp [entries, entriesTail]
  | cons w ws => simp [entries, entriesTail]

theorem stops_entriesTail {close : Char} (hclose : isNumberChar close = false)
    (words : List (List Char)) (r : List Char) : Stops (entriesTail close words r) := by
  cases words with
  | nil => exact stops_cons hclose
  | cons w ws => exact stops_cons rfl

theorem entries_of_tail {close : Char} (hclose : close ≠ ',') {words words' : List (List Char)}
    {r r' : List Char} (h : entriesTail close words r = entriesTail close words' r') :
    entries close words r = entries close words' r' := by
  cases words with
  | nil =>
    cases words' with
    | nil => exact h
    | cons w ws => exact absurd (List.cons.inj h).1 hclose
  | cons w ws =>
    cases words' with
    | nil => exact absurd (List.cons.inj h).1.symm hclose
    | cons w' ws' => exact (List.cons.inj h).2

mutual

/-- **Unique readability**: a text starts with at most one value. -/
theorem print_unique : ∀ (v w : Json) {r r' : List Char}, Stops r → Stops r' →
    print v ++ r = print w ++ r' → v = w ∧ r = r'
  | null, w, r, r', _, _, h => by
    have hkind := kind_eq h
    cases w with
    | null => exact ⟨rfl, List.append_cancel_left h⟩
    | bool b => cases b <;> cases hkind
    | _ => cases hkind
  | bool a, w, r, r', _, _, h => by
    have hkind := kind_eq h
    cases w with
    | bool b =>
      obtain rfl : a = b := by cases a <;> cases b <;> first | rfl | cases hkind
      exact ⟨rfl, List.append_cancel_left h⟩
    | _ => cases a <;> cases hkind
  | int m, w, r, r', hr, hr', h => by
    have hkind := kind_eq h
    cases w with
    | int n =>
      obtain ⟨rfl, hrest⟩ := printInt_unique hr hr' h
      exact ⟨rfl, hrest⟩
    | bool b => cases b <;> cases hkind
    | _ => cases hkind
  | str s, w, r, r', _, _, h => by
    have hkind := kind_eq h
    cases w with
    | str t =>
      obtain ⟨rfl, hrest⟩ := printText_unique h
      exact ⟨rfl, hrest⟩
    | bool b => cases b <;> cases hkind
    | _ => cases hkind
  | arr vs, w, r, r', _, _, h => by
    have hkind := kind_eq h
    cases w with
    | arr ws =>
      have hentries : entries ']' (printItems vs) r = entries ']' (printItems ws) r' := by
        simpa [print, entries] using h
      obtain ⟨rfl, hrest⟩ := printItems_unique vs ws hentries
      exact ⟨rfl, hrest⟩
    | bool b => cases b <;> cases hkind
    | _ => cases hkind
  | obj fs, w, r, r', _, _, h => by
    have hkind := kind_eq h
    cases w with
    | obj gs =>
      have hentries : entries '\x7d' (printFields fs) r = entries '\x7d' (printFields gs) r' := by
        simpa [print, entries] using h
      obtain ⟨rfl, hrest⟩ := printFields_unique fs gs hentries
      exact ⟨rfl, hrest⟩
    | bool b => cases b <;> cases hkind
    | _ => cases hkind

theorem printItems_unique : ∀ (vs ws : List Json) {r r' : List Char},
    entries ']' (printItems vs) r = entries ']' (printItems ws) r' → vs = ws ∧ r = r'
  | [], [], r, r', h => ⟨rfl, (List.cons.inj h).2⟩
  | [], w :: ws, r, r', h => by
    rw [printItems, printItems, entries_cons] at h
    have hkind := congrArg kindOf h
    rw [kindOf_print] at hkind
    exact absurd hkind.symm (kind_ne_close w)
  | v :: vs, [], r, r', h => by
    rw [printItems, printItems, entries_cons] at h
    have hkind := congrArg kindOf h
    rw [kindOf_print] at hkind
    exact absurd hkind (kind_ne_close v)
  | v :: vs, w :: ws, r, r', h => by
    rw [printItems, printItems, entries_cons, entries_cons] at h
    obtain ⟨rfl, htail⟩ := print_unique v w (stops_entriesTail rfl _ _) (stops_entriesTail rfl _ _) h
    obtain ⟨rfl, hrest⟩ := printItems_unique vs ws (entries_of_tail (by decide) htail)
    exact ⟨rfl, hrest⟩

theorem printFields_unique : ∀ (fs gs : List (String × Json)) {r r' : List Char},
    entries '\x7d' (printFields fs) r = entries '\x7d' (printFields gs) r' → fs = gs ∧ r = r'
  | [], [], r, r', h => ⟨rfl, (List.cons.inj h).2⟩
  | [], (k, w) :: gs, r, r', h => by
    rw [printFields, printFields, entries_cons] at h
    cases h
  | (k, v) :: fs, [], r, r', h => by
    rw [printFields, printFields, entries_cons] at h
    cases h
  | (k, v) :: fs, (l, w) :: gs, r, r', h => by
    rw [printFields, printFields, entries_cons, entries_cons, List.append_assoc,
      List.append_assoc] at h
    obtain ⟨rfl, hvalue⟩ := printText_unique h
    obtain ⟨rfl, htail⟩ := print_unique v w (stops_entriesTail rfl _ _) (stops_entriesTail rfl _ _)
      (List.cons.inj hvalue).2
    obtain ⟨rfl, hrest⟩ := printFields_unique fs gs (entries_of_tail (by decide) htail)
    exact ⟨rfl, hrest⟩

end

/-- **Values with the same canonical text** are equal, up to the order of their keys. -/
theorem sorted_eq_of_dumps {v w : Json} (h : v.dumps = w.dumps) : v.sorted = w.sorted := by
  have htext : print v.sorted ++ [] = print w.sorted ++ [] := by
    rw [← toList_dumps, ← toList_dumps, h]
  exact (print_unique _ _ stops_nil stops_nil htext).1

example : (obj [("b", int 1), ("a", null)]).dumps = (obj [("a", null), ("b", int 1)]).dumps := by
  decide

end Json

end RunbookPlatform
