import RunbookPlatform.Core.Env

/-!
# Python values

The values a service builds before it serializes them: other than the JSON values they have
tuples, keys that are no texts, and objects that `json.dumps` refuses. `PyValue.encode` is the
document that `json.dumps` writes, with its members in order.

## Main definitions

- `PyKey`, `PyValue` — keys of a `dict`, and values
- `PyValue.encode` — the document of a value; none when `json.dumps` raises a `TypeError`
- `Doc.dumps` — its text
- `setItem`, `ofPairs` — `d[key] = value`, and a `dict` from its pairs
-/

namespace RunbookPlatform

-- ════════════════════════════════════════════════════════════════════════
-- Dicts
-- ════════════════════════════════════════════════════════════════════════

section

variable {κ α : Type} [DecidableEq κ]

/-- `d[key] = value`: a key keeps its place. -/
def setItem (key : κ) (value : α) : List (κ × α) → List (κ × α)
  | [] => [(key, value)]
  | (k, v) :: d => if k = key then (k, value) :: d else (k, v) :: setItem key value d

/-- The `dict` to which the pairs are assigned one after another. -/
def ofPairs (d pairs : List (κ × α)) : List (κ × α) :=
  pairs.foldl (fun d pair => setItem pair.1 pair.2 d) d

theorem setItem_of_notMem {key : κ} {value : α} {d : List (κ × α)} (h : key ∉ d.map (·.1)) :
    setItem key value d = d ++ [(key, value)] := by
  induction d with
  | nil => rfl
  | cons kv d ih =>
    rw [List.map_cons, List.mem_cons, not_or] at h
    rw [setItem, if_neg (Ne.symm h.1), ih h.2, List.cons_append]

theorem map_setItem (key : κ) (value : α) (d : List (κ × α)) :
    (setItem key value d).map (·.1) =
      if key ∈ d.map (·.1) then d.map (·.1) else d.map (·.1) ++ [key] := by
  induction d with
  | nil => rfl
  | cons kv d ih =>
    rw [setItem]
    by_cases hk : kv.1 = key
    · simp [hk]
    · rw [if_neg hk, List.map_cons, ih, List.map_cons]
      by_cases hmem : key ∈ d.map (·.1)
      · rw [if_pos hmem, if_pos (List.mem_cons_of_mem _ hmem)]
      · rw [if_neg hmem, if_neg (by simp [Ne.symm hk, hmem]), List.cons_append]

theorem mem_setItem {key : κ} {value : α} {d : List (κ × α)} {kv : κ × α}
    (h : kv ∈ setItem key value d) : kv = (key, value) ∨ kv ∈ d := by
  induction d with
  | nil => exact .inl (List.mem_singleton.1 h)
  | cons other d ih =>
    rw [setItem] at h
    split_ifs at h with hk
    · rcases List.mem_cons.1 h with rfl | h
      · exact .inl (by rw [hk])
      · exact .inr (List.mem_cons_of_mem _ h)
    · rcases List.mem_cons.1 h with rfl | h
      · exact .inr List.mem_cons_self
      · exact (ih h).imp_right (List.mem_cons_of_mem _)

/-- A `dict` holds each key once. -/
theorem nodup_ofPairs {d pairs : List (κ × α)} (h : (d.map (·.1)).Nodup) :
    ((ofPairs d pairs).map (·.1)).Nodup := by
  induction pairs generalizing d with
  | nil => exact h
  | cons pair pairs ih =>
    refine ih ?_
    rw [map_setItem]
    split_ifs with hmem
    · exact h
    · rw [List.nodup_append]
      exact ⟨h, List.nodup_singleton _, by simpa using fun k hk => ne_of_mem_of_not_mem hk hmem⟩

theorem mem_ofPairs {d pairs : List (κ × α)} {kv : κ × α} (h : kv ∈ ofPairs d pairs) :
    kv ∈ d ∨ kv ∈ pairs := by
  induction pairs generalizing d with
  | nil => exact .inl h
  | cons pair pairs ih =>
    rcases ih h with h | h
    · rcases mem_setItem h with rfl | h
      · exact .inr List.mem_cons_self
      · exact .inl h
    · exact .inr (List.mem_cons_of_mem _ h)

/-- Pairs with distinct keys are a `dict`. -/
theorem ofPairs_of_nodup {d pairs : List (κ × α)} (h : ((d ++ pairs).map (·.1)).Nodup) :
    ofPairs d pairs = d ++ pairs := by
  induction pairs generalizing d with
  | nil => exact (List.append_nil d).symm
  | cons pair pairs ih =>
    have hnew : pair.1 ∉ d.map (·.1) := by
      rw [List.map_append, List.nodup_append] at h
      exact fun hmem => h.2.2 _ hmem _ List.mem_cons_self rfl
    have hsplit : d ++ pair :: pairs = (d ++ [pair]) ++ pairs := by simp
    rw [ofPairs, List.foldl_cons, setItem_of_notMem hnew]
    rw [hsplit] at h ⊢
    exact ih h

theorem length_setItem (key : κ) (value : α) (d : List (κ × α)) :
    (setItem key value d).length = if key ∈ d.map (·.1) then d.length else d.length + 1 := by
  have h := congrArg List.length (map_setItem key value d)
  rw [List.length_map] at h
  rw [h]
  split_ifs <;> simp

theorem length_ofPairs_le (d pairs : List (κ × α)) :
    (ofPairs d pairs).length ≤ d.length + pairs.length := by
  induction pairs generalizing d with
  | nil => exact le_rfl
  | cons pair pairs ih =>
    have hset := length_setItem pair.1 pair.2 d
    have hrest := ih (setItem pair.1 pair.2 d)
    rw [List.length_cons]
    split_ifs at hset <;> exact hrest.trans (by omega)

/-- Pairs of which two have the same key make a shorter `dict`. -/
theorem nodup_of_length_ofPairs {d pairs : List (κ × α)} (hd : (d.map (·.1)).Nodup)
    (h : (ofPairs d pairs).length = d.length + pairs.length) :
    ((d ++ pairs).map (·.1)).Nodup := by
  induction pairs generalizing d with
  | nil => simpa using hd
  | cons pair pairs ih =>
    have hsplit : d ++ pair :: pairs = (d ++ [pair]) ++ pairs := by simp
    have hset := length_setItem pair.1 pair.2 d
    have hrest := length_ofPairs_le (setItem pair.1 pair.2 d) pairs
    have hlength : (ofPairs (setItem pair.1 pair.2 d) pairs).length =
        d.length + (pairs.length + 1) := h
    by_cases hmem : pair.1 ∈ d.map (·.1)
    · rw [if_pos hmem] at hset
      omega
    · have hkeys : ((d ++ [pair]).map (·.1)).Nodup := by
        rw [List.map_append, List.nodup_append]
        exact ⟨hd, List.nodup_singleton _,
          by simpa using fun k v hk => ne_of_mem_of_not_mem (List.mem_map_of_mem hk) hmem⟩
      rw [setItem_of_notMem hmem] at hlength
      rw [hsplit]
      exact ih hkeys (by rw [hlength]; simp; omega)

theorem mem_setItem_iff {key : κ} {value : α} {d : List (κ × α)} (h : (d.map (·.1)).Nodup)
    {kv : κ × α} :
    kv ∈ setItem key value d ↔ kv = (key, value) ∨ kv ∈ d ∧ kv.1 ≠ key := by
  induction d with
  | nil => simp [setItem]
  | cons other d ih =>
    obtain ⟨hnew, hd⟩ := List.nodup_cons.1 h
    rw [setItem]
    split_ifs with hk
    · subst hk
      constructor
      · intro hmem
        rcases List.mem_cons.1 hmem with rfl | hmem
        · exact .inl rfl
        · exact .inr ⟨List.mem_cons_of_mem _ hmem, fun heq => hnew (List.mem_map.2 ⟨kv, hmem, heq⟩)⟩
      · rintro (rfl | ⟨hmem, hne⟩)
        · exact List.mem_cons_self
        · rcases List.mem_cons.1 hmem with rfl | hmem
          · exact absurd rfl hne
          · exact List.mem_cons_of_mem _ hmem
    · rw [List.mem_cons, List.mem_cons, ih hd]
      constructor
      · rintro (rfl | rfl | ⟨hmem, hne⟩)
        · exact .inr ⟨.inl rfl, hk⟩
        · exact .inl rfl
        · exact .inr ⟨.inr hmem, hne⟩
      · rintro (rfl | ⟨rfl | hmem, hne⟩)
        · exact .inr (.inl rfl)
        · exact .inl rfl
        · exact .inr (.inr ⟨hmem, hne⟩)

/-- What a `dict` holds after its assignments: the pairs no later one of which has their key. -/
theorem mem_ofPairs_iff {d pairs : List (κ × α)} (h : (d.map (·.1)).Nodup) {kv : κ × α} :
    kv ∈ ofPairs d pairs ↔ kv ∈ d ∧ kv.1 ∉ pairs.map (·.1) ∨ kv ∈ ofPairs [] pairs := by
  induction pairs generalizing d with
  | nil => simp [ofPairs]
  | cons pair pairs ih =>
    have hset : ((setItem pair.1 pair.2 d).map (·.1)).Nodup :=
      show ((ofPairs d [pair]).map (·.1)).Nodup from nodup_ofPairs h
    have hone : (([pair] : List (κ × α)).map (·.1)).Nodup := List.nodup_singleton _
    rw [show ofPairs d (pair :: pairs) = ofPairs (setItem pair.1 pair.2 d) pairs from rfl,
      show ofPairs [] (pair :: pairs) = ofPairs [pair] pairs from rfl, ih hset, ih hone,
      mem_setItem_iff h, List.mem_singleton, List.map_cons, List.mem_cons, not_or]
    constructor
    · rintro (⟨rfl | ⟨hmem, hne⟩, hlast⟩ | hmem)
      · exact .inr (.inl ⟨rfl, hlast⟩)
      · exact .inl ⟨hmem, hne, hlast⟩
      · exact .inr (.inr hmem)
    · rintro (⟨hmem, hne, hlast⟩ | ⟨rfl, hlast⟩ | hmem)
      · exact .inl ⟨.inr ⟨hmem, hne⟩, hlast⟩
      · exact .inl ⟨.inl rfl, hlast⟩
      · exact .inr hmem

theorem mem_ofPairs_cons {pair : κ × α} {pairs : List (κ × α)} {kv : κ × α} :
    kv ∈ ofPairs [] (pair :: pairs) ↔
      kv = pair ∧ pair.1 ∉ pairs.map (·.1) ∨ kv ∈ ofPairs [] pairs := by
  have hone : (([pair] : List (κ × α)).map (·.1)).Nodup := List.nodup_singleton _
  rw [show ofPairs [] (pair :: pairs) = ofPairs [pair] pairs from rfl, mem_ofPairs_iff hone,
    List.mem_singleton]
  exact or_congr (and_congr_right fun h => by rw [h]) Iff.rfl

theorem filter_setItem (p : κ → Bool) (key : κ) (value : α) (d : List (κ × α)) :
    (setItem key value d).filter (fun kv => p kv.1) =
      if p key then setItem key value (d.filter fun kv => p kv.1)
      else d.filter fun kv => p kv.1 := by
  induction d with
  | nil => cases hp : p key <;> simp [setItem, hp]
  | cons kv d ih =>
    by_cases hk : kv.1 = key
    · subst hk
      cases hp : p kv.1 <;> simp [setItem, hp]
    · cases hkv : p kv.1 <;> cases hp : p key <;> simp [setItem, hk, hkv, hp] at ih ⊢ <;> exact ih

/-- Restricting a `dict` to some keys restricts its assignments to them. -/
theorem filter_ofPairs (p : κ → Bool) (d pairs : List (κ × α)) :
    (ofPairs d pairs).filter (fun kv => p kv.1) =
      ofPairs (d.filter fun kv => p kv.1) (pairs.filter fun kv => p kv.1) := by
  induction pairs generalizing d with
  | nil => rfl
  | cons pair pairs ih =>
    rw [show ofPairs d (pair :: pairs) = ofPairs (setItem pair.1 pair.2 d) pairs from rfl, ih,
      filter_setItem]
    cases hp : p pair.1 with
    | true => simp [hp, ofPairs]
    | false => simp [hp]

end

-- ════════════════════════════════════════════════════════════════════════
-- Values
-- ════════════════════════════════════════════════════════════════════════

/-- A `float`: a finite one by its `repr`. -/
inductive PyFloat where
  | finite (repr : String)
  | nan
  | inf
  | negInf
  deriving DecidableEq

namespace PyFloat

/-- `str(x)`. -/
def text : PyFloat → String
  | finite repr => repr
  | nan => "nan"
  | inf => "inf"
  | negInf => "-inf"

/-- What `json.dumps` writes. -/
def literal : PyFloat → String
  | finite repr => repr
  | nan => "NaN"
  | inf => "Infinity"
  | negInf => "-Infinity"

end PyFloat

/-- A key of a `dict`. -/
inductive PyKey where
  | str (s : String)
  | int (n : ℤ)
  | float (x : PyFloat)
  | bool (b : Bool)
  | none
  /-- Any other object, by its `str`. -/
  | object (text : String)
  deriving DecidableEq

namespace PyKey

/-- `str(key)`. -/
def text : PyKey → String
  | str s => s
  | int n => toString n
  | float x => x.text
  | bool b => if b then "True" else "False"
  | none => "None"
  | object text => text

/-- The name `json.dumps` writes for a key; none for a `TypeError`. -/
def name? : PyKey → Option String
  | str s => some s
  | int n => some (toString n)
  | float x => some x.literal
  | bool b => some (if b then "true" else "false")
  | none => some "null"
  | object _ => Option.none

end PyKey

/-- A value. -/
inductive PyValue where
  | none
  | bool (b : Bool)
  | int (n : ℤ)
  | float (x : PyFloat)
  | str (s : String)
  /-- A `UUID`, by its 128 bits. -/
  | uuid (bits : BitVec 128)
  /-- A `datetime`, by its clock reading and the offset of its zone, in microseconds. -/
  | datetime (clock : ℤ) (offset : Option ℤ)
  /-- Any other object, by its `str`. -/
  | object (text : String)
  | list (items : List PyValue)
  | tuple (items : List PyValue)
  | dict (entries : List (PyKey × PyValue))

/-- A JSON document as it is written. -/
inductive Doc where
  | null
  | bool (b : Bool)
  | int (n : ℤ)
  | float (x : PyFloat)
  | str (s : String)
  | arr (items : List Doc)
  | obj (members : List (String × Doc))

-- ════════════════════════════════════════════════════════════════════════
-- Serialization
-- ════════════════════════════════════════════════════════════════════════

mutual

/-- The document `json.dumps` writes; none for a `TypeError`. -/
def PyValue.encode : PyValue → Option Doc
  | .none => some .null
  | .bool b => some (.bool b)
  | .int n => some (.int n)
  | .float x => some (.float x)
  | .str s => some (.str s)
  | .uuid _ => .none
  | .datetime _ _ => .none
  | .object _ => .none
  | .list items => (encodeItems items).map .arr
  | .tuple items => (encodeItems items).map .arr
  | .dict entries => (encodeEntries entries).map .obj

def encodeItems : List PyValue → Option (List Doc)
  | [] => some []
  | v :: vs => do
    let d ← v.encode
    let ds ← encodeItems vs
    pure (d :: ds)

def encodeEntries : List (PyKey × PyValue) → Option (List (String × Doc))
  | [] => some []
  | (k, v) :: entries => do
    let name ← k.name?
    let d ← v.encode
    let ds ← encodeEntries entries
    pure ((name, d) :: ds)

end

mutual

/-- The text `json.dumps` writes, given the literal of a text. -/
def Doc.dumps (quote : String → String) : Doc → String
  | .null => "null"
  | .bool b => if b then "true" else "false"
  | .int n => toString n
  | .float x => x.literal
  | .str s => quote s
  | .arr items => "[" ++ ", ".intercalate (dumpsDocs quote items) ++ "]"
  | .obj members => "\x7b" ++ ", ".intercalate (dumpsMembers quote members) ++ "\x7d"

def dumpsDocs (quote : String → String) : List Doc → List String
  | [] => []
  | d :: ds => d.dumps quote :: dumpsDocs quote ds

def dumpsMembers (quote : String → String) : List (String × Doc) → List String
  | [] => []
  | (name, d) :: ds => (quote name ++ ": " ++ d.dumps quote) :: dumpsMembers quote ds

end

section

variable {v : PyValue} {vs : List PyValue} {k : PyKey} {entries : List (PyKey × PyValue)}

theorem encode_list {d : Doc} :
    (PyValue.list vs).encode = some d ↔ ∃ ds, encodeItems vs = some ds ∧ Doc.arr ds = d :=
  Option.map_eq_some_iff

theorem encode_dict {d : Doc} :
    (PyValue.dict entries).encode = some d ↔
      ∃ ds, encodeEntries entries = some ds ∧ Doc.obj ds = d :=
  Option.map_eq_some_iff

theorem encodeItems_cons {ds : List Doc} :
    encodeItems (v :: vs) = some ds ↔
      ∃ d, v.encode = some d ∧ ∃ ds', encodeItems vs = some ds' ∧ d :: ds' = ds := by
  show (v.encode.bind fun d => (encodeItems vs).bind fun ds => some (d :: ds)) = some ds ↔ _
  simp only [Option.bind_eq_some_iff, Option.some.injEq]

theorem encodeEntries_cons {ds : List (String × Doc)} :
    encodeEntries ((k, v) :: entries) = some ds ↔
      ∃ name, k.name? = some name ∧ ∃ d, v.encode = some d ∧
        ∃ ds', encodeEntries entries = some ds' ∧ (name, d) :: ds' = ds := by
  show (k.name?.bind fun name => v.encode.bind fun d =>
    (encodeEntries entries).bind fun ds => some ((name, d) :: ds)) = some ds ↔ _
  simp only [Option.bind_eq_some_iff, Option.some.injEq]

theorem length_encodeEntries {ds : List (String × Doc)} (h : encodeEntries entries = some ds) :
    ds.length = entries.length := by
  induction entries generalizing ds with
  | nil => cases h; rfl
  | cons entry entries ih =>
    obtain ⟨name, -, d, -, ds', hds, rfl⟩ := encodeEntries_cons.1 h
    rw [List.length_cons, List.length_cons, ih hds]

end

end RunbookPlatform
