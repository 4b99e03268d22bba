import Mathlib.Data.List.Infix
import RunbookPlatform.Core.Python
import RunbookPlatform.Core.Texts
import RunbookPlatform.System
import RunbookPlatform.Text.Strip

/-!
# Snapshots of external references

`sanitize_external_snapshot` keeps the allowed fields of an object, at any depth, with bounded
keys, texts and lists. A key is stripped and then cut, so that a cut key may end in spaces, and
two keys may become one.

## Main definitions

- `sanitizeExternalSnapshot` — `sanitize_external_snapshot`
- `LowersChars` — what is known of `str.lower()`
- `Projection` — the result has no forbidden key, is a fixed point, and has every allowed field
- `Regular` — the objects on which the cut keys are distinct and end in no space

## Main results

- `sanitized_clean` — the result has no forbidden key
- `projection_iff` — sanitizing is a projection exactly on regular objects
-/

namespace RunbookPlatform

/-- `MAX_EXTERNAL_SNAPSHOT_BYTES`. -/
def maxExternalSnapshotBytes : ℕ := 16 * 1024

/-- `MAX_EXTERNAL_SNAPSHOT_DEPTH`. -/
def maxExternalSnapshotDepth : ℕ := 4

/-- `MAX_EXTERNAL_SNAPSHOT_KEYS`. -/
def maxExternalSnapshotKeys : ℕ := 64

/-- `MAX_EXTERNAL_SNAPSHOT_STRING_LENGTH`. -/
def maxExternalSnapshotStringLength : ℕ := 2048

/-- `FORBIDDEN_EXTERNAL_SNAPSHOT_KEYS`. -/
def forbiddenExternalSnapshotKeys : List String :=
  ["api_key", "api_token", "apikey", "apitoken", "auth", "auth_header", "authorization", "bearer",
    "bearer_token", "attachment", "attachments", "comment", "comments", "cookie", "credentials",
    "headers", "password", "private_key", "raw", "raw_response", "raw_response_body",
    "request_body", "response_body", "secret", "session", "session_token", "token"]

/-- The parts of a key that make it forbidden. -/
def secretMarkers : List String := ["token", "secret", "password"]

mutual

/-- `json.dumps(value, sort_keys=True, separators=(",", ":"))`. -/
def Doc.compact : Doc → String
  | .null => "null"
  | .bool b => if b then "true" else "false"
  | .int n => toString n
  | .float x => x.literal
  | .str s => Json.quote Json.escapeAscii s
  | .arr items => "[" ++ ",".intercalate (compactItems items) ++ "]"
  | .obj members =>
    "\x7b" ++ ",".intercalate ((Json.sortByKey (compactMembers members)).map fun kv =>
      Json.quote Json.escapeAscii kv.1 ++ ":" ++ kv.2) ++ "\x7d"

def compactItems : List Doc → List String
  | [] => []
  | d :: ds => d.compact :: compactItems ds

def compactMembers : List (String × Doc) → List (String × String)
  | [] => []
  | (name, d) :: ds => (name, d.compact) :: compactMembers ds

end

/-- `django.core.exceptions.ValidationError`. -/
def invalidSnapshot (message : String) : Err := .validation "" message

section

variable (env : Env)

/-- The key is one of the forbidden ones, or contains a marker, whatever its case. -/
def isForbiddenKey (key : String) : Bool :=
  forbiddenExternalSnapshotKeys.contains (env.lower key) ||
    secretMarkers.any (containsText (env.lower key))

/-- The loop of `_sanitize_snapshot_value` keeps the key. -/
@[irreducible] def keepsKey (key : String) : Bool := strip key != "" && !isForbiddenKey env (strip key)

/-- `key_text[:128]`. -/
@[irreducible] def snapshotKey (key : String) : String := takeText 128 (strip key)

mutual

/-- `_sanitize_snapshot_value`. -/
def sanitizeValue (depth : ℕ) : Doc → Except Err Doc
  | .obj members => do
    check (depth ≤ maxExternalSnapshotDepth) <|
      invalidSnapshot "External reference snapshot is too deeply nested."
    check (members.length ≤ maxExternalSnapshotKeys) <|
      invalidSnapshot "External reference snapshot has too many fields."
    let sanitized ← sanitizePairs (depth + 1) members
    pure (.obj (ofPairs [] sanitized))
  | .arr items => do
    check (depth ≤ maxExternalSnapshotDepth) <|
      invalidSnapshot "External reference snapshot is too deeply nested."
    let items ← sanitizeItems (depth + 1) maxExternalSnapshotKeys items
    pure (.arr items)
  | .str s => do
    check (depth ≤ maxExternalSnapshotDepth) <|
      invalidSnapshot "External reference snapshot is too deeply nested."
    pure (.str (takeText maxExternalSnapshotStringLength s))
  | value => do
    check (depth ≤ maxExternalSnapshotDepth) <|
      invalidSnapshot "External reference snapshot is too deeply nested."
    pure value

/-- The first `limit` items, sanitized. -/
def sanitizeItems (depth : ℕ) : ℕ → List Doc → Except Err (List Doc)
  | 0, _ => pure []
  | _, [] => pure []
  | limit + 1, item :: items => do
    let item ← sanitizeValue depth item
    let items ← sanitizeItems depth limit items
    pure (item :: items)

/-- What the loop over `value.items()` assigns, in its order. -/
def sanitizePairs (depth : ℕ) : List (String × Doc) → Except Err (List (String × Doc))
  | [] => pure []
  | (key, child) :: members =>
    if keepsKey env key then do
      let child ← sanitizeValue depth child
      let sanitized ← sanitizePairs depth members
      pure ((snapshotKey key, child) :: sanitized)
    else sanitizePairs depth members

end

/-- `sanitize_external_snapshot`. -/
def sanitizeExternalSnapshot (snapshot : Doc) : Except Err Doc :=
  match snapshot with
  | .null => pure (.obj [])
  | .str "" => pure (.obj [])
  | .obj members => do
    let sanitized ← sanitizeValue env 0 (.obj members)
    check (sanitized.compact.utf8ByteSize ≤ maxExternalSnapshotBytes) <| invalidSnapshot
      s!"External reference snapshot must be smaller than {maxExternalSnapshotBytes} bytes."
    pure sanitized
  | _ => .error (invalidSnapshot "External reference snapshot must be a JSON object.")

-- ════════════════════════════════════════════════════════════════════════
-- What a projection is
-- ════════════════════════════════════════════════════════════════════════

mutual

/-- No key of the value is forbidden, at any depth. -/
def Doc.Unforbidden : Doc → Prop
  | .obj members => UnforbiddenMembers members
  | .arr items => UnforbiddenItems items
  | _ => True

def UnforbiddenItems : List Doc → Prop
  | [] => True
  | item :: items => item.Unforbidden ∧ UnforbiddenItems items

def UnforbiddenMembers : List (String × Doc) → Prop
  | [] => True
  | (key, child) :: members =>
    isForbiddenKey env key = false ∧ child.Unforbidden ∧ UnforbiddenMembers members

end

mutual

/-- The result has the allowed fields of the value one by one, under their cut keys, and its
scalars, up to the limits on texts and lists. -/
def Faithful : Doc → Doc → Prop
  | .obj members, result => ∃ fields, result = .obj fields ∧ FaithfulMembers members fields
  | .arr items, result =>
    ∃ values, result = .arr values ∧ FaithfulItems maxExternalSnapshotKeys items values
  | .str s, result => result = .str (takeText maxExternalSnapshotStringLength s)
  | value, result => result = value

def FaithfulItems : ℕ → List Doc → List Doc → Prop
  | 0, _, values => values = []
  | _, [], values => values = []
  | limit + 1, item :: items, values =>
    ∃ value rest, values = value :: rest ∧ Faithful item value ∧ FaithfulItems limit items rest

def FaithfulMembers : List (String × Doc) → List (String × Doc) → Prop
  | [], fields => fields = []
  | (key, child) :: members, fields =>
    if keepsKey env key then
      ∃ value rest, fields = (snapshotKey key, value) :: rest ∧ Faithful child value ∧
        FaithfulMembers members rest
    else FaithfulMembers members fields

end

/-- Sanitizing the snapshot to the result is a projection. -/
structure Projection (snapshot result : Doc) : Prop where
  unforbidden : result.Unforbidden env
  again : sanitizeExternalSnapshot env result = .ok result
  faithful : Faithful env snapshot result

/-- The cut keys of the members that are kept. -/
def cutKeys (members : List (String × Doc)) : List String :=
  (members.filter fun kv => keepsKey env kv.1).map fun kv => snapshotKey kv.1

mutual

/-- In every object under allowed keys, and within the limits on lists, the cut keys are distinct
and end in no space. -/
def Regular : Doc → Prop
  | .obj members =>
    (cutKeys env members).Nodup ∧ RegularMembers members
  | .arr items => RegularItems maxExternalSnapshotKeys items
  | _ => True

def RegularItems : ℕ → List Doc → Prop
  | 0, _ => True
  | _, [] => True
  | limit + 1, item :: items => Regular item ∧ RegularItems limit items

def RegularMembers : List (String × Doc) → Prop
  | [] => True
  | (key, child) :: members =>
    (keepsKey env key = true → strip (snapshotKey key) = snapshotKey key ∧ Regular child) ∧
      RegularMembers members

end

end

variable {env : Env}

-- ════════════════════════════════════════════════════════════════════════
-- Lower case
-- ════════════════════════════════════════════════════════════════════════

/-- The two small sigmas as one. -/
def unifySigma (c : Char) : Char := if c = 'ς' then 'σ' else c

/-- `str.lower()` maps a text character by character, but for the capital sigma, whose small form
depends on its place in the word. -/
def LowersChars (lower : String → String) : Prop :=
  ∃ f : Char → List Char, (∀ c, f c ≠ []) ∧
    ∀ text, (lower text).toList.map unifySigma = text.toList.flatMap f

theorem containsText_iff {text part : String} :
    containsText text part = true ↔ part.toList <:+: text.toList := by
  rw [containsText, List.any_eq_true, List.infix_iff_prefix_suffix]
  simp only [List.mem_tails, List.isPrefixOf_iff_prefix]
  exact exists_congr fun _ => and_comm

/-- A text without sigmas occurs in a text when it does with the sigmas unified. -/
theorem infix_unifySigma {part cs : List Char} (hpart : 'σ' ∉ part ∧ 'ς' ∉ part) :
    part <:+: cs.map unifySigma ↔ part <:+: cs := by
  constructor
  · rintro ⟨before, after, h⟩
    obtain ⟨l, r, rfl, hl, -⟩ := List.map_eq_append_iff.1 h.symm
    obtain ⟨l, m, rfl, -, hm⟩ := List.map_eq_append_iff.1 hl
    have hkept : m.map unifySigma = m := by
      refine (List.map_congr_left (g := id) fun c hc => ?_).trans (List.map_id m)
      have hmem : unifySigma c ∈ part := hm ▸ List.mem_map_of_mem hc
      rw [unifySigma] at hmem ⊢
      split_ifs at hmem ⊢
      · exact absurd hmem hpart.1
      · rfl
    exact ⟨l, r, by rw [← hm, hkept]⟩
  · rintro ⟨before, after, rfl⟩
    have hfix : part.map unifySigma = part := by
      refine (List.map_congr_left (g := id) fun c hc => ?_).trans (List.map_id part)
      rw [unifySigma, if_neg (ne_of_mem_of_not_mem hc hpart.2)]
      rfl
    exact ⟨before.map unifySigma, after.map unifySigma,
      by rw [List.map_append, List.map_append, hfix]⟩

section

variable (hlower : LowersChars env.lower)

include hlower

/-- A text is no longer than its lower case. -/
theorem length_le_lower (text : String) : text.length ≤ (env.lower text).length := by
  obtain ⟨f, hf, hchars⟩ := hlower
  have hgrows : ∀ cs : List Char, cs.length ≤ (cs.flatMap f).length := by
    intro cs
    induction cs with
    | nil => exact le_rfl
    | cons c cs ih =>
      have hpos := List.length_pos_of_ne_nil (hf c)
      rw [List.flatMap_cons, List.length_append, List.length_cons]
      omega
  have hlength := congrArg List.length (hchars text)
  rw [List.length_map] at hlength
  rw [← String.length_toList, ← String.length_toList, hlength]
  exact hgrows _

/-- What a cut text contains in lower case, the text contains. -/
theorem contains_lower_take {n : ℕ} {text part : String}
    (hpart : 'σ' ∉ part.toList ∧ 'ς' ∉ part.toList)
    (h : containsText (env.lower (takeText n text)) part = true) :
    containsText (env.lower text) part = true := by
  obtain ⟨f, -, hchars⟩ := hlower
  rw [containsText_iff, ← infix_unifySigma hpart, hchars] at h ⊢
  rw [takeText, String.toList_ofList] at h
  rw [← List.take_append_drop n text.toList, List.flatMap_append]
  exact h.trans (List.prefix_append _ _).isInfix

/-- A cut key is not forbidden when the key is not: a key that is cut is longer than every
forbidden one. -/
theorem isForbiddenKey_take {text : String} (h : isForbiddenKey env text = false) :
    isForbiddenKey env (takeText 128 text) = false := by
  have hshort : ∀ key ∈ forbiddenExternalSnapshotKeys, key.length < 128 := by decide
  have hmarkers : ∀ marker ∈ secretMarkers, 'σ' ∉ marker.toList ∧ 'ς' ∉ marker.toList := by decide
  by_cases hle : text.length ≤ 128
  · rwa [takeText_of_length_le hle]
  rw [isForbiddenKey, Bool.or_eq_false_iff] at h ⊢
  constructor
  · rw [Bool.eq_false_iff, ne_eq, List.contains_iff_mem]
    intro hmem
    have hgrows := length_le_lower hlower (takeText 128 text)
    have hcut : (takeText 128 text).length = 128 := by
      rw [takeText, ← String.length_toList, String.toList_ofList, List.length_take,
        String.length_toList]
      omega
    have := hshort _ hmem
    omega
  · rw [List.any_eq_false] at h ⊢
    exact fun marker hmarker hcontains =>
      h.2 marker hmarker (contains_lower_take hlower (hmarkers marker hmarker) hcontains)

theorem isForbiddenKey_snapshotKey {key : String} (h : keepsKey env key = true) :
    isForbiddenKey env (snapshotKey key) = false := by
  rw [keepsKey, Bool.and_eq_true, Bool.not_eq_true'] at h
  rw [snapshotKey]
  exact isForbiddenKey_take hlower h.2

/-- A cut key is kept as it is exactly when it ends in no space. -/
theorem snapshotKey_stable {key : String} (h : keepsKey env key = true) :
    keepsKey env (snapshotKey key) = true ∧ snapshotKey (snapshotKey key) = snapshotKey key ↔
      strip (snapshotKey key) = snapshotKey key := by
  have hcut : (snapshotKey key).length ≤ 128 := by
    rw [snapshotKey]
    exact length_takeText _ _
  have hagain : snapshotKey (snapshotKey key) = takeText 128 (strip (snapshotKey key)) :=
    snapshotKey.eq_1 _
  constructor
  · rintro ⟨-, hsame⟩
    rw [hagain, takeText_of_length_le ((length_strip_le _).trans hcut)] at hsame
    exact hsame
  · intro hstrip
    have hkept := h
    rw [keepsKey, Bool.and_eq_true, bne_iff_ne] at hkept
    have hne : snapshotKey key ≠ "" := by
      rw [snapshotKey]
      exact takeText_ne_empty (by decide) hkept.1
    have hallowed := isForbiddenKey_snapshotKey hlower h
    refine ⟨?_, ?_⟩
    · rw [keepsKey, hstrip, hallowed, Bool.and_eq_true]
      exact ⟨bne_iff_ne.2 hne, rfl⟩
    · rw [hagain, hstrip, takeText_of_length_le hcut]

end

-- ════════════════════════════════════════════════════════════════════════
-- What the sanitizer does
-- ════════════════════════════════════════════════════════════════════════

section

variable {d : ℕ} {r : Doc}

theorem sanitizeValue_obj {members : List (String × Doc)} :
    sanitizeValue env d (.obj members) = .ok r ↔ d ≤ maxExternalSnapshotDepth ∧
      members.length ≤ maxExternalSnapshotKeys ∧
      ∃ pairs, sanitizePairs env (d + 1) members = .ok pairs ∧ .obj (ofPairs [] pairs) = r := by
  simp only [sanitizeValue, except_bind_ok, check_ok, exists_and_left, exists_const, pure,
    Except.pure, Except.ok.injEq]

theorem sanitizeValue_arr {items : List Doc} :
    sanitizeValue env d (.arr items) = .ok r ↔ d ≤ maxExternalSnapshotDepth ∧
      ∃ values, sanitizeItems env (d + 1) maxExternalSnapshotKeys items = .ok values ∧
        .arr values = r := by
  simp only [sanitizeValue, except_bind_ok, check_ok, exists_and_left, exists_const, pure,
    Except.pure, Except.ok.injEq]

theorem sanitizeValue_str {s : String} :
    sanitizeValue env d (.str s) = .ok r ↔ d ≤ maxExternalSnapshotDepth ∧
      .str (takeText maxExternalSnapshotStringLength s) = r := by
  simp only [sanitizeValue, except_bind_ok, check_ok, exists_const, pure,
    Except.pure, Except.ok.injEq]

theorem sanitizeItems_cons {limit : ℕ} {item : Doc} {items values : List Doc} :
    sanitizeItems env d (limit + 1) (item :: items) = .ok values ↔
      ∃ value, sanitizeValue env d item = .ok value ∧
        ∃ rest, sanitizeItems env d limit items = .ok rest ∧ value :: rest = values := by
  simp only [sanitizeItems, except_bind_ok, pure, Except.pure, Except.ok.injEq]

theorem sanitizeItems_nil (limit : ℕ) : sanitizeItems env d limit [] = .ok [] := by
  cases limit <;> simp [sanitizeItems, pure, Except.pure]

theorem sanitizePairs_nil : sanitizePairs env d [] = .ok [] := by
  rw [sanitizePairs]
  rfl

theorem sanitizePairs_kept {key : String} {child : Doc} {members pairs : List (String × Doc)}
    (h : keepsKey env key = true) :
    sanitizePairs env d ((key, child) :: members) = .ok pairs ↔
      ∃ value, sanitizeValue env d child = .ok value ∧
        ∃ rest, sanitizePairs env d members = .ok rest ∧ (snapshotKey key, value) :: rest = pairs := by
  rw [sanitizePairs, if_pos h]
  simp only [except_bind_ok, pure, Except.pure, Except.ok.injEq]

theorem sanitizePairs_dropped {key : String} {child : Doc} {members : List (String × Doc)}
    (h : keepsKey env key = false) :
    sanitizePairs env d ((key, child) :: members) = sanitizePairs env d members := by
  rw [sanitizePairs, if_neg (by rw [h]; exact Bool.false_ne_true)]

theorem cutKeys_kept {key : String} {child : Doc} {members : List (String × Doc)}
    (h : keepsKey env key = true) :
    cutKeys env ((key, child) :: members) = snapshotKey key :: cutKeys env members := by
  rw [cutKeys, List.filter_cons_of_pos (by exact h), List.map_cons, cutKeys]

theorem cutKeys_dropped {key : String} {child : Doc} {members : List (String × Doc)}
    (h : keepsKey env key = false) :
    cutKeys env ((key, child) :: members) = cutKeys env members := by
  rw [cutKeys, List.filter_cons_of_neg (by simp [h]), cutKeys]

theorem faithfulMembers_kept {key : String} {child : Doc} {members fields : List (String × Doc)}
    (h : keepsKey env key = true) :
    FaithfulMembers env ((key, child) :: members) fields ↔
      ∃ value rest, fields = (snapshotKey key, value) :: rest ∧ Faithful env child value ∧
        FaithfulMembers env members rest := by
  rw [FaithfulMembers, if_pos h]

theorem faithfulMembers_dropped {key : String} {child : Doc}
    {members fields : List (String × Doc)} (h : keepsKey env key = false) :
    FaithfulMembers env ((key, child) :: members) fields ↔ FaithfulMembers env members fields := by
  rw [FaithfulMembers, if_neg (by rw [h]; exact Bool.false_ne_true)]

/-- The keys that the loop assigns are the cut ones of the keys it keeps. -/
theorem map_sanitizePairs {members pairs : List (String × Doc)}
    (h : sanitizePairs env d members = .ok pairs) : pairs.map (·.1) = cutKeys env members := by
  induction members generalizing pairs with
  | nil =>
    rw [sanitizePairs_nil] at h
    cases h
    rfl
  | cons member members ih =>
    obtain ⟨key, child⟩ := member
    cases hkeeps : keepsKey env key with
    | false =>
      rw [sanitizePairs_dropped hkeeps] at h
      rw [cutKeys_dropped hkeeps, ih h]
    | true =>
      obtain ⟨value, -, rest, hrest, rfl⟩ := (sanitizePairs_kept hkeeps).1 h
      rw [cutKeys_kept hkeeps, List.map_cons, ih hrest]

theorem length_sanitizePairs_le {members pairs : List (String × Doc)}
    (h : sanitizePairs env d members = .ok pairs) : pairs.length ≤ members.length := by
  have hkeys := congrArg List.length (map_sanitizePairs h)
  rw [List.length_map, cutKeys, List.length_map] at hkeys
  exact hkeys.trans_le (List.length_filter_le _ _)

/-- A faithful object has the cut keys. -/
theorem map_faithfulMembers {members fields : List (String × Doc)}
    (h : FaithfulMembers env members fields) : fields.map (·.1) = cutKeys env members := by
  induction members generalizing fields with
  | nil =>
    rw [FaithfulMembers] at h
    rw [h]
    rfl
  | cons member members ih =>
    obtain ⟨key, child⟩ := member
    cases hkeeps : keepsKey env key with
    | false =>
      rw [faithfulMembers_dropped hkeeps] at h
      rw [cutKeys_dropped hkeeps, ih h]
    | true =>
      obtain ⟨value, rest, rfl, -, hrest⟩ := (faithfulMembers_kept hkeeps).1 h
      rw [cutKeys_kept hkeeps, List.map_cons, ih hrest]

end

-- ════════════════════════════════════════════════════════════════════════
-- No forbidden keys
-- ════════════════════════════════════════════════════════════════════════

theorem unforbiddenMembers_iff {members : List (String × Doc)} :
    UnforbiddenMembers env members ↔
      ∀ kv ∈ members, isForbiddenKey env kv.1 = false ∧ kv.2.Unforbidden env := by
  induction members with
  | nil => exact iff_of_true trivial fun _ h => absurd h List.not_mem_nil
  | cons member members ih =>
    rw [UnforbiddenMembers, ih, List.forall_mem_cons, and_assoc]

mutual

/-- **The result has no forbidden key**, at any depth. -/
theorem sanitized_clean (hlower : LowersChars env.lower) : ∀ (v : Doc) {d : ℕ} {r : Doc}, sanitizeValue env d v = .ok r →
    r.Unforbidden env
  | .obj members, d, r, h => by
    obtain ⟨-, -, pairs, hpairs, rfl⟩ := sanitizeValue_obj.1 h
    rw [Doc.Unforbidden, unforbiddenMembers_iff]
    intro kv hkv
    refine unforbiddenMembers_iff.1 (sanitizedPairs_clean hlower members hpairs) kv ?_
    exact (mem_ofPairs hkv).resolve_left List.not_mem_nil
  | .arr items, d, r, h => by
    obtain ⟨-, values, hvalues, rfl⟩ := sanitizeValue_arr.1 h
    exact sanitizedItems_clean hlower _ items hvalues
  | .str s, d, r, h => by
    obtain ⟨-, rfl⟩ := sanitizeValue_str.1 h
    trivial
  | .null, d, r, h => by
    simp only [sanitizeValue, except_bind_ok] at h
    obtain ⟨-, -, h⟩ := h
    cases h
    trivial
  | .bool _, d, r, h => by
    simp only [sanitizeValue, except_bind_ok] at h
    obtain ⟨-, -, h⟩ := h
    cases h
    trivial
  | .int _, d, r, h => by
    simp only [sanitizeValue, except_bind_ok] at h
    obtain ⟨-, -, h⟩ := h
    cases h
    trivial
  | .float _, d, r, h => by
    simp only [sanitizeValue, except_bind_ok] at h
    obtain ⟨-, -, h⟩ := h
    cases h
    trivial

theorem sanitizedItems_clean (hlower : LowersChars env.lower) : ∀ (limit : ℕ) (items : List Doc)
    {d : ℕ} {values : List Doc}, sanitizeItems env d limit items = .ok values → UnforbiddenItems env values
  | 0, _, _, _, h => by
    rw [sanitizeItems] at h
    cases h
    trivial
  | limit + 1, [], _, _, h => by
    rw [sanitizeItems_nil] at h
    cases h
    trivial
  | limit + 1, item :: items, d, values, h => by
    obtain ⟨value, hvalue, rest, hrest, rfl⟩ := sanitizeItems_cons.1 h
    exact ⟨sanitized_clean hlower item hvalue, sanitizedItems_clean hlower limit items hrest⟩

theorem sanitizedPairs_clean (hlower : LowersChars env.lower) :
    ∀ (members : List (String × Doc)) {d : ℕ} {pairs : List (String × Doc)}, sanitizePairs env d members = .ok pairs →
      UnforbiddenMembers env pairs
  | [], _, _, h => by
    rw [sanitizePairs_nil] at h
    cases h
    trivial
  | (key, child) :: members, d, pairs, h => by
    cases hkeeps : keepsKey env key with
    | false =>
      rw [sanitizePairs_dropped hkeeps] at h
      exact sanitizedPairs_clean hlower members h
    | true =>
      obtain ⟨value, hvalue, rest, hrest, rfl⟩ := (sanitizePairs_kept hkeeps).1 h
      exact ⟨isForbiddenKey_snapshotKey hlower hkeeps, sanitized_clean hlower child hvalue,
        sanitizedPairs_clean hlower members hrest⟩

end

-- ════════════════════════════════════════════════════════════════════════
-- Projections
-- ════════════════════════════════════════════════════════════════════════

theorem sanitizeValue_scalar {v r : Doc} {d : ℕ}
    (hv : sanitizeValue env d v = (do
      check (d ≤ maxExternalSnapshotDepth) <|
        invalidSnapshot "External reference snapshot is too deeply nested."
      pure v)) (h : sanitizeValue env d v = .ok r) : r = v := by
  rw [hv] at h
  simp only [except_bind_ok] at h
  obtain ⟨-, -, h⟩ := h
  cases h
  rfl

/-- An object that is sanitized to itself is one whose entries are. -/
theorem sanitizePairs_of_fixed {d : ℕ} {pairs : List (String × Doc)}
    (h : sanitizeValue env d (.obj pairs) = .ok (.obj pairs)) :
    sanitizePairs env (d + 1) pairs = .ok pairs := by
  obtain ⟨-, -, again, hagain, heq⟩ := sanitizeValue_obj.1 h
  have hpairs : ofPairs [] again = pairs := Doc.obj.inj heq
  have hle := length_ofPairs_le [] again
  have hshort := length_sanitizePairs_le hagain
  rw [hpairs, List.length_nil, Nat.zero_add] at hle
  have hnodup := @nodup_of_length_ofPairs _ _ _ [] again List.nodup_nil
    (by rw [hpairs, List.length_nil, Nat.zero_add]; omega)
  rw [ofPairs_of_nodup hnodup, List.nil_append] at hpairs
  rwa [hpairs] at hagain

mutual

/-- **Values**: a sanitized value is faithful and a fixed point exactly when the value is
regular. -/
theorem regular_iff (hlower : LowersChars env.lower) : ∀ (v : Doc) {d : ℕ} {r : Doc},
    sanitizeValue env d v = .ok r →
      (Faithful env v r ∧ sanitizeValue env d r = .ok r ↔ Regular env v)
  | .obj members, d, r, h => by
    obtain ⟨hdepth, hmany, pairs, hpairs, rfl⟩ := sanitizeValue_obj.1 h
    have hkeys := map_sanitizePairs hpairs
    have ih := regularMembers_iff hlower members hpairs
    rw [Faithful, Regular]
    constructor
    · rintro ⟨⟨fields, heq, hfaithful⟩, hagain⟩
      cases heq
      have hnodup : (pairs.map (·.1)).Nodup := by
        rw [hkeys, ← map_faithfulMembers hfaithful]
        exact nodup_ofPairs List.nodup_nil
      have hsame : ofPairs [] pairs = pairs := ofPairs_of_nodup hnodup
      rw [hsame] at hfaithful hagain
      exact ⟨hkeys ▸ hnodup, ih.1 ⟨hfaithful, sanitizePairs_of_fixed hagain⟩⟩
    · rintro ⟨hnodup, hregular⟩
      have hsame : ofPairs [] pairs = pairs := ofPairs_of_nodup (d := []) (hkeys ▸ hnodup)
      obtain ⟨hfaithful, hagain⟩ := ih.2 hregular
      rw [hsame]
      refine ⟨⟨pairs, rfl, hfaithful⟩, sanitizeValue_obj.2 ⟨hdepth, ?_, pairs, hagain, ?_⟩⟩
      · exact (length_sanitizePairs_le hpairs).trans hmany
      · rw [hsame]
  | .arr items, d, r, h => by
    obtain ⟨hdepth, values, hvalues, rfl⟩ := sanitizeValue_arr.1 h
    have ih := regularItems_iff hlower _ items hvalues
    rw [Faithful, Regular, ← ih]
    constructor
    · rintro ⟨⟨values', heq, hfaithful⟩, hagain⟩
      cases heq
      obtain ⟨-, again, hagain, heq⟩ := sanitizeValue_arr.1 hagain
      cases heq
      exact ⟨hfaithful, hagain⟩
    · rintro ⟨hfaithful, hagain⟩
      exact ⟨⟨values, rfl, hfaithful⟩, sanitizeValue_arr.2 ⟨hdepth, values, hagain, rfl⟩⟩
  | .str s, d, r, h => by
    obtain ⟨hdepth, rfl⟩ := sanitizeValue_str.1 h
    refine iff_of_true ⟨by rw [Faithful], sanitizeValue_str.2 ⟨hdepth, ?_⟩⟩ trivial
    rw [takeText_of_length_le (length_takeText _ _)]
  | .null, d, r, h => by
    obtain rfl := sanitizeValue_scalar (by rw [sanitizeValue] <;> simp) h
    exact iff_of_true ⟨by simp [Faithful], h⟩ trivial
  | .bool _, d, r, h => by
    obtain rfl := sanitizeValue_scalar (by rw [sanitizeValue] <;> simp) h
    exact iff_of_true ⟨by simp [Faithful], h⟩ trivial
  | .int _, d, r, h => by
    obtain rfl := sanitizeValue_scalar (by rw [sanitizeValue] <;> simp) h
    exact iff_of_true ⟨by simp [Faithful], h⟩ trivial
  | .float _, d, r, h => by
    obtain rfl := sanitizeValue_scalar (by rw [sanitizeValue] <;> simp) h
    exact iff_of_true ⟨by simp [Faithful], h⟩ trivial

theorem regularItems_iff (hlower : LowersChars env.lower) : ∀ (limit : ℕ) (items : List Doc)
    {d : ℕ} {values : List Doc}, sanitizeItems env d limit items = .ok values →
      (FaithfulItems env limit items values ∧ sanitizeItems env d limit values = .ok values ↔
        RegularItems env limit items)
  | 0, _, _, _, h => by
    rw [sanitizeItems] at h
    cases h
    rw [FaithfulItems, RegularItems]
    exact iff_of_true ⟨rfl, sanitizeItems_nil 0⟩ trivial
  | limit + 1, [], _, _, h => by
    rw [sanitizeItems_nil] at h
    cases h
    refine iff_of_true ⟨?_, sanitizeItems_nil _⟩ ?_
    · simp [FaithfulItems]
    · simp [RegularItems]
  | limit + 1, item :: items, d, values, h => by
    obtain ⟨value, hvalue, rest, hrest, rfl⟩ := sanitizeItems_cons.1 h
    rw [FaithfulItems, RegularItems, ← regular_iff hlower item hvalue,
      ← regularItems_iff hlower limit items hrest]
    constructor
    · rintro ⟨⟨value', rest', heq, hfaithful, hfaithfuls⟩, hagain⟩
      cases heq
      obtain ⟨again, hagain, agains, hagains, heq⟩ := sanitizeItems_cons.1 hagain
      cases heq
      exact ⟨⟨hfaithful, hagain⟩, hfaithfuls, hagains⟩
    · rintro ⟨⟨hfaithful, hagain⟩, hfaithfuls, hagains⟩
      exact ⟨⟨value, rest, rfl, hfaithful, hfaithfuls⟩,
        sanitizeItems_cons.2 ⟨value, hagain, rest, hagains, rfl⟩⟩

theorem regularMembers_iff (hlower : LowersChars env.lower) :
    ∀ (members : List (String × Doc)) {d : ℕ} {pairs : List (String × Doc)},
      sanitizePairs env d members = .ok pairs →
        (FaithfulMembers env members pairs ∧ sanitizePairs env d pairs = .ok pairs ↔
          RegularMembers env members)
  | [], _, _, h => by
    rw [sanitizePairs_nil] at h
    cases h
    rw [FaithfulMembers, RegularMembers]
    exact iff_of_true ⟨rfl, sanitizePairs_nil⟩ trivial
  | (key, child) :: members, d, pairs, h => by
    cases hkeeps : keepsKey env key with
    | false =>
      rw [sanitizePairs_dropped hkeeps] at h
      rw [faithfulMembers_dropped hkeeps, RegularMembers, hkeeps,
        regularMembers_iff hlower members h]
      simp
    | true =>
      obtain ⟨value, hvalue, rest, hrest, rfl⟩ := (sanitizePairs_kept hkeeps).1 h
      rw [faithfulMembers_kept hkeeps, RegularMembers, ← regular_iff hlower child hvalue,
        ← regularMembers_iff hlower members hrest, ← snapshotKey_stable hlower hkeeps]
      constructor
      · rintro ⟨⟨value', rest', heq, hfaithful, hfaithfuls⟩, hagain⟩
        cases heq
        cases hkept : keepsKey env (snapshotKey key) with
        | false =>
          -- A dropped entry leaves too few.
          rw [sanitizePairs_dropped hkept] at hagain
          have hshort := length_sanitizePairs_le hagain
          rw [List.length_cons] at hshort
          omega
        | true =>
          obtain ⟨again, hvalue', agains, hagains, heq⟩ := (sanitizePairs_kept hkept).1 hagain
          obtain ⟨hhead, rfl⟩ := List.cons.inj heq
          obtain ⟨hkey, rfl⟩ := Prod.mk.inj hhead
          exact ⟨fun _ => ⟨⟨rfl, hkey⟩, hfaithful, hvalue'⟩, hfaithfuls, hagains⟩
      · rintro ⟨hhead, hfaithfuls, hagains⟩
        obtain ⟨⟨hkept, hkey⟩, hfaithful, hagain⟩ := hhead hkeeps
        refine ⟨⟨value, rest, rfl, hfaithful, hfaithfuls⟩,
          (sanitizePairs_kept hkept).2 ⟨value, hagain, rest, hagains, ?_⟩⟩
        rw [hkey]

end

theorem sanitizeExternalSnapshot_obj {members : List (String × Doc)} {r : Doc} :
    sanitizeExternalSnapshot env (.obj members) = .ok r ↔
      sanitizeValue env 0 (.obj members) = .ok r ∧
        r.compact.utf8ByteSize ≤ maxExternalSnapshotBytes := by
  simp only [sanitizeExternalSnapshot, except_bind_ok, check_ok, exists_const, pure, Except.pure,
    Except.ok.injEq]
  constructor
  · rintro ⟨a, hvalue, hsize, rfl⟩
    exact ⟨hvalue, hsize⟩
  · rintro ⟨hvalue, hsize⟩
    exact ⟨r, hvalue, hsize, rfl⟩

/-- **Sanitizing is a projection exactly on regular objects**: for every object that is accepted
the result has no forbidden key; it is sanitized to itself, and has each allowed field of the
object under a key of its own, if and only if the cut keys of every object are distinct and end in
no space. -/
theorem projection_iff (hlower : LowersChars env.lower) {members : List (String × Doc)} {r : Doc}
    (h : sanitizeExternalSnapshot env (.obj members) = .ok r) :
    Projection env (.obj members) r ↔ Regular env (.obj members) := by
  obtain ⟨hvalue, hsize⟩ := sanitizeExternalSnapshot_obj.1 h
  rw [← regular_iff hlower _ hvalue]
  obtain ⟨-, -, pairs, -, rfl⟩ := sanitizeValue_obj.1 hvalue
  constructor
  · intro hprojection
    exact ⟨hprojection.faithful, (sanitizeExternalSnapshot_obj.1 hprojection.again).1⟩
  · rintro ⟨hfaithful, hagain⟩
    exact ⟨sanitized_clean hlower _ hvalue,
      sanitizeExternalSnapshot_obj.2 ⟨hagain, hsize⟩, hfaithful⟩

/-- A text without capitals is its own lower case. -/
theorem lowersChars_sample : LowersChars Env.sample.lower :=
  ⟨fun c => [unifySigma c], fun _ => List.cons_ne_nil _ _, fun _ => List.map_eq_flatMap⟩

def titledSnapshot : List (String × Doc) :=
  [("title", .str "Initial"), ("labels", .arr [.obj [(" name ", .int 1)]]), ("token", .str "x")]

theorem projection_titled :
    Projection .sample (.obj titledSnapshot)
        (.obj [("title", .str "Initial"), ("labels", .arr [.obj [("name", .int 1)]])]) ↔
      Regular .sample (.obj titledSnapshot) :=
  projection_iff lowersChars_sample (by with_unfolding_all rfl)

/-- Two keys that differ in their spaces become one: the first value is lost. -/
theorem spaced_keys_merge :
    sanitizeExternalSnapshot .sample (.obj [(" a", .int 1), ("a", .int 2)]) =
        .ok (.obj [("a", .int 2)]) ∧
      ¬Projection .sample (.obj [(" a", .int 1), ("a", .int 2)]) (.obj [("a", .int 2)]) := by
  refine ⟨by with_unfolding_all rfl, fun h => ?_⟩
  have hfaithful := h.faithful
  rw [Faithful] at hfaithful
  obtain ⟨fields, heq, hmembers⟩ := hfaithful
  cases heq
  have hkeys := congrArg List.length (map_faithfulMembers hmembers)
  revert hkeys
  decide +kernel

end RunbookPlatform
