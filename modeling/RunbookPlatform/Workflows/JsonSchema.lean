import RunbookPlatform.Core.Json

/-!
# JSON Schema

The keywords of JSON Schema, draft 7, that schemas without references, floating-point
bounds and formats are made of. A schema is a list of keywords, each of which ignores the
values that it is not about.

## Main definitions

- `Schema` — schemas
- `Schema.valid` — the values that conform to a schema

## Main results

- `Schema.valid_all` — a value conforms to a list of keywords when it does to each
- `Schema.closed_required`, `Schema.closed_property`, `Schema.closed_absent` — what is known
  of the fields of a closed object
-/

namespace RunbookPlatform

/-- The values of the keyword `type`. -/
inductive JsonType where
  | boolean | integer | string | array | object
  deriving DecidableEq

/-- A truth value is not an integer. -/
def JsonType.holds : JsonType → Json → Bool
  | boolean, .bool _ => true
  | integer, .int _ => true
  | string, .str _ => true
  | array, .arr _ => true
  | object, .obj _ => true
  | _, _ => false

/-- A schema: keywords, and their conjunction. -/
inductive Schema where
  /-- `allOf`, and keywords that stand side by side. -/
  | all (schemas : List Schema)
  | oneOf (schemas : List Schema)
  | ifThen (condition consequence : Schema)
  | type (t : JsonType)
  /-- `const` and `enum` of texts. -/
  | enum (values : List String)
  | minLength (n : ℕ)
  | maxLength (n : ℕ)
  | minimum (n : ℤ)
  | maximum (n : ℤ)
  | minItems (n : ℕ)
  | items (schema : Schema)
  | required (keys : List String)
  /-- `properties` with `additionalProperties`, where `none` stands for `false`. -/
  | properties (declared : List (String × Schema)) (additional : Option Schema)

namespace Schema

/-- The schema that every value conforms to. -/
def any : Schema := all []

/-- `const` of a text. -/
def const (text : String) : Schema := enum [text]

/-- `properties` without `additionalProperties`. -/
def declares (declared : List (String × Schema)) : Schema := properties declared (some any)

/-- An object with the required keys and none but the declared ones. -/
def closed (keys : List String) (declared : List (String × Schema)) : Schema :=
  all [type .object, required keys, properties declared none]

mutual

/-- `Draft7Validator(schema).is_valid(value)`. -/
def valid : Schema → Json → Bool
  | all ss, v => validAll ss v
  | oneOf ss, v => validCount ss v == 1
  | ifThen c s, v => !valid c v || valid s v
  | type t, v => t.holds v
  | enum texts, v => texts.any fun text => v == .str text
  | minLength n, .str s => n ≤ s.length
  | maxLength n, .str s => s.length ≤ n
  | minimum n, .int m => n ≤ m
  | maximum n, .int m => m ≤ n
  | minItems n, .arr vs => n ≤ vs.length
  | items s, .arr vs => vs.all fun v => valid s v
  | required ks, .obj fs => ks.all fun k => (fs.lookup k).isSome
  | properties ps additional, .obj fs =>
    validProperties ps fs && fs.all fun kv => (ps.map (·.1)).contains kv.1 ||
      match additional with
      | none => false
      | some s => valid s kv.2
  | _, _ => true

def validAll : List Schema → Json → Bool
  | [], _ => true
  | s :: ss, v => valid s v && validAll ss v

def validCount : List Schema → Json → ℕ
  | [], _ => 0
  | s :: ss, v => (if valid s v then 1 else 0) + validCount ss v

def validProperties : List (String × Schema) → List (String × Json) → Bool
  | [], _ => true
  | (k, s) :: ps, fs =>
    (match fs.lookup k with
      | none => true
      | some v => valid s v) && validProperties ps fs

end

/-- `schema["properties"].get(name)`. -/
def property? (name : String) : Schema → Option Schema
  | properties ps _ => ps.lookup name
  | all ss => ss.findSome? fun
    | properties ps _ => ps.lookup name
    | _ => none
  | _ => none

-- ════════════════════════════════════════════════════════════════════════
-- What conformance says
-- ════════════════════════════════════════════════════════════════════════

variable {v x : Json} {k : String} {s : Schema} {ss : List Schema} {ps : List (String × Schema)}
  {additional : Option Schema} {fs : List (String × Json)}

@[simp] theorem valid_all : (all ss).valid v = true ↔ ∀ s ∈ ss, s.valid v = true := by
  show validAll ss v = true ↔ _
  induction ss with
  | nil => simp [validAll]
  | cons s ss ih => simp [validAll, ih]

@[simp] theorem valid_any : any.valid v = true := by simp [any]

@[simp] theorem valid_type {t : JsonType} : (type t).valid v = t.holds v := rfl

@[simp] theorem valid_string : (type .string).valid v = true ↔ ∃ t, v = .str t := by
  cases v <;> simp [JsonType.holds]

@[simp] theorem valid_integer : (type .integer).valid v = true ↔ ∃ n, v = .int n := by
  cases v <;> simp [JsonType.holds]

@[simp] theorem valid_boolean : (type .boolean).valid v = true ↔ ∃ b, v = .bool b := by
  cases v <;> simp [JsonType.holds]

@[simp] theorem valid_array : (type .array).valid v = true ↔ ∃ vs, v = .arr vs := by
  cases v <;> simp [JsonType.holds]

@[simp] theorem valid_object : (type .object).valid v = true ↔ ∃ fs, v = .obj fs := by
  cases v <;> simp [JsonType.holds]

@[simp] theorem valid_enum {texts : List String} :
    (enum texts).valid v = true ↔ ∃ text ∈ texts, v = .str text := by
  show (texts.any fun text => v == .str text) = true ↔ _
  simp

@[simp] theorem valid_const {text : String} : (const text).valid v = true ↔ v = .str text := by
  simp [const]

@[simp] theorem valid_minLength {n : ℕ} {t : String} :
    (minLength n).valid (.str t) = true ↔ n ≤ t.length :=
  decide_eq_true_iff

@[simp] theorem valid_minimum {n m : ℤ} : (minimum n).valid (.int m) = true ↔ n ≤ m :=
  decide_eq_true_iff

@[simp] theorem valid_items {vs : List Json} :
    (items s).valid (.arr vs) = true ↔ ∀ x ∈ vs, s.valid x = true :=
  List.all_eq_true

theorem valid_required {ks : List String} :
    (required ks).valid (.obj fs) = true ↔ ∀ k ∈ ks, ∃ x, fs.lookup k = some x := by
  show (ks.all fun k => (fs.lookup k).isSome) = true ↔ _
  simp [Option.isSome_iff_exists]

/-- **Alternatives**: a value that conforms to exactly one conforms to one. -/
theorem exists_valid_of_oneOf (h : (oneOf ss).valid v = true) : ∃ s ∈ ss, s.valid v = true := by
  by_contra hnone
  have hcount : validCount ss v = 0 := by
    clear h
    induction ss with
    | nil => rfl
    | cons s ss ih =>
      rw [validCount, if_neg fun hs => hnone ⟨s, List.mem_cons_self, hs⟩,
        ih fun ⟨t, ht, hv⟩ => hnone ⟨t, List.mem_cons_of_mem _ ht, hv⟩]
  change (validCount ss v == 1) = true at h
  rw [hcount] at h
  cases h

theorem validProperties_iff :
    validProperties ps fs = true ↔
      ∀ k s, (k, s) ∈ ps → ∀ x, fs.lookup k = some x → s.valid x = true := by
  induction ps with
  | nil => simp [validProperties]
  | cons p ps ih =>
    obtain ⟨k, s⟩ := p
    rw [validProperties, Bool.and_eq_true, ih]
    constructor
    · rintro ⟨hhead, htail⟩ k' s' hmem x hx
      rcases List.mem_cons.1 hmem with heq | hmem
      · cases heq
        simpa [hx] using hhead
      · exact htail k' s' hmem x hx
    · intro h
      refine ⟨?_, fun k' s' hmem => h k' s' (List.mem_cons_of_mem _ hmem)⟩
      cases hx : fs.lookup k with
      | none => rfl
      | some x => exact h k s List.mem_cons_self x hx

/-- The schema only accepts values of the type. -/
def Only (s : Schema) (t : JsonType) : Prop := ∀ x, s.valid x = true → t.holds x = true

theorem only_type {t : JsonType} : (type t).Only t := fun _ h => h

theorem only_all {t : JsonType} : (all (type t :: ss)).Only t := fun _ h =>
  valid_all.1 h (type t) List.mem_cons_self

section

variable {keys : List String} (h : (closed keys ps).valid v = true)

include h

theorem closed_object : ∃ fs, v = .obj fs :=
  valid_object.1 (valid_all.1 h (type .object) (by simp))

/-- **Required fields** of a closed object are there. -/
theorem closed_required (hk : k ∈ keys) : ∃ x, v.get? k = some x := by
  obtain ⟨fs, rfl⟩ := closed_object h
  exact valid_required.1 (valid_all.1 h (required keys) (by simp)) k hk

/-- **Declared fields** of a closed object conform to their schemas. -/
theorem closed_property (hp : ps.lookup k = some s) (hx : v.get? k = some x) :
    s.valid x = true := by
  obtain ⟨fs, rfl⟩ := closed_object h
  have hprops := valid_all.1 h (properties ps none) (by simp)
  rw [valid, Bool.and_eq_true] at hprops
  obtain ⟨before, after, rfl, -⟩ := List.lookup_eq_some_iff.1 hp
  exact validProperties_iff.1 hprops.1 k s (by simp) x hx

/-- **Closed objects** have no other fields. -/
theorem closed_absent (hk : k ∉ ps.map (·.1)) : v.get? k = none := by
  obtain ⟨fs, rfl⟩ := closed_object h
  have hprops := valid_all.1 h (properties ps none) (by simp)
  rw [valid, Bool.and_eq_true, List.all_eq_true] at hprops
  rw [Json.get?, Json.fields, List.lookup_eq_none_iff]
  intro kv hkv
  have hdeclared := hprops.2 kv hkv
  rw [Bool.or_false, List.contains_iff_mem] at hdeclared
  simp only [ne_eq, bne_iff_ne]
  rintro rfl
  exact hk hdeclared

end

end Schema

end RunbookPlatform
