import Mathlib.Data.List.Basic
import Mathlib.Data.List.Sort

/-!
# JSON values

The values of `JSONField` columns and request bodies, without floating-point
numbers. Objects keep the insertion order of a Python `dict`; the canonical text
sorts the keys, so that it does not depend on that order.

## Main definitions

- `Json` — the values
- `Json.get?`, `Json.truthy`, `Json.keys` — `dict.get`, truth value, key list
- `Json.dumps`, `Json.dumpsAscii` — `json.dumps` with sorted keys and compact
  separators, with `ensure_ascii` off and on
-/

namespace RunbookPlatform

/-- A JSON value. -/
inductive Json where
  | null
  | bool (b : Bool)
  | int (n : ℤ)
  | str (s : String)
  | arr (items : List Json)
  | obj (fields : List (String × Json))

namespace Json

instance : Inhabited Json := ⟨null⟩

-- ════════════════════════════════════════════════════════════════════════
-- Equality
-- ════════════════════════════════════════════════════════════════════════

mutual

/-- Structural equality of values. -/
def beq : Json → Json → Bool
  | null, null => true
  | bool a, bool b => a == b
  | int a, int b => a == b
  | str a, str b => a == b
  | arr as, arr bs => beqItems as bs
  | obj as, obj bs => beqFields as bs
  | _, _ => false

def beqItems : List Json → List Json → Bool
  | [], [] => true
  | a :: as, b :: bs => beq a b && beqItems as bs
  | _, _ => false

def beqFields : List (String × Json) → List (String × Json) → Bool
  | [], [] => true
  | (k, a) :: as, (l, b) :: bs => k == l && beq a b && beqFields as bs
  | _, _ => false

end

mutual

theorem beq_iff : ∀ a b : Json, beq a b = true ↔ a = b
  | null, b => by cases b <;> simp [beq]
  | bool _, b => by cases b <;> simp [beq]
  | int _, b => by cases b <;> simp [beq]
  | str _, b => by cases b <;> simp [beq]
  | arr as, b => by
    cases b <;> simp only [beq, Bool.false_eq_true, reduceCtorEq, arr.injEq]
    exact beqItems_iff as _
  | obj as, b => by
    cases b <;> simp only [beq, Bool.false_eq_true, reduceCtorEq, obj.injEq]
    exact beqFields_iff as _

theorem beqItems_iff : ∀ as bs : List Json, beqItems as bs = true ↔ as = bs
  | [], bs => by cases bs <;> simp [beqItems]
  | a :: as, bs => by
    cases bs with
    | nil => simp [beqItems]
    | cons b bs =>
      rw [beqItems, Bool.and_eq_true, beq_iff a b, beqItems_iff as bs, List.cons.injEq]

theorem beqFields_iff : ∀ as bs : List (String × Json), beqFields as bs = true ↔ as = bs
  | [], bs => by cases bs <;> simp [beqFields]
  | (k, a) :: as, bs => by
    cases bs with
    | nil => simp [beqFields]
    | cons b bs =>
      obtain ⟨l, b⟩ := b
      rw [beqFields, Bool.and_eq_true, Bool.and_eq_true, beq_iff a b, beqFields_iff as bs,
        beq_iff_eq, List.cons.injEq, Prod.mk.injEq]

end

instance : DecidableEq Json := fun a b => decidable_of_iff (beq a b = true) (beq_iff a b)

-- ════════════════════════════════════════════════════════════════════════
-- Reading values
-- ════════════════════════════════════════════════════════════════════════

/-- The fields of an object; none for any other value. -/
def fields : Json → List (String × Json)
  | obj fs => fs
  | _ => []

/-- `value.get(key)`. -/
def get? (v : Json) (key : String) : Option Json :=
  v.fields.lookup key

/-- `value.get(key, default)`. -/
def getD (v : Json) (key : String) (default : Json) : Json :=
  (v.get? key).getD default

/-- `value.keys()`. -/
def keys (v : Json) : List String := v.fields.map (·.1)

/-- The truth value Python gives a decoded JSON value. -/
def truthy : Json → Bool
  | null => false
  | bool b => b
  | int n => n != 0
  | str s => s != ""
  | arr items => !items.isEmpty
  | obj fs => !fs.isEmpty

/-- The text of a string value. -/
def str? : Json → Option String
  | str s => some s
  | _ => none

/-- The elements of a list value. -/
def items? : Json → Option (List Json)
  | arr items => some items
  | _ => none

/-- What a Python `for` loop iterates over; none when the value is not iterable. -/
def iterate? : Json → Option (List Json)
  | arr items => some items
  | str s => some (s.toList.map fun c => str (String.ofList [c]))
  | obj fs => some (fs.map fun kv => str kv.1)
  | _ => none

def isObj : Json → Bool
  | obj _ => true
  | _ => false

def isArr : Json → Bool
  | arr _ => true
  | _ => false

def isStr : Json → Bool
  | str _ => true
  | _ => false

mutual

/-- `repr(value)`, given the `repr` of a text. -/
def repr (reprText : String → String) : Json → String
  | null => "None"
  | bool b => if b then "True" else "False"
  | int n => toString n
  | str s => reprText s
  | arr items => "[" ++ ", ".intercalate (reprItems reprText items) ++ "]"
  | obj fs => "\x7b" ++ ", ".intercalate (reprFields reprText fs) ++ "\x7d"

def reprItems (reprText : String → String) : List Json → List String
  | [] => []
  | v :: vs => repr reprText v :: reprItems reprText vs

def reprFields (reprText : String → String) : List (String × Json) → List String
  | [] => []
  | (k, v) :: fs => (reprText k ++ ": " ++ repr reprText v) :: reprFields reprText fs

end

/-- `str(value)`, given the `repr` of a text. -/
def pyStr (reprText : String → String) : Json → String
  | str s => s
  | v => v.repr reprText

/-- A list of strings as a value. -/
def ofStrings (xs : List String) : Json := arr (xs.map str)

/-- An optional text as a value, `null` when absent. -/
def ofOptStr : Option String → Json
  | some s => str s
  | none => null

mutual

/-- `==` on decoded values: the order of keys does not matter, and the truth values
equal the numbers one and zero. -/
def pyEq : Json → Json → Bool
  | null, null => true
  | bool a, bool b => a == b
  | int a, int b => a == b
  | bool a, int b => (if a then 1 else 0) == b
  | int a, bool b => a == if b then 1 else 0
  | str a, str b => a == b
  | arr as, arr bs => pyEqItems as bs
  | obj as, obj bs => as.length == bs.length && pyEqFields as bs
  | _, _ => false

def pyEqItems : List Json → List Json → Bool
  | [], [] => true
  | a :: as, b :: bs => pyEq a b && pyEqItems as bs
  | _, _ => false

/-- Every field of the first object is in the second, with an equal value. -/
def pyEqFields : List (String × Json) → List (String × Json) → Bool
  | [], _ => true
  | (k, a) :: as, bs =>
    (match bs.lookup k with
      | some b => pyEq a b
      | none => false) && pyEqFields as bs

end

/-- `value or default`. -/
def orElse (v default : Json) : Json := if v.truthy then v else default

/-- Insert a text into an ascending list of texts. -/
def insertText (s : String) : List String → List String
  | [] => [s]
  | t :: ts => if s < t then s :: t :: ts else t :: insertText s ts

/-- `sorted(texts)`. -/
def sortTexts (texts : List String) : List String := texts.foldr insertText []

-- ════════════════════════════════════════════════════════════════════════
-- Canonical text
-- ════════════════════════════════════════════════════════════════════════

/-- The four lower-case hexadecimal digits of a code unit. -/
def hex4 (n : ℕ) : String :=
  let digit (d : ℕ) : Char := "0123456789abcdef".toList.getD (d % 16) '0'
  String.ofList [digit (n / 4096), digit (n / 256), digit (n / 16), digit n]

/-- The escape `json.dumps` writes for one character with `ensure_ascii=False`. -/
def escapeChar (c : Char) : String :=
  if c = '"' then "\\\""
  else if c = '\\' then "\\\\"
  else if c = '\n' then "\\n"
  else if c = '\r' then "\\r"
  else if c = '\t' then "\\t"
  else if c.toNat = 8 then "\\b"
  else if c.toNat = 12 then "\\f"
  else if c.toNat < 32 then "\\u" ++ hex4 c.toNat
  else String.ofList [c]

/-- A string literal of the canonical text. -/
def quote (escape : Char → String) (s : String) : String :=
  "\"" ++ String.join (s.toList.map escape) ++ "\""

/-- Insert a rendered field by key, keeping the keys in code-point order. -/
def insertByKey (kv : String × String) : List (String × String) → List (String × String)
  | [] => [kv]
  | x :: xs => if kv.1 < x.1 then kv :: x :: xs else x :: insertByKey kv xs

/-- Rendered fields in key order. -/
def sortByKey (kvs : List (String × String)) : List (String × String) :=
  kvs.foldr insertByKey []

/-- The escape `json.dumps` writes for one character with `ensure_ascii=True`. -/
def escapeAscii (c : Char) : String :=
  if c.toNat < 127 then escapeChar c
  else if c.toNat < 65536 then "\\u" ++ hex4 c.toNat
  else
    "\\u" ++ hex4 (55296 + (c.toNat - 65536) / 1024) ++
      "\\u" ++ hex4 (56320 + (c.toNat - 65536) % 1024)

mutual

/-- `json.dumps(value, sort_keys=True, separators=(",", ":"))`, given the literal of a
text. -/
def dumpsWith (quote : String → String) : Json → String
  | null => "null"
  | bool b => if b then "true" else "false"
  | int n => toString n
  | str s => quote s
  | arr items => "[" ++ ",".intercalate (dumpsItems quote items) ++ "]"
  | obj fs =>
    "\x7b" ++ ",".intercalate
      ((sortByKey (dumpsFields quote fs)).map fun kv => quote kv.1 ++ ":" ++ kv.2) ++ "\x7d"

def dumpsItems (quote : String → String) : List Json → List String
  | [] => []
  | v :: vs => dumpsWith quote v :: dumpsItems quote vs

def dumpsFields (quote : String → String) : List (String × Json) → List (String × String)
  | [] => []
  | (k, v) :: fs => (k, dumpsWith quote v) :: dumpsFields quote fs

end

/-- The canonical text with `ensure_ascii=False`. -/
def dumps (v : Json) : String := v.dumpsWith (quote escapeChar)

/-- The canonical text with `ensure_ascii=True`. -/
def dumpsAscii (v : Json) : String := v.dumpsWith (quote escapeAscii)

example : dumps (obj [("b", arr [int 1, null]), ("a", str "x\n")]) =
    "\x7b\"a\":\"x\\n\",\"b\":[1,null]\x7d" := by decide

end Json

end RunbookPlatform
