import RunbookPlatform.Core.Env

/-!
# Parts of a text and integers in it

`int(text)` reads more than a row of ASCII digits: white space around the number, a sign,
single underscores between the digits, and the decimal digits of every script.

## Main definitions

- `containsText`, `splitOnChar` — `part in text`, `text.split(sep)`
- `decimalDigit?` — the value of a decimal digit
- `parseInt` — `int(text)`
-/

namespace RunbookPlatform

/-- `part in text`. -/
def containsText (text part : String) : Bool := text.toList.tails.any part.toList.isPrefixOf

/-- `text.split(sep)`, for a separator of one character. -/
def splitOnChar (sep : Char) (text : String) : List String :=
  (text.toList.splitOn sep).map String.ofList

/-- The code points of the zeros of Unicode 15; the other nine digits follow each. -/
def decimalZeros : List ℕ :=
  [0x30, 0x660, 0x6f0, 0x7c0, 0x966, 0x9e6, 0xa66, 0xae6, 0xb66, 0xbe6, 0xc66, 0xce6, 0xd66,
    0xde6, 0xe50, 0xed0, 0xf20, 0x1040, 0x1090, 0x17e0, 0x1810, 0x1946, 0x19d0, 0x1a80, 0x1a90,
    0x1b50, 0x1bb0, 0x1c40, 0x1c50, 0xa620, 0xa8d0, 0xa900, 0xa9d0, 0xa9f0, 0xaa50, 0xabf0,
    0xff10, 0x104a0, 0x10d30, 0x11066, 0x110f0, 0x11136, 0x111d0, 0x112f0, 0x11450, 0x114d0,
    0x11650, 0x116c0, 0x11730, 0x118e0, 0x11950, 0x11c50, 0x11d50, 0x11da0, 0x11f50, 0x16a60,
    0x16ac0, 0x16b50, 0x1d7ce, 0x1d7d8, 0x1d7e2, 0x1d7ec, 0x1d7f6, 0x1e140, 0x1e2f0, 0x1e4f0,
    0x1e950, 0x1fbf0]

/-- The value of a decimal digit. -/
def decimalDigit? (c : Char) : Option ℕ :=
  (decimalZeros.find? fun first => first ≤ c.toNat ∧ c.toNat ≤ first + 9).map (c.toNat - ·)

/-- The digits of `digit (["_"] digit)*`. -/
def digitRow : List Char → Option (List ℕ)
  | [] => none
  | [c] => (decimalDigit? c).map fun d => [d]
  | c :: '_' :: rest => (decimalDigit? c).bind fun d => (digitRow rest).map (d :: ·)
  | c :: rest => (decimalDigit? c).bind fun d => (digitRow rest).map (d :: ·)

/-- The white space that `int` takes off: of ASCII, only what C calls white space. -/
def isIntSpace (c : Char) : Bool := isSpace c && !(28 ≤ c.toNat && c.toNat ≤ 31)

/-- The longest row of digits that `int` converts. -/
def intMaxStrDigits : ℕ := 4300

/-- An unsigned number. -/
def parseNat (cs : List Char) : Option ℕ :=
  (digitRow cs).bind fun ds =>
    if ds.length ≤ intMaxStrDigits then some (ds.foldl (fun n d => 10 * n + d) 0) else none

/-- `int(text)`; none for a `ValueError`. -/
def parseInt (text : String) : Option ℤ :=
  match ((text.toList.dropWhile isIntSpace).reverse.dropWhile isIntSpace).reverse with
  | '-' :: cs => (parseNat cs).map fun n => -(n : ℤ)
  | '+' :: cs => (parseNat cs).map fun n => (n : ℤ)
  | cs => (parseNat cs).map fun n => (n : ℤ)

example : parseInt " +1_0\n" = some 10 := by decide

end RunbookPlatform
