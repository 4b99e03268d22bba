import Mathlib.Data.List.Basic

/-!
# Internet addresses

The texts of IPv4 and IPv6 addresses, as `inet_pton` reads them with a scope after `%`, and the
registries of special networks. An IPv6 address that embeds an IPv4 address is as special as
that address is.

## Main definitions

- `Address`, `Network` — addresses; blocks of addresses
- `parseIPv4`, `parseIPv6`, `Address.parse` — the addresses that texts denote
- `Address.isPrivate`, `Address.isReserved`, ... — the registries
-/

namespace Net

/-- An address, with the scope of an IPv6 address. -/
inductive Address where
  | v4 (ip : BitVec 32)
  | v6 (ip : BitVec 128) (scope : Option String)
  deriving DecidableEq

/-- The addresses that begin with the first `length` bits of `base`. -/
structure Network (w : ℕ) where
  base : BitVec w
  length : ℕ

/-- `ip in network`. -/
def Network.contains {w : ℕ} (network : Network w) (ip : BitVec w) : Bool :=
  ip >>> (w - network.length) = network.base >>> (w - network.length)

-- ════════════════════════════════════════════════════════════════════════
-- Texts
-- ════════════════════════════════════════════════════════════════════════

/-- The value of a row of digits. -/
def ofDigits (base : ℕ) (digits : List ℕ) : ℕ := digits.foldl (fun n d => base * n + d) 0

/-- The value of a hexadecimal digit. -/
def hexValue? (c : Char) : Option ℕ :=
  if c.isDigit then some (c.toNat - '0'.toNat)
  else if 'a' ≤ c ∧ c ≤ 'f' then some (c.toNat - 'a'.toNat + 10)
  else if 'A' ≤ c ∧ c ≤ 'F' then some (c.toNat - 'A'.toNat + 10)
  else none

/-- An octet: one to three decimal digits without a leading zero. -/
def parseOctet (text : List Char) : Option ℕ :=
  if text ≠ [] ∧ text.all Char.isDigit ∧ text.length ≤ 3 ∧
      (text = ['0'] ∨ text.head? ≠ some '0') then
    let value := ofDigits 10 (text.map fun c => c.toNat - '0'.toNat)
    if value ≤ 255 then some value else none
  else none

/-- Four octets between dots. -/
def parseIPv4 (text : List Char) : Option (BitVec 32) :=
  if (text.splitOn '.').length = 4 then
    ((text.splitOn '.').mapM parseOctet).map fun octets => BitVec.ofNat 32 (ofDigits 256 octets)
  else none

/-- One to four hexadecimal digits. -/
def parseHextet (text : List Char) : Option ℕ :=
  if text ≠ [] ∧ text.length ≤ 4 then (text.mapM hexValue?).map (ofDigits 16) else none

/-- The parts of an IPv6 text, with the two hextets that a final IPv4 text stands for. -/
def hextetParts (text : List Char) : Option (List (List Char)) :=
  let parts := text.splitOn ':'
  if parts.length < 3 then none
  else
    match parts.getLast? with
    | some last =>
      if '.' ∈ last then
        (parseIPv4 last).map fun ip => parts.dropLast ++
          [Nat.toDigits 16 (ip.toNat / 65536), Nat.toDigits 16 (ip.toNat % 65536)]
      else some parts
    | none => none

/-- The hextets before and after `::`. The position of the only empty part inside is `skip`; an
empty part at an end is allowed only beside it. -/
def aroundSkip (parts : List (List Char)) (skip : ℕ) :
    Option (List (List Char) × List (List Char)) :=
  let high := parts.take skip
  let low := parts.drop (skip + 1)
  if (high.head? = some [] ∧ high.length ≠ 1) ∨ (low.getLast? = some [] ∧ low.length ≠ 1) then none
  else some (high.filter (· ≠ []), low.filter (· ≠ []))

/-- Eight hextets between colons, some of which `::` may stand for. -/
def parseIPv6 (text : List Char) : Option (BitVec 128) := do
  let parts ← hextetParts text
  if 9 < parts.length then none
  else
    match (List.range parts.length).filter fun i =>
      1 ≤ i ∧ i + 1 < parts.length ∧ parts[i]? = some [] with
    | [] =>
      if parts.length = 8 then
        (parts.mapM parseHextet).map fun hextets => BitVec.ofNat 128 (ofDigits 65536 hextets)
      else none
    | [skip] => do
      let (high, low) ← aroundSkip parts skip
      if 8 ≤ high.length + low.length then none
      else
        let highValues ← high.mapM parseHextet
        let lowValues ← low.mapM parseHextet
        some (BitVec.ofNat 128 (ofDigits 65536
          (highValues ++ List.replicate (8 - (high.length + low.length)) 0 ++ lowValues)))
    | _ => none

/-- What is before the first `sep`, and after it if there is one. -/
def partition (sep : Char) (text : List Char) : List Char × Option (List Char) :=
  match text.span (· ≠ sep) with
  | (before, []) => (before, none)
  | (before, _ :: after) => (before, some after)

/-- The address and the scope around the first `%`. A scope is not empty and has no `%`. -/
def splitScope (text : List Char) : Option (List Char × Option String) :=
  match partition '%' text with
  | (address, none) => some (address, none)
  | (address, some scope) =>
    if scope = [] ∨ '%' ∈ scope then none else some (address, some (String.ofList scope))

/-- `ip_address(text)`; none for a `ValueError`. -/
def Address.parse (text : String) : Option Address :=
  if '/' ∈ text.toList then none
  else
    match parseIPv4 text.toList with
    | some ip => some (.v4 ip)
    | none => do
      let (address, scope) ← splitScope text.toList
      let ip ← parseIPv6 address
      some (.v6 ip scope)

example : Address.parse "169.254.169.254" = some (.v4 0xa9fea9fe#32) := by decide +kernel

example : Address.parse "::ffff:10.0.0.1" = some (.v6 0xffff0a000001#128 none) := by decide +kernel

-- ════════════════════════════════════════════════════════════════════════
-- Registries
-- ════════════════════════════════════════════════════════════════════════

/-- Networks of IPv4 that are not globally reachable. -/
def privateNetworks4 : List (Network 32) :=
  [⟨0x00000000, 8⟩, ⟨0x0a000000, 8⟩, ⟨0x7f000000, 8⟩, ⟨0xa9fe0000, 16⟩, ⟨0xac100000, 12⟩,
    ⟨0xc0000000, 24⟩, ⟨0xc00000aa, 31⟩, ⟨0xc0000200, 24⟩, ⟨0xc0a80000, 16⟩, ⟨0xc6120000, 15⟩,
    ⟨0xc6336400, 24⟩, ⟨0xcb007100, 24⟩, ⟨0xf0000000, 4⟩, ⟨0xffffffff, 32⟩]

/-- Those among them that are. -/
def privateExceptions4 : List (Network 32) := [⟨0xc0000009, 32⟩, ⟨0xc000000a, 32⟩]

/-- Networks of IPv6 that are not globally reachable. -/
def privateNetworks6 : List (Network 128) :=
  [⟨1, 128⟩, ⟨0, 128⟩, ⟨0xffff00000000, 96⟩, ⟨0x0064ff9b000100000000000000000000, 48⟩,
    ⟨0x01000000000000000000000000000000, 64⟩, ⟨0x20010000000000000000000000000000, 23⟩,
    ⟨0x20010db8000000000000000000000000, 32⟩, ⟨0x20020000000000000000000000000000, 16⟩,
    ⟨0xfc000000000000000000000000000000, 7⟩, ⟨0xfe800000000000000000000000000000, 10⟩]

/-- Those among them that are. -/
def privateExceptions6 : List (Network 128) :=
  [⟨0x20010001000000000000000000000001, 128⟩, ⟨0x20010001000000000000000000000002, 128⟩,
    ⟨0x20010003000000000000000000000000, 32⟩, ⟨0x20010004011200000000000000000000, 48⟩,
    ⟨0x20010020000000000000000000000000, 28⟩, ⟨0x20010030000000000000000000000000, 28⟩]

/-- Networks of IPv6 that are reserved. -/
def reservedNetworks6 : List (Network 128) :=
  [⟨0, 8⟩, ⟨0x01000000000000000000000000000000, 8⟩, ⟨0x02000000000000000000000000000000, 7⟩,
    ⟨0x04000000000000000000000000000000, 6⟩, ⟨0x08000000000000000000000000000000, 5⟩,
    ⟨0x10000000000000000000000000000000, 4⟩, ⟨0x40000000000000000000000000000000, 3⟩,
    ⟨0x60000000000000000000000000000000, 3⟩, ⟨0x80000000000000000000000000000000, 3⟩,
    ⟨0xa0000000000000000000000000000000, 3⟩, ⟨0xc0000000000000000000000000000000, 3⟩,
    ⟨0xe0000000000000000000000000000000, 4⟩, ⟨0xf0000000000000000000000000000000, 5⟩,
    ⟨0xf8000000000000000000000000000000, 6⟩, ⟨0xfe000000000000000000000000000000, 9⟩]

/-- The IPv4 address that an IPv6 address embeds. -/
def ipv4Mapped? (ip : BitVec 128) : Option (BitVec 32) :=
  if ip >>> 32 = 0xffff then some (ip.setWidth 32) else none

namespace Address

/-- A property of addresses, by version. An embedded IPv4 address is judged as such. -/
def judge (p4 : BitVec 32 → Bool) (p6 : BitVec 128 → Bool) : Address → Bool
  | v4 ip => p4 ip
  | v6 ip _ =>
    match ipv4Mapped? ip with
    | some ip => p4 ip
    | none => p6 ip

/-- `is_private`. -/
def isPrivate : Address → Bool :=
  judge (fun ip => privateNetworks4.any (·.contains ip) && !privateExceptions4.any (·.contains ip))
    fun ip => privateNetworks6.any (·.contains ip) && !privateExceptions6.any (·.contains ip)

/-- `is_loopback`. -/
def isLoopback : Address → Bool :=
  judge (Network.contains ⟨0x7f000000, 8⟩) fun ip => ip = 1

/-- `is_link_local`. -/
def isLinkLocal : Address → Bool :=
  judge (Network.contains ⟨0xa9fe0000, 16⟩)
    (Network.contains ⟨0xfe800000000000000000000000000000, 10⟩)

/-- `is_reserved`. -/
def isReserved : Address → Bool :=
  judge (Network.contains ⟨0xf0000000, 4⟩) fun ip => reservedNetworks6.any (·.contains ip)

/-- `is_multicast`. -/
def isMulticast : Address → Bool :=
  judge (Network.contains ⟨0xe0000000, 4⟩)
    (Network.contains ⟨0xff000000000000000000000000000000, 8⟩)

/-- `is_unspecified`. -/
def isUnspecified : Address → Bool :=
  judge (fun ip => ip = 0) fun ip => ip = 0

end Address

end Net
