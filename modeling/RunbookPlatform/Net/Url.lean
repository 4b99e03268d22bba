import RunbookPlatform.Net.Address

/-!
# URLs

`urlsplit`: the scheme and the network location of any text, and what the network location says
about the user, the host and the port. The tables of Unicode are parameters.

## Main definitions

- `Url` — a scheme and a network location
- `Url.split` — `urlsplit(text)`
- `Url.username?`, `Url.password?`, `Url.hostname?`, `Url.port?` — the attributes of the result
-/

namespace Net

/-- What is before the last `sep` if there is one, and after it. -/
def rpartition (sep : Char) (text : List Char) : Option (List Char) × List Char :=
  match partition sep text.reverse with
  | (_, none) => (none, text)
  | (after, some before) => (some before.reverse, after.reverse)

/-- The characters of a scheme. -/
def isSchemeChar (c : Char) : Bool := c.isAlphanum || c = '+' || c = '-' || c = '.'

/-- The scheme before the first colon, in lower case, and what is behind. A text that begins
otherwise has no scheme. -/
def splitScheme (text : List Char) : List Char × List Char :=
  match partition ':' text with
  | (scheme, some rest) =>
    if scheme.head?.any Char.isAlpha && scheme.all isSchemeChar then
      (scheme.map Char.toLower, rest)
    else ([], text)
  | _ => ([], text)

/-- The network location, if the text begins with two slashes. -/
def splitNetloc : List Char → List Char
  | '/' :: '/' :: rest => rest.takeWhile fun c => c ≠ '/' && c ≠ '?' && c ≠ '#'
  | _ => []

/-- The host and the port, as texts, without the user. -/
def hostinfo (netloc : List Char) : List Char × Option (List Char) :=
  let hostinfo := (rpartition '@' netloc).2
  let (hostname, port) :=
    match partition '[' hostinfo with
    | (_, some bracketed) =>
      let (hostname, behind) := partition ']' bracketed
      (hostname, (partition ':' (behind.getD [])).2)
    | (_, none) => partition ':' hostinfo
  (hostname, port.filter (· ≠ []))

/-- A host in brackets is of a version to come, or an IPv6 address. -/
def checkBracketedHost (hostname : List Char) : Bool :=
  match hostname with
  | 'v' :: version =>
    match partition '.' version with
    | (digits, some rest) => digits ≠ [] && digits.all (hexValue? · |>.isSome) && rest ≠ []
    | (_, none) => false
  | _ =>
    match Address.parse (String.ofList hostname) with
    | some (.v6 _ _) => true
    | _ => false

/-- Brackets come in pairs, around the whole host. -/
def checkBrackets (netloc : List Char) : Bool :=
  if '[' ∈ netloc ∧ ']' ∈ netloc then
    let hostAndPort := (rpartition '@' netloc).2
    match partition '[' hostAndPort with
    | (before, some bracketed) =>
      let (hostname, behind) := partition ']' bracketed
      before = [] && (behind.getD []).head?.all (· = ':') && checkBracketedHost hostname
    | (_, none) => checkBracketedHost (partition ':' hostAndPort).1
  else decide ('[' ∉ netloc ∧ ']' ∉ netloc)

/-- A scheme and a network location. -/
structure Url where
  scheme : String
  netloc : List Char

namespace Url

section

variable (lower nfkc : String → String)

/-- No character of the location is written, in its compatibility form, with one that ends it. -/
def checkNetloc (netloc : List Char) : Bool :=
  netloc.all (·.toNat < 128) ||
    let n := String.ofList (netloc.filter fun c => c ∉ ['@', ':', '#', '?'])
    nfkc n = n || (nfkc n).toList.all fun c => c ∉ ['/', '?', '#', '@', ':']

/-- `urlsplit(text)`; none for a `ValueError`. -/
def split (text : String) : Option Url :=
  let text := (text.toList.dropWhile fun c => c.toNat ≤ 32).filter fun c =>
    c ∉ ['\t', '\r', '\n']
  let (scheme, rest) := splitScheme text
  let netloc := splitNetloc rest
  if checkBrackets netloc && checkNetloc nfkc netloc then
    some { scheme := String.ofList scheme, netloc }
  else none

/-- `username`. -/
def username? (url : Url) : Option (List Char) :=
  (rpartition '@' url.netloc).1.map fun userinfo => (partition ':' userinfo).1

/-- `password`. -/
def password? (url : Url) : Option (List Char) :=
  (rpartition '@' url.netloc).1.bind fun userinfo => (partition ':' userinfo).2

/-- `hostname`: in lower case up to a scope. -/
def hostname? (url : Url) : Option String :=
  let hostname := (hostinfo url.netloc).1
  if hostname = [] then none
  else
    let (name, zone) := partition '%' hostname
    some (lower (String.ofList name) ++ match zone with
      | none => ""
      | some zone => "%" ++ String.ofList zone)

/-- `port`; the outer `none` for a `ValueError`. -/
def port? (url : Url) : Option (Option ℕ) :=
  match (hostinfo url.netloc).2 with
  | none => some none
  | some digits =>
    -- `int` refuses more than 4300 digits
    if digits.all Char.isDigit ∧ digits.length ≤ 4300 then
      let port := ofDigits 10 (digits.map fun c => c.toNat - '0'.toNat)
      if port ≤ 65535 then some (some port) else none
    else none

end

end Url

end Net
