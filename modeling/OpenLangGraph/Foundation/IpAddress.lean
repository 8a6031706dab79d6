import OpenLangGraph.Foundation.PyString
import Mathlib.Data.Nat.Notation

/-!
# IP addresses

Addresses and networks of both families, after Python's `ipaddress` module: what strings denote
an address (`ofString`), and which addresses a network contains.

An address is a bit vector of its family's width. A network carries the proof that its address
has no host bits, which is what `ipaddress.ip_network` checks when it is built; membership is the
masked comparison the module makes, and an address is never in a network of the other family.

## Main definitions

* `IpAddress`, `IpNetwork`, `IpNetwork.contains`
* `IpAddress.ofString` — `ipaddress.ip_address`
* `IpAddress.ipv4Mapped`, `IpAddress.carried` — the address inside `::ffff:a.b.c.d`
-/

open PyString

/-- An IPv4 or IPv6 address. An IPv6 address may carry a scope id, which plays no part in
membership. -/
inductive IpAddress
  | v4 (ip : BitVec 32)
  | v6 (ip : BitVec 128) (scope : Option Str)
deriving DecidableEq

/-- The mask of a prefix length: that many leading ones. -/
def netmask (w prefixlen : ℕ) : BitVec w := BitVec.allOnes w <<< (w - prefixlen)

/-- A block of addresses of width `w`, with the text it is written as. -/
structure NetworkBlock (w : ℕ) where
  address : BitVec w
  prefixlen : ℕ
  text : String
  /-- No host bit is set. -/
  strict : address &&& netmask w prefixlen = address

def NetworkBlock.contains {w : ℕ} (b : NetworkBlock w) (ip : BitVec w) : Bool :=
  ip &&& netmask w b.prefixlen == b.address

/-- An IPv4 or IPv6 network. -/
inductive IpNetwork
  | v4 (block : NetworkBlock 32)
  | v6 (block : NetworkBlock 128)

/-- `str(network)` -/
def IpNetwork.text : IpNetwork → String
  | .v4 b => b.text
  | .v6 b => b.text

/-- `address in network`: always false when the families differ. -/
def IpNetwork.contains : IpNetwork → IpAddress → Bool
  | .v4 b, .v4 ip => b.contains ip
  | .v6 b, .v6 ip _ => b.contains ip
  | .v4 _, .v6 _ _ => false
  | .v6 _, .v4 _ => false

namespace IpAddress

/-- The IPv4 address an IPv4-mapped IPv6 address carries. -/
def ipv4Mapped : IpAddress → Option (BitVec 32)
  | .v4 _ => none
  | .v6 ip _ => if ip >>> 32 = 0xFFFF#128 then some (ip.setWidth 32) else none

/-- The address a packet really goes to: for an IPv4-mapped address, the one it carries. -/
def carried (a : IpAddress) : IpAddress :=
  match a.ipv4Mapped with
  | some ip => .v4 ip
  | none => a

/-- The address with the four given octets. -/
def ofOctets (a b c d : ℕ) : BitVec 32 := BitVec.ofNat 32 (((a * 256 + b) * 256 + c) * 256 + d)

/-! ### Reading an address -/

/-- `IPv4Address._parse_octet` -/
def parseOctet (s : Str) : Option ℕ :=
  if s = [] then none
  else if !s.all Char.isDigit then none
  else if s.length > 3 then none
  else if s ≠ ['0'] ∧ s.head? = some '0' then none
  else if Nat.ofDigitChars 10 s 0 > 255 then none
  else some (Nat.ofDigitChars 10 s 0)

/-- `IPv4Address(s)`, `none` being `AddressValueError`. -/
def parseV4 (s : Str) : Option (BitVec 32) :=
  if s.contains '/' then none
  else
    match (splitSub ['.'] s).mapM parseOctet with
    | some [a, b, c, d] => some (ofOctets a b c d)
    | _ => none

/-- The value of a hexadecimal digit. -/
def hexDigit (c : Char) : Option ℕ :=
  if c.isDigit then some (c.toNat - '0'.toNat)
  else if 'a' ≤ c ∧ c ≤ 'f' then some (c.toNat - 'a'.toNat + 10)
  else if 'A' ≤ c ∧ c ≤ 'F' then some (c.toNat - 'A'.toNat + 10)
  else none

/-- `IPv6Address._parse_hextet` -/
def parseHextet (s : Str) : Option ℕ :=
  if s = [] ∨ s.length > 4 then none
  else (s.mapM hexDigit).map fun ds => ds.foldl (fun n d => 16 * n + d) 0

/-- The number with the given hextets, most significant first. -/
def ofHextets (hs : List ℕ) : ℕ := hs.foldl (fun n h => n * 65536 + h) 0

/-- An IPv4-style last part is replaced by the two hextets it stands for. -/
def expandSuffix (parts : List Str) : Option (List Str) :=
  match parts.getLast? with
  | some last =>
    if last.contains '.' then
      (parseV4 last).map fun ip =>
        parts.dropLast ++ [Nat.toDigits 16 (ip.toNat / 65536), Nat.toDigits 16 (ip.toNat % 65536)]
    else some parts
  | none => some parts

/-- The positions of empty parts other than the two ends, where a `::` left a gap. -/
def gaps (parts : List Str) : List ℕ :=
  (List.range parts.length).filter fun i =>
    1 ≤ i ∧ i + 1 < parts.length ∧ parts.getD i [] = []

/-- The hextets of an address with a `::` at position `skip`: an empty end must belong to it. -/
def hextetsAround (parts : List Str) (skip : ℕ) : Option (List ℕ) :=
  let first := parts.getD 0 []
  let last := parts.getD (parts.length - 1) []
  let hi := if first = [] then skip - 1 else skip
  let lo := if last = [] then parts.length - skip - 2 else parts.length - skip - 1
  if first = [] ∧ hi ≠ 0 then none
  else if last = [] ∧ lo ≠ 0 then none
  else if 8 < hi + lo + 1 then none
  else do
    let his ← (parts.take hi).mapM parseHextet
    let los ← (parts.drop (parts.length - lo)).mapM parseHextet
    return his ++ List.replicate (8 - (hi + lo)) 0 ++ los

/-- `IPv6Address._ip_int_from_string` -/
def parseV6Int (s : Str) : Option (BitVec 128) := do
  let parts := splitSub [':'] s
  if parts.length < 3 then failure
  let parts ← expandSuffix parts
  if parts.length > 9 then failure
  let hextets ←
    match gaps parts with
    | [] => if parts.length = 8 then parts.mapM parseHextet else none
    | [skip] => hextetsAround parts skip
    | _ => none
  return BitVec.ofNat 128 (ofHextets hextets)

/-- `IPv6Address(s)`: an optional scope id after a single `%`. -/
def parseV6 (s : Str) : Option IpAddress :=
  if s.contains '/' then none
  else
    match partition '%' s with
    | (addr, false, _) => (parseV6Int addr).map fun ip => .v6 ip none
    | (addr, true, scope) =>
      if scope = [] ∨ scope.contains '%' then none
      else (parseV6Int addr).map fun ip => .v6 ip (some scope)

/-- `ipaddress.ip_address(s)`: IPv4 first, then IPv6. `none` is `ValueError`. -/
def ofString (s : Str) : Option IpAddress :=
  match parseV4 s with
  | some ip => some (.v4 ip)
  | none => parseV6 s

example : ofString "::ffff:10.0.0.1".toList = some (.v6 0xffff0a000001#128 none) := by decide
example : ofString "fe80::1%eth0".toList =
    some (.v6 (0xfe80#128 <<< 112 ||| 1#128) (some "eth0".toList)) := by
  decide
example : ofString "010.0.0.1".toList = none := by decide

end IpAddress
