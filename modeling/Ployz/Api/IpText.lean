import Ployz.Api.Pb
import Ployz.Base.Numeral

/-!
# Textual addresses

`Display` and `FromStr` of `std::net::IpAddr`. IPv4 is written as four decimal octets, IPv6 as
hexadecimal groups with the longest run of zero groups left out, or with an embedded IPv4
address when it is mapped. The parser reads the front of the text up to a `::`, then the back;
every address is read back from its text.
-/

namespace Ployz.Api

/-- Numerals with a separator between them; unless they come first, also before them. -/
def partsText (separator : Char) (radix : Nat) : Bool → List Nat → List Char
  | _, [] => []
  | first, part :: parts =>
    (if first then [] else [separator]) ++ Nat.toDigits radix part ++
      partsText separator radix false parts

/-- `Display for Ipv4Addr`. -/
def ipv4Text (octets : List UInt8) : List Char := partsText '.' 10 true (octets.map UInt8.toNat)

def segments : List UInt8 → List Nat
  | high :: low :: octets => (high.toNat * 256 + low.toNat) :: segments octets
  | _ => []

/-- The octets of segments. -/
def segmentOctets (groups : List Nat) : List UInt8 :=
  groups.flatMap fun group => [UInt8.ofNat (group / 256), UInt8.ofNat (group % 256)]

/-- A run of groups. -/
structure Span where
  start : Nat
  len : Nat
deriving DecidableEq

/-- The first longest run of zero groups: the loop over the groups from index `index` on. -/
def zeroSpan (longest current : Span) (index : Nat) : List Nat → Span
  | [] => longest
  | 0 :: groups =>
    let current := ⟨if current.len = 0 then index else current.start, current.len + 1⟩
    zeroSpan (if longest.len < current.len then current else longest) current (index + 1) groups
  | _ :: groups => zeroSpan longest ⟨0, 0⟩ (index + 1) groups

/-- `Display for Ipv6Addr`. -/
def ipv6Text (octets : List UInt8) : List Char :=
  let groups := segments octets
  if groups.take 6 = [0, 0, 0, 0, 0, 0xffff] then
    [':', ':', 'f', 'f', 'f', 'f', ':'] ++ ipv4Text (octets.drop 12)
  else
    let zeroes := zeroSpan ⟨0, 0⟩ ⟨0, 0⟩ 0 groups
    if 1 < zeroes.len then
      partsText ':' 16 true (groups.take zeroes.start) ++ [':', ':'] ++
        partsText ':' 16 true (groups.drop (zeroes.start + zeroes.len))
    else partsText ':' 16 true groups

/-- The characters of an address. -/
def IpAddr.text : IpAddr → List Char
  | .v4 bits => ipv4Text (octets (.v4 bits))
  | .v6 bits => ipv6Text (octets (.v6 bits))

/-- `Display for IpAddr`. -/
def IpAddr.display (address : IpAddr) : String := String.ofList address.text

section Parser

variable {α : Type}

/-- `Parser::read_given_char`. -/
def readGiven (given : Char) : List Char → Option (List Char)
  | [] => none
  | c :: rest => if c = given then some rest else none

/-- `Parser::read_separator`: the separator, unless the part is the first, and the part. -/
def readSeparated (separator : Char) (first : Bool)
    (inner : List Char → Option (α × List Char)) (input : List Char) : Option (α × List Char) :=
  if first then inner input else (readGiven separator input).bind inner

/-- The octets of an IPv4 address, `count` of them. -/
def readOctets : Nat → Bool → List Char → Option (List Nat × List Char)
  | 0, _, input => some ([], input)
  | count + 1, first, input => do
    let (octet, rest) ← readSeparated '.' first (readNumber 10 256 3 false) input
    let (octets, rest) ← readOctets count false rest
    some (octet :: octets, rest)

/-- `Parser::read_ipv4_addr`. -/
def readIpv4 (input : List Char) : Option (List UInt8 × List Char) :=
  (readOctets 4 true input).map fun (octets, rest) => (octets.map UInt8.ofNat, rest)

/-- `read_groups` with room for `count` groups: the groups read, whether the last two are an IPv4
address, and the rest of the input. -/
def readGroups : Nat → Bool → List Char → List Nat × Bool × List Char
  | 0, _, input => ([], false, input)
  | count + 1, first, input =>
    -- an embedded address takes two groups
    match if 0 < count then readSeparated ':' first readIpv4 input else none with
    | some (octets, rest) => (segments octets, true, rest)
    | none =>
      match readSeparated ':' first (readNumber 16 65536 4 true) input with
      | some (group, rest) =>
        let (groups, embedded, rest) := readGroups count false rest
        (group :: groups, embedded, rest)
      | none => ([], false, input)

/-- `Parser::read_ipv6_addr`. -/
def readIpv6 (input : List Char) : Option (List UInt8 × List Char) :=
  let (head, embedded, rest) := readGroups 8 true input
  if head.length = 8 then some (segmentOctets head, rest)
  else if embedded then none
  else do
    let rest ← readGiven ':' rest
    let rest ← readGiven ':' rest
    let (tail, _, rest) := readGroups (8 - (head.length + 1)) true rest
    some (segmentOctets (head ++ List.replicate (8 - head.length - tail.length) 0 ++ tail), rest)

/-- `FromStr for IpAddr`, on the characters. -/
def IpAddr.parse (input : List Char) : Option IpAddr :=
  match readIpv4 input with
  | some (octets, rest) => if rest = [] then some (.ofOctets4 octets) else none
  | none =>
    match readIpv6 input with
    | some (octets, rest) => if rest = [] then some (.ofOctets16 octets) else none
    | none => none

/-- `FromStr for Ipv6Addr`, on the characters. -/
def parseIpv6 (input : List Char) : Option (BitVec 128) :=
  match readIpv6 input with
  | some (octets, []) => some (BitVec.ofNat 128 (ofBytes octets))
  | _ => none

end Parser

end Ployz.Api
