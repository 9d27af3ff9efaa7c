import Ployz.Api.IpText
import Ployz.Base.Block

/-!
# Address prefixes

`IpPrefix` of the cluster crate: an address with a prefix length, whose operations mask 128-bit
words. The narrowing of a word to an IPv4 address, which the source writes with `expect`, is
a panic here when the word does not fit.
-/

namespace Ployz.Cluster

open Api

def sameFamily : IpAddr → IpAddr → Bool
  | .v4 _, .v4 _ => true
  | .v6 _, .v6 _ => true
  | _, _ => false

def toU128 : IpAddr → BitVec 128
  | .v4 bits => bits.setWidth 128
  | .v6 bits => bits

def fromU128 {ε : Type} (family : IpAddr) (value : BitVec 128) : Exec ε IpAddr :=
  match family with
  | .v4 _ => if value.toNat < 2 ^ 32 then .ok (.v4 (value.setWidth 32)) else .error .panic
  | .v6 _ => .ok (.v6 value)

def addressMask : IpAddr → BitVec 128
  | .v4 _ => (BitVec.allOnes 32).setWidth 128
  | .v6 _ => BitVec.allOnes 128

def prefixMask (address : IpAddr) (bits : Nat) : BitVec 128 :=
  match address with
  | .v4 _ => if bits = 0 then 0 else (BitVec.allOnes 32 <<< (32 - bits)).setWidth 128
  | .v6 _ => if bits = 0 then 0 else BitVec.allOnes 128 <<< (128 - bits)

variable {left right : IpAddr}

theorem bitLen_eq_of_sameFamily (same : sameFamily left right = true) :
    left.bitLen = right.bitLen := by
  cases left <;> cases right <;> first | rfl | cases same

variable {family address : IpAddr} {value : BitVec 128}

theorem sameFamily_of_fromU128 {ε : Type}
    (narrowed : (fromU128 family value : Exec ε IpAddr) = .ok address) :
    sameFamily family address = true := by
  cases family with
  | v4 bits =>
    simp only [fromU128] at narrowed
    split_ifs at narrowed
    cases narrowed
    rfl
  | v6 bits =>
    cases narrowed
    rfl

/-- An IP prefix that retains the input address. -/
structure IpPrefix where
  address : IpAddr
  bits : Nat
  fits : bits ≤ address.bitLen
deriving DecidableEq

/-- The errors of prefixes and of the allocator. -/
inductive IpPrefixError where
  | invalidNetwork
  | invalidSubnetSize
  | subnetNotInNetwork
  | subnetOverlap
  | noAvailableSubnet
  | invalidPrefix
  | allocatedSubnet (subnet : IpPrefix) (source : IpPrefixError)
deriving DecidableEq

namespace IpPrefix

def new (address : IpAddr) (bits : Nat) : Except IpPrefixError IpPrefix :=
  if fits : bits ≤ address.bitLen then .ok ⟨address, bits, fits⟩ else .error .invalidPrefix

def networkValue (self : IpPrefix) : BitVec 128 :=
  toU128 self.address &&& prefixMask self.address self.bits

def masked (self : IpPrefix) : Exec IpPrefixError IpPrefix :=
  match narrowed : fromU128 self.address self.networkValue with
  | .ok address =>
    .ok ⟨address, self.bits,
      bitLen_eq_of_sameFamily (sameFamily_of_fromU128 narrowed) ▸ self.fits⟩
  | .error fault => .error fault

def contains (self : IpPrefix) (address : IpAddr) : Bool :=
  sameFamily self.address address &&
    (toU128 address &&& prefixMask self.address self.bits) == self.networkValue

def lastAddress (self : IpPrefix) : Exec IpPrefixError IpAddr :=
  let hostMask := ~~~(prefixMask self.address self.bits) &&& addressMask self.address
  fromU128 self.address (self.networkValue ||| hostMask)

def overlaps (self other : IpPrefix) : Exec IpPrefixError Bool :=
  if sameFamily self.address other.address then do
    let start ← other.masked
    if self.contains start.address then pure true
    else
      let start ← self.masked
      pure (other.contains start.address)
  else pure false

/-- `Display for IpPrefix`. -/
def display (self : IpPrefix) : String :=
  String.ofList (self.address.text ++ '/' :: Nat.toDigits 10 self.bits)

/-- `FromStr for IpPrefix`. -/
def fromStr (value : String) : Except IpPrefixError IpPrefix :=
  match rsplitOnce '/' value.toList with
  | none => .error .invalidPrefix
  | some (address, bits) =>
    if bits = [] ∨ ¬ bits.all Char.isDigit ∨ (1 < bits.length ∧ bits.head? = some '0') then
      .error .invalidPrefix
    else
      match IpAddr.parse address with
      | none => .error .invalidPrefix
      | some address =>
        if digitsValue 10 bits < 2 ^ 8 then new address (digitsValue 10 bits)
        else .error .invalidPrefix

end IpPrefix

/-- `Display for IpPrefixError`. -/
def IpPrefixError.display : IpPrefixError → String
  | .invalidNetwork => "invalid network"
  | .invalidSubnetSize => "invalid subnet size"
  | .subnetNotInNetwork => "subnet not in network"
  | .subnetOverlap => "subnet overlaps with allocated subnets"
  | .noAvailableSubnet => "no available subnet"
  | .invalidPrefix => "invalid prefix"
  | .allocatedSubnet subnet source =>
    "allocate subnet " ++ subnet.display ++ ": " ++ source.display

def defaultSubnetBits : Nat := 24

section Values

/-- The number of an address in its family. -/
def addressValue (address : IpAddr) : Nat := (toU128 address).toNat

/-- The address of a number in the family of another address. -/
def ofValue (family : IpAddr) (value : Nat) : IpAddr :=
  match family with
  | .v4 _ => .v4 (BitVec.ofNat 32 value)
  | .v6 _ => .v6 (BitVec.ofNat 128 value)

theorem addressValue_lt (address : IpAddr) : addressValue address < 2 ^ address.bitLen := by
  cases address with
  | v4 bits =>
    rw [addressValue, toU128, BitVec.toNat_setWidth_of_le (by decide)]
    exact bits.isLt
  | v6 bits => exact bits.isLt

theorem bitLen_le (address : IpAddr) : address.bitLen ≤ 128 := by
  cases address <;> simp [IpAddr.bitLen]

@[simp] theorem sameFamily_self (address : IpAddr) : sameFamily address address = true := by
  cases address <;> rfl

theorem sameFamily_comm (left right : IpAddr) : sameFamily left right = sameFamily right left := by
  cases left <;> cases right <;> rfl

theorem sameFamily_trans {mid : IpAddr} (first : sameFamily left mid = true)
    (second : sameFamily mid right = true) : sameFamily left right = true := by
  cases left <;> cases mid <;> cases right <;> simp_all [sameFamily]

@[simp] theorem sameFamily_ofValue (family : IpAddr) (value : Nat) :
    sameFamily family (ofValue family value) = true := by
  cases family <;> rfl

@[simp] theorem bitLen_ofValue (family : IpAddr) (value : Nat) :
    (ofValue family value).bitLen = family.bitLen :=
  (bitLen_eq_of_sameFamily (sameFamily_ofValue family value)).symm

theorem addressValue_ofValue {value : Nat} (below : value < 2 ^ family.bitLen) :
    addressValue (ofValue family value) = value := by
  cases family with
  | v4 bits =>
    rw [addressValue, ofValue, toU128, BitVec.toNat_setWidth_of_le (by decide),
      BitVec.toNat_ofNat]
    exact Nat.mod_eq_of_lt below
  | v6 bits =>
    rw [addressValue, ofValue, toU128, BitVec.toNat_ofNat]
    exact Nat.mod_eq_of_lt below

theorem eq_of_addressValue (family : sameFamily left right = true)
    (values : addressValue left = addressValue right) : left = right := by
  cases left with
  | v4 bits =>
    cases right with
    | v4 bits' =>
      rw [addressValue, addressValue, toU128, toU128, BitVec.toNat_setWidth_of_le (by decide),
        BitVec.toNat_setWidth_of_le (by decide)] at values
      rw [BitVec.eq_of_toNat_eq values]
    | v6 bits' => cases family
  | v6 bits =>
    cases right with
    | v4 bits' => cases family
    | v6 bits' => exact congrArg IpAddr.v6 (BitVec.eq_of_toNat_eq values)

theorem fromU128_eq {ε : Type} (below : value.toNat < 2 ^ family.bitLen) :
    (fromU128 family value : Exec ε IpAddr) = .ok (ofValue family value.toNat) := by
  cases family with
  | v4 bits =>
    have small : value.toNat < 2 ^ 32 := below
    have same : value.setWidth 32 = BitVec.ofNat 32 value.toNat := by
      apply BitVec.eq_of_toNat_eq
      rw [BitVec.toNat_setWidth, BitVec.toNat_ofNat]
    rw [fromU128, if_pos small, ofValue, same]
  | v6 bits => rw [fromU128, ofValue, BitVec.ofNat_toNat, BitVec.setWidth_eq]

theorem toNat_allOnes_shiftLeft {width host : Nat} (fits : host < width) :
    (BitVec.allOnes width <<< host).toNat = 2 ^ width - 2 ^ host := by
  have smaller : 2 ^ host ≤ 2 ^ width := Nat.pow_le_pow_right (by decide) (le_of_lt fits)
  have positive : 0 < 2 ^ host := Nat.two_pow_pos host
  have product : (2 ^ width - 1) * 2 ^ host =
      (2 ^ width - 2 ^ host) + 2 ^ width * (2 ^ host - 1) := by
    rw [Nat.sub_mul, Nat.mul_sub, Nat.one_mul, Nat.mul_one]
    have room : 2 ^ width ≤ 2 ^ width * 2 ^ host := Nat.le_mul_of_pos_right _ positive
    omega
  rw [BitVec.toNat_shiftLeft, BitVec.toNat_allOnes, Nat.shiftLeft_eq, product,
    Nat.add_mul_mod_self_left]
  apply Nat.mod_eq_of_lt
  omega

theorem toNat_prefixMask {bits : Nat} (fits : bits ≤ address.bitLen) :
    (prefixMask address bits).toNat = 2 ^ address.bitLen - 2 ^ (address.bitLen - bits) := by
  by_cases zero : bits = 0
  · cases address <;> simp [prefixMask, zero, IpAddr.bitLen]
  · cases address with
    | v4 word =>
      have short : 32 - bits < 32 := by omega
      rw [prefixMask, if_neg zero, BitVec.toNat_setWidth_of_le (by decide),
        toNat_allOnes_shiftLeft short, IpAddr.bitLen]
    | v6 word =>
      have short : 128 - bits < 128 := by omega
      rw [prefixMask, if_neg zero, toNat_allOnes_shiftLeft short, IpAddr.bitLen]

theorem toNat_addressMask (address : IpAddr) :
    (addressMask address).toNat = 2 ^ address.bitLen - 1 := by
  cases address with
  | v4 word => rw [addressMask, BitVec.toNat_setWidth_of_le (by decide), BitVec.toNat_allOnes,
      IpAddr.bitLen]
  | v6 word => rw [addressMask, BitVec.toNat_allOnes, IpAddr.bitLen]

end Values

end Ployz.Cluster
