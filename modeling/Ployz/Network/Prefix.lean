import Ployz.Cluster.Range

/-!
# Compaction of route prefixes

`IpNet` is the type of the IP network library: an address with the length of a prefix, which may
have host bits. Its operations are defined by the ranges of addresses, as the library documents
them. The loop sorts the prefixes, removes those that others contain and then merges the first pair
of siblings, until nothing is left to do.
-/

namespace Ployz.Network

open Api Cluster

/-- `IpNet`: an address and the length of a prefix. -/
abbrev IpNet := IpPrefix

namespace IpNet

variable (self other : IpNet)

def trunc : IpNet := IpPrefix.base self

/-- `IpNet::contains` for another `IpNet`: `network` and `broadcast` are compared. -/
def contains : Bool :=
  sameFamily self.address other.address &&
    decide (addressValue (IpPrefix.first self) ≤ addressValue (IpPrefix.first other)) &&
    decide (addressValue (IpPrefix.last other) ≤ addressValue (IpPrefix.last self))

def supernet : Option IpNet :=
  if self.bits = 0 then none
  else some (trunc ⟨self.address, self.bits - 1, (Nat.sub_le _ _).trans self.fits⟩)

def isSibling : Bool :=
  sameFamily self.address other.address && decide (self.bits = other.bits) &&
    (supernet self).any fun parent => contains parent other

/-- The key of the sort: the address, IPv4 first, and the length. -/
def sortKey : Bool ×ₗ Nat ×ₗ Nat :=
  toLex (sameFamily self.address (.v6 0), toLex (addressValue self.address, self.bits))

end IpNet

/-- `Vec::dedup`: of equal neighbours one is left. -/
def dedup : List IpNet → List IpNet
  | [] => []
  | [net] => [net]
  | net :: next :: nets => if net = next then dedup (next :: nets) else net :: dedup (next :: nets)

/-- Whether another prefix of the list contains the prefix. -/
def contained (nets : List IpNet) (net : IpNet) : Bool :=
  nets.any fun other => other != net && IpNet.contains other net

/-- The first pair of siblings: the left one, and the list without both. -/
def siblingPair : List IpNet → Option (IpNet × List IpNet)
  | [] => none
  | left :: nets =>
    match nets.findIdx? (IpNet.isSibling left) with
    | some right => some (left, nets.eraseIdx right)
    | none => (siblingPair nets).map fun (found, others) => (found, left :: others)

/-- What a round of the loop ends with. -/
inductive Round where
  | again (nets : List IpNet)
  | done (nets : List IpNet)

/-- The prefixes in order, without duplicates. -/
def arrange (nets : List IpNet) : List IpNet :=
  dedup (nets.insertionSort fun left right => IpNet.sortKey left ≤ IpNet.sortKey right)

/-- The body of the loop. -/
def round (nets : List IpNet) : Round :=
  let nets := arrange nets
  if nets.any (contained nets) then .again (nets.filter fun net => !contained nets net)
  else
    match siblingPair nets with
    | none => .done nets
    | some (left, others) => .again (others ++ (IpNet.supernet left).toList)

/-- The loop, which gives nothing if it is not done after some rounds. -/
def compactLoop : Nat → List IpNet → Option (List IpNet)
  | 0, _ => none
  | rounds + 1, nets =>
    match round nets with
    | .again nets => compactLoop rounds nets
    | .done nets => some nets

/-- `compact_prefixes`, for as many rounds as there are prefixes and one more. -/
def compactPrefixes (nets : List IpNet) : Option (List IpNet) :=
  compactLoop (nets.length + 1) (nets.map IpNet.trunc)

end Ployz.Network
