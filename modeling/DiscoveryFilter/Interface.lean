import DiscoveryFilter.RangeSet

/-!
# Network interfaces

The networks configured on an interface give the agent its own address and the ranges it manages.
Networks of version 6 and loopback addresses count for neither. What a network of version 4 is, is
for another package to say; here it is anything that gives the three answers of a `Subnet`.
-/

namespace DiscoveryFilter

/-- A type of networks of version 4. Nothing ties the three answers to one another. -/
class Subnet (ν : Type) where
  /-- The interface's own address in the network. -/
  address : ν → Ipv4
  /-- The number of leading bits that all addresses of the network share. -/
  length : ν → Nat
  /-- The address that the network itself goes by. -/
  base : ν → Ipv4

/-- Blocks as networks: the base is the address with the bits that do not count set to zero. -/
instance : Subnet Block where
  address := Block.address
  length := Block.length
  base b := Ipv4.ofNat (b.address.toNat >>> (32 - b.length) <<< (32 - b.length))

/-- A network that an interface has an address in. -/
inductive Network (ν : Type := Block) where
  | v4 (network : ν)
  | v6 (address : String) (length : Nat)
deriving DecidableEq

/-- The networks of an interface, in order. -/
structure Interface (ν : Type := Block) where
  networks : List (Network ν)

/-- The networks of version 4 of an interface. -/
def Interface.v4Networks {ν : Type} (i : Interface ν) : List ν :=
  i.networks.filterMap fun network =>
    match network with
    | .v4 network => some network
    | .v6 _ _ => none

variable {ν : Type} [Subnet ν]

/-- The block of a network: the network's base with its own length. If no block had that length, it
would be the block of the address alone. -/
def Block.ofNetwork (network : ν) : Block :=
  match Block.ofLength (Subnet.base network) (Subnet.length network) with
  | .ok block => block
  | .error _ => Block.host (Subnet.address network)

namespace Interface

/-- The first address of version 4 that is not a loopback address. -/
def agentAddress? (i : Interface ν) : Option Ipv4 :=
  (i.v4Networks.map Subnet.address).find? fun address => !address.isLoopback

/-- Every network whose address is not a loopback address, as a block. -/
def managedRanges (i : Interface ν) : RangeSet :=
  ⟨(i.v4Networks.filter fun network => !(Subnet.address network).isLoopback).map fun network =>
    .block (Block.ofNetwork network)⟩

end Interface

end DiscoveryFilter
