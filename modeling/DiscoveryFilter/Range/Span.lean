import DiscoveryFilter.Address

/-!
# Address spans

A `Span` holds the addresses from `first` up to and including `last` in numeric order. Membership
is decided by a walk over the octets, most significant first: as long as the octets so far equal
both bounds, or one of them, only that bound limits the next octet, and an octet strictly inside
the limits that still apply frees all the octets after it.
-/

namespace DiscoveryFilter

/-- The addresses between two bounds, such as `10.0.3.15-10.0.6.42`. -/
structure Span where
  first : Ipv4
  last : Ipv4
deriving DecidableEq

namespace Span

/-- The limits of one octet position. -/
structure Bound where
  low : UInt8
  high : UInt8
deriving DecidableEq

def Bound.isEqual (b : Bound) : Bool :=
  b.low == b.high

/-- The limits of the four positions. -/
def bounds (s : Span) : List Bound :=
  List.zipWith Bound.mk s.first.octets s.last.octets

/-- Which of the bounds the octets read so far are equal to. -/
inductive Tracking where
  | both
  | first
  | last
deriving DecidableEq

/-- What one octet says about the address. -/
inductive Finding where
  | outside
  | inside
  | onBound (tracking : Tracking)
deriving DecidableEq

/-- Compares one octet with the limits that still apply. -/
def Tracking.step (t : Tracking) (b : Bound) (octet : UInt8) : Finding :=
  match t with
  | .both =>
    if b.isEqual then if octet = b.low then .onBound .both else .outside
    else if octet < b.low ∨ b.high < octet then .outside
    else if octet = b.low then .onBound .first
    else if octet = b.high then .onBound .last
    else .inside
  | .first =>
    if octet < b.low then .outside else if b.low < octet then .inside else .onBound .first
  | .last =>
    if b.high < octet then .outside else if octet < b.high then .inside else .onBound .last

/-- Walks the octets with their limits; an address that stays on a bound to its end is inside. -/
def walk : Tracking → List (Bound × UInt8) → Bool
  | _, [] => true
  | t, (b, octet) :: rest =>
    match t.step b octet with
    | .outside => false
    | .inside => true
    | .onBound t' => walk t' rest

def contains (s : Span) (x : Ipv4) : Bool :=
  walk .both (s.bounds.zip x.octets)

/-- The first address is above the last one. -/
def isInverted (s : Span) : Bool :=
  decide (s.last.toNat < s.first.toNat)

/-- The two addresses with a dash between them. -/
def write (s : Span) : List Char :=
  s.first.write ++ '-' :: s.last.write

instance : ToString Span := ⟨fun s => String.ofList s.write⟩

end Span

end DiscoveryFilter
