import DiscoveryFilter.Address
import DiscoveryFilter.Range.Error

/-!
# Address blocks

A `Block` is an address and the number of its leading bits that count, such as `192.168.0.0/16`.
The address stays as written; the mask clears the bits that do not count on both sides of the
comparison.
-/

namespace DiscoveryFilter

/-- The addresses that agree with `address` in their first `length` bits. -/
structure Block where
  address : Ipv4
  length : Nat
  length_le : length ≤ 32
deriving DecidableEq

namespace Block

/-- The block of a given length; a length above 32 is refused with its numeral. -/
def ofLength (address : Ipv4) (length : Nat) : Except RangeError Block :=
  if h : length ≤ 32 then .ok ⟨address, length, h⟩
  else .error (.invalidLength (String.ofList (Text.numeral length)))

/-- The block of a single address. -/
def host (address : Ipv4) : Block :=
  ⟨address, 32, Nat.le_refl 32⟩

/-- The first `length` bits are set. A shift by all 32 bits leaves none. -/
def mask (b : Block) : BitVec 32 :=
  BitVec.allOnes 32 <<< (32 - b.length)

def contains (b : Block) (x : Ipv4) : Bool :=
  x.bits &&& b.mask == b.address.bits &&& b.mask

/-- Address and length with a slash between them. -/
def write (b : Block) : List Char :=
  b.address.write ++ '/' :: Text.numeral b.length

instance : ToString Block := ⟨fun b => String.ofList b.write⟩

end Block

end DiscoveryFilter
