import DiscoveryFilter.Text.Numeral

/-!
# Network addresses

An `Ipv4` is four octets. `toNat` reads them as one number in base 256 and `bits` as a word of 32
bits, the two views in which intervals and masks of addresses are stated. An `IpAddress` may also
be of version 6; such an address is never a member of any range here and is kept by its text.
-/

namespace DiscoveryFilter

/-- The address `a.b.c.d`. -/
structure Ipv4 where
  a : UInt8
  b : UInt8
  c : UInt8
  d : UInt8
deriving DecidableEq

namespace Ipv4

/-- The octets, most significant first. -/
def octets (x : Ipv4) : List UInt8 :=
  [x.a, x.b, x.c, x.d]

/-- The address as a number in base 256. -/
def toNat (x : Ipv4) : Nat :=
  ((x.a.toNat * 256 + x.b.toNat) * 256 + x.c.toNat) * 256 + x.d.toNat

/-- The address with a given number, taken modulo the number of all addresses. -/
def ofNat (n : Nat) : Ipv4 where
  a := UInt8.ofNat (n / 256 / 256 / 256)
  b := UInt8.ofNat (n / 256 / 256)
  c := UInt8.ofNat (n / 256)
  d := UInt8.ofNat n

/-- The address as a word. -/
def bits (x : Ipv4) : BitVec 32 :=
  BitVec.ofNat 32 x.toNat

@[simp] theorem length_octets (x : Ipv4) : x.octets.length = 4 := rfl

theorem toNat_lt (x : Ipv4) : x.toNat < 256 * 256 * 256 * 256 := by
  have := x.a.toNat_lt
  have := x.b.toNat_lt
  have := x.c.toNat_lt
  have := x.d.toNat_lt
  simp only [toNat]
  omega

theorem toNat_bits (x : Ipv4) : x.bits.toNat = x.toNat :=
  Nat.mod_eq_of_lt x.toNat_lt

theorem toNat_ofNat (n : Nat) : (ofNat n).toNat = n % (256 * 256 * 256 * 256) := by
  simp only [toNat, ofNat, UInt8.toNat_ofNat']
  omega

theorem ofNat_toNat (x : Ipv4) : ofNat x.toNat = x := by
  obtain ⟨a, b, c, d⟩ := x
  have := a.toNat_lt
  have := b.toNat_lt
  have := c.toNat_lt
  have := d.toNat_lt
  simp only [ofNat, toNat, mk.injEq, ← UInt8.toNat_inj, UInt8.toNat_ofNat']
  omega

/-- Addresses with the same number are equal. -/
theorem toNat_inj {x y : Ipv4} : x.toNat = y.toNat ↔ x = y :=
  ⟨fun h => by rw [← ofNat_toNat x, h, ofNat_toNat], congrArg toNat⟩

/-- The address `127.b.c.d` of the host itself. -/
def isLoopback (x : Ipv4) : Bool :=
  x.a == 127

/-- The dotted quad of an address. -/
def write (x : Ipv4) : List Char :=
  ['.'].intercalate (x.octets.map fun o => Text.numeral o.toNat)

instance : ToString Ipv4 := ⟨fun x => String.ofList x.write⟩

end Ipv4

/-- An address of either version; one of version 6 is known by its text only. -/
inductive IpAddress where
  | v4 (address : Ipv4)
  | v6 (text : String)
deriving DecidableEq

instance : ToString IpAddress where
  toString
    | .v4 address => toString address
    | .v6 text => text

end DiscoveryFilter
