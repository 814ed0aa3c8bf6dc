import DiscoveryFilter.Address
import DiscoveryFilter.OctetSet

/-!
# Address patterns

A `Pattern` says for each octet position which values it allows, such as `10.[1-5].{1,3}.*`.
-/

namespace DiscoveryFilter

/-- The addresses each octet of which is allowed at its position. -/
structure Pattern where
  a : OctetSet
  b : OctetSet
  c : OctetSet
  d : OctetSet
deriving DecidableEq

namespace Pattern

/-- The positions, most significant first. -/
def octets (p : Pattern) : List OctetSet :=
  [p.a, p.b, p.c, p.d]

def contains (p : Pattern) (x : Ipv4) : Bool :=
  (p.octets.zip x.octets).all fun q => q.1.contains q.2

/-- The four positions joined by dots. -/
def write (p : Pattern) : List Char :=
  ['.'].intercalate (p.octets.map OctetSet.write)

instance : ToString Pattern := ⟨fun p => String.ofList p.write⟩

end Pattern

end DiscoveryFilter
