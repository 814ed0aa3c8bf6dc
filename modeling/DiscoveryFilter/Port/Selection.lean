import DiscoveryFilter.Entity
import Std.Data.ExtTreeSet

/-!
# Selections of ports

A `PortSelection` is a finite set of ports, or all of them.
-/

namespace DiscoveryFilter

open Std

/-- The ports that are named one by one, and whether every other port is selected as well. -/
@[ext] structure PortSelection where
  any : Bool
  ports : ExtTreeSet Port
deriving DecidableEq

namespace PortSelection

/-- No port. -/
def empty : PortSelection :=
  ⟨false, ∅⟩

/-- Every port, none of them by name. -/
def all : PortSelection :=
  ⟨true, ∅⟩

def ofList (ports : List Port) : PortSelection :=
  ⟨false, ExtTreeSet.ofList ports⟩

def insert (s : PortSelection) (port : Port) : PortSelection :=
  { s with ports := s.ports.insert port }

def insertAll (s : PortSelection) : PortSelection :=
  { s with any := true }

def contains (s : PortSelection) (port : Port) : Bool :=
  s.any || s.ports.contains port

def isEmpty (s : PortSelection) : Bool :=
  !s.any && s.ports.isEmpty

@[simp] theorem contains_empty (port : Port) : empty.contains port = false := rfl

@[simp] theorem contains_insert (s : PortSelection) (port other : Port) :
    (s.insert port).contains other = (port == other || s.contains other) := by
  have h : (compare port other == .eq) = (port == other) := by
    rw [Bool.eq_iff_iff, beq_iff_eq, beq_iff_eq, Std.compare_eq_iff_eq]
  simp [insert, contains, ExtTreeSet.contains_insert, Bool.or_left_comm, h]

@[simp] theorem contains_insertAll (s : PortSelection) (port : Port) :
    s.insertAll.contains port = true := rfl

end PortSelection

end DiscoveryFilter
