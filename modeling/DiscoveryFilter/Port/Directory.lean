import DiscoveryFilter.Entity
import Std.Data.ExtTreeMap

/-!
# Known ports

A `PortDirectory` is what resolving service names asks for: a list of known ports and the ports of
a name. Hosts may bring a directory of their own; a `PortCatalog` is one held in memory.
-/

namespace DiscoveryFilter

open Std

/-- A port with the name of its service. -/
structure KnownPort where
  port : Port
  discoverable : Bool
  name : String
deriving DecidableEq

/-- Answers which ports are known and which ports a service name stands for. -/
structure PortDirectory where
  /-- Every known port, discoverable or not. -/
  listed : List KnownPort
  /-- The ports of a name; none when the name is unknown. -/
  portsFor : String → List Port

/-- Known ports in the order they were given, and an index from names to their ports. -/
structure PortCatalog where
  entries : List KnownPort
  index : ExtTreeMap String (List Port)

namespace PortCatalog

/-- The ports of a name that an index holds. -/
def indexed (index : ExtTreeMap String (List Port)) (name : String) : List Port :=
  (index[name]?).getD []

/-- Adds a port under its name, unless that name has it already. -/
def addEntry (index : ExtTreeMap String (List Port)) (entry : KnownPort) :
    ExtTreeMap String (List Port) :=
  let ports := indexed index entry.name
  index.insert entry.name (if entry.port ∈ ports then ports else ports ++ [entry.port])

def ofList (entries : List KnownPort) : PortCatalog :=
  ⟨entries, entries.foldl addEntry ∅⟩

def size (c : PortCatalog) : Nat :=
  c.entries.length

def isEmpty (c : PortCatalog) : Bool :=
  c.entries.isEmpty

/-- The catalog as a directory: all its entries, and its index. -/
def directory (c : PortCatalog) : PortDirectory where
  listed := c.entries
  portsFor := indexed c.index

end PortCatalog

end DiscoveryFilter
