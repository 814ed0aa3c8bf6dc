import DiscoveryFilter.Port.Selection
import Std.Data.ExtTreeMap

/-!
# Service policies

A service policy judges the endpoints of servers by their port: it must be selected for inclusion
and not for exclusion. The policy also remembers under which service names a port was included.
-/

namespace DiscoveryFilter

open Std

/-- Service names by port. -/
abbrev PortNames := ExtTreeMap Port (ExtTreeSet String)

/-- Ports to include, ports to exclude, and names of included ports. -/
structure ServicePolicy where
  includes : PortSelection
  excludes : PortSelection
  names : PortNames

namespace ServicePolicy

/-- The names under which a port was included; nothing when it has none. -/
def portNames? (p : ServicePolicy) (port : Port) : Option (ExtTreeSet String) :=
  p.names[port]?

def acceptsPort (p : ServicePolicy) (port : Port) : Bool :=
  !p.excludes.contains port && p.includes.contains port

/-- The policy has an opinion on the endpoints of servers only. -/
def isApplicable (_ : ServicePolicy) : Entity → Bool
  | .node _ => false
  | .endpoint e => e.node.isServer

def accepts (p : ServicePolicy) : Entity → Bool
  | .node _ => true
  | .endpoint e => p.acceptsPort e.port

end ServicePolicy

end DiscoveryFilter
