import DiscoveryFilter.Interface
import DiscoveryFilter.Port.Directory

/-!
# The site of a run

What acceptors are built from besides their configuration: who the agent is, which ranges it
manages, which ports are known, and an oracle for the addresses outside the managed domain.
-/

namespace DiscoveryFilter

/-- Tells the addresses that lie outside the managed domain. -/
abbrev DomainOracle := IpAddress → Bool

/-- The oracle for which all addresses but those of a range set lie outside the domain. -/
def RangeSet.outside (managed : RangeSet) : DomainOracle :=
  fun address => !managed.contains address

/-- The facts of a run that acceptors are built from. -/
structure Site where
  agent : Ipv4
  managed : RangeSet
  ports : PortDirectory
  outOfScope : DomainOracle

namespace Site

/-- Takes the agent's address and the managed ranges from an interface that has such an address. -/
def ofInterface? {ν : Type} [Subnet ν] (interface : Interface ν) (ports : PortDirectory)
    (outOfScope : DomainOracle) : Option Site :=
  interface.agentAddress?.map fun agent =>
    { agent, managed := interface.managedRanges, ports, outOfScope }

/-- A line about the site for people who debug a host. -/
def describe (site : Site) : String :=
  "DiscoveryContext \x7b agent_address: " ++ toString site.agent ++ ", managed_ranges: \"" ++
    toString site.managed ++ "\", .. \x7d"

end Site

end DiscoveryFilter
