import DiscoveryFilter.Site
import DiscoveryFilter.Text.Quoted

/-!
# Criteria on nodes

A range policy is made of criteria: any node, the nodes of a range set, or the clients or servers
outside the managed domain. The last two need the role of a node.
-/

namespace DiscoveryFilter

/-- What a range policy includes or excludes. -/
inductive Criterion where
  | any
  | within (ranges : RangeSet)
  | outscopeClients (outOfScope : DomainOracle)
  | outscopeServers (outOfScope : DomainOracle)

namespace Criterion

/-- The node meets the criterion. -/
def holds : Criterion → Node → Bool
  | .any, _ => true
  | .within ranges, n => ranges.contains n.address
  | .outscopeClients outOfScope, n => n.isClient && outOfScope n.address
  | .outscopeServers outOfScope, n => n.isServer && outOfScope n.address

/-- A node without a role cannot be tested. -/
def isRoleSensitive : Criterion → Bool
  | .outscopeClients _ | .outscopeServers _ => true
  | _ => false

theorem isRoleSensitive_eq_false_iff {c : Criterion} : c.isRoleSensitive = false ↔
    ∀ oracle, c ≠ .outscopeClients oracle ∧ c ≠ .outscopeServers oracle := by
  cases c <;> simp [isRoleSensitive]

/-- A short text for people who debug a host. -/
def describe : Criterion → String
  | .any => "Wildcard"
  | .within ranges => "Ip(" ++ Text.quoted (toString ranges) ++ ")"
  | .outscopeClients _ => "OutscopeClients"
  | .outscopeServers _ => "OutscopeServers"

end Criterion

end DiscoveryFilter
