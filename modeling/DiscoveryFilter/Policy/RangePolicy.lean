import DiscoveryFilter.Policy.Criterion

/-!
# Range policies

A range policy admits a node that meets some criterion to include and none to exclude: exclusion
wins. As soon as any of its criteria needs a role, the policy has no opinion on nodes without one.
-/

namespace DiscoveryFilter

/-- Criteria to include and criteria to exclude. -/
structure RangePolicy where
  includes : List Criterion
  excludes : List Criterion

namespace RangePolicy

/-- Some criterion needs the role of a node. -/
def isRoleSensitive (p : RangePolicy) : Bool :=
  (p.includes ++ p.excludes).any Criterion.isRoleSensitive

theorem isRoleSensitive_eq_false_iff {p : RangePolicy} :
    p.isRoleSensitive = false ↔ ∀ c ∈ p.includes ++ p.excludes, c.isRoleSensitive = false := by
  simp only [isRoleSensitive, List.any_eq_false, Bool.not_eq_true]

def acceptsNode (p : RangePolicy) (n : Node) : Bool :=
  !(p.excludes.any fun criterion => criterion.holds n) &&
    p.includes.any fun criterion => criterion.holds n

/-- The policy has an opinion on nodes, but not on a node that lacks a role it needs. -/
def isApplicable (p : RangePolicy) : Entity → Bool
  | .node n => n.role.isSome || !p.isRoleSensitive
  | .endpoint _ => false

def accepts (p : RangePolicy) : Entity → Bool
  | .node n => p.acceptsNode n
  | .endpoint _ => true

/-- The policy that admits exactly the nodes the agent manages. -/
def managedOnly (site : Site) : RangePolicy :=
  ⟨[.within site.managed], []⟩

end RangePolicy

end DiscoveryFilter
