import DiscoveryFilter.Policy.RangePolicy
import DiscoveryFilter.Policy.ServicePolicy

/-!
# Acceptors

An acceptor says first whether it has an opinion on an entity and then which one. Besides the range
and service policies a host may bring acceptors of its own. To those who ask for its kind, an
acceptor shows its `face`. A policy shows itself, but an acceptor of the host's may show a policy
that it holds inside, whatever its own opinions are.
-/

namespace DiscoveryFilter

/-- What an acceptor shows to those who ask for its kind. -/
inductive Face where
  | range (policy : RangePolicy)
  | service (policy : ServicePolicy)
  /-- Something of neither kind. -/
  | other

/-- A policy of a known kind, or any other pair of opinions behind any face. -/
inductive Acceptor where
  | range (policy : RangePolicy)
  | service (policy : ServicePolicy)
  | custom (isApplicable accepts : Entity → Bool) (face : Face := .other)

namespace Acceptor

/-- The acceptor has an opinion on the entity. -/
def isApplicable : Acceptor → Entity → Bool
  | .range policy, e => policy.isApplicable e
  | .service policy, e => policy.isApplicable e
  | .custom isApplicable _ _, e => isApplicable e

/-- The opinion; it counts only where the acceptor is applicable. -/
def accepts : Acceptor → Entity → Bool
  | .range policy, e => policy.accepts e
  | .service policy, e => policy.accepts e
  | .custom _ accepts _, e => accepts e

/-- The acceptor has an opinion on the entity, and it is against. -/
def rejects (a : Acceptor) (e : Entity) : Bool :=
  a.isApplicable e && !a.accepts e

theorem rejects_eq_false_iff {a : Acceptor} {e : Entity} :
    a.rejects e = false ↔ (a.isApplicable e = true → a.accepts e = true) := by
  simp [rejects]

@[simp] theorem rejects_range_node (policy : RangePolicy) (n : Node) :
    (range policy).rejects (.node n) =
      ((n.role.isSome || !policy.isRoleSensitive) && !policy.acceptsNode n) := rfl

@[simp] theorem rejects_range_endpoint (policy : RangePolicy) (p : Endpoint) :
    (range policy).rejects (.endpoint p) = false := rfl

@[simp] theorem rejects_service_node (policy : ServicePolicy) (n : Node) :
    (service policy).rejects (.node n) = false := rfl

@[simp] theorem rejects_service_endpoint (policy : ServicePolicy) (p : Endpoint) :
    (service policy).rejects (.endpoint p) = (p.node.isServer && !policy.acceptsPort p.port) := rfl

/-- What the acceptor shows to those who ask for its kind. -/
def face : Acceptor → Face
  | .range policy => .range policy
  | .service policy => .service policy
  | .custom _ _ face => face

/-- The range policy that the acceptor shows. -/
def range? (a : Acceptor) : Option RangePolicy :=
  match a.face with
  | .range policy => some policy
  | _ => none

/-- The service policy that the acceptor shows. -/
def service? (a : Acceptor) : Option ServicePolicy :=
  match a.face with
  | .service policy => some policy
  | _ => none

theorem service?_eq_some_iff {a : Acceptor} {policy : ServicePolicy} :
    a.service? = some policy ↔ a.face = .service policy := by
  unfold service?
  cases a.face <;> simp

end Acceptor

end DiscoveryFilter
