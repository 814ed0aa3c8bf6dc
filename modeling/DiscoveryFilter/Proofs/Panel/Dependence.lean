import DiscoveryFilter.Panel
import DiscoveryFilter.Proofs.Log.Outcome

/-!
# What a verdict depends on

The verdicts of range and service policies depend on the role of a node only through criteria on
nodes outside the domain, and on the oracles that these ask only for nodes whose role is known.
Both are statements about two runs: two nodes before one panel, and two panels that differ in their
oracles (`Panel.SameButOracles`) before one entity.
-/

namespace DiscoveryFilter

/-! ## Criteria -/

namespace Criterion

variable {c c' : Criterion} {n n' : Node}

/-- The criteria are the same up to the oracles that they ask. -/
inductive SameButOracles : Criterion → Criterion → Prop
  | any : SameButOracles .any .any
  | within (ranges : RangeSet) : SameButOracles (.within ranges) (.within ranges)
  | outscopeClients (oracle oracle' : DomainOracle) :
    SameButOracles (.outscopeClients oracle) (.outscopeClients oracle')
  | outscopeServers (oracle oracle' : DomainOracle) :
    SameButOracles (.outscopeServers oracle) (.outscopeServers oracle')

/-- A criterion that needs no role looks at the address alone. -/
theorem holds_eq_of_address_eq (hc : c.isRoleSensitive = false) (hn : n.address = n'.address) :
    c.holds n = c.holds n' := by
  cases c with
  | any => rfl
  | within ranges => rw [holds, holds, hn]
  | outscopeClients oracle => cases hc
  | outscopeServers oracle => cases hc

namespace SameButOracles

theorem isRoleSensitive_eq (h : SameButOracles c c') :
    c.isRoleSensitive = c'.isRoleSensitive := by
  cases h <;> rfl

/-- No oracle is asked about a node without a role. -/
theorem holds_eq (h : SameButOracles c c') (hn : n.role = none) : c.holds n = c'.holds n := by
  cases h with
  | any => rfl
  | within ranges => rfl
  | outscopeClients oracle oracle' => simp [holds, Node.isClient, hn]
  | outscopeServers oracle oracle' => simp [holds, Node.isServer, hn]

end SameButOracles

end Criterion

/-! ## Policies -/

namespace RangePolicy

variable {p p' : RangePolicy} {n n' : Node}

/-- The criteria of the policies are the same up to the oracles that they ask. -/
structure SameButOracles (p p' : RangePolicy) : Prop where
  includes : List.Forall₂ Criterion.SameButOracles p.includes p'.includes
  excludes : List.Forall₂ Criterion.SameButOracles p.excludes p'.excludes

/-- Nodes of which the same criteria hold are accepted alike. -/
theorem acceptsNode_congr {R : Criterion → Criterion → Prop}
    (hincludes : List.Forall₂ R p.includes p'.includes)
    (hexcludes : List.Forall₂ R p.excludes p'.excludes)
    (hholds : ∀ c c', R c c' → c.holds n = c'.holds n') :
    p.acceptsNode n = p'.acceptsNode n' := by
  rw [acceptsNode, acceptsNode, any_eq_of_forall₂ hincludes hholds,
    any_eq_of_forall₂ hexcludes hholds]

/-- A policy that needs no roles looks at the address alone. -/
theorem acceptsNode_eq_of_address_eq (hp : p.isRoleSensitive = false)
    (hn : n.address = n'.address) : p.acceptsNode n = p.acceptsNode n' := by
  have hcriteria := isRoleSensitive_eq_false_iff.1 hp
  have hself : ∀ cs ⊆ p.includes ++ p.excludes,
      List.Forall₂ (fun c c' => c.holds n = c'.holds n') cs cs := by
    intro cs hcs
    rw [List.forall₂_same]
    intro c hc
    exact Criterion.holds_eq_of_address_eq (hcriteria c (hcs hc)) hn
  exact acceptsNode_congr (hself _ (List.subset_append_left _ _))
    (hself _ (List.subset_append_right _ _)) fun _ _ h => h

theorem SameButOracles.isRoleSensitive_eq (h : SameButOracles p p') :
    p.isRoleSensitive = p'.isRoleSensitive := by
  have hsensitive : ∀ c c', Criterion.SameButOracles c c' →
      c.isRoleSensitive = c'.isRoleSensitive := fun _ _ hc => hc.isRoleSensitive_eq
  rw [isRoleSensitive, isRoleSensitive, List.any_append, List.any_append,
    any_eq_of_forall₂ h.includes hsensitive, any_eq_of_forall₂ h.excludes hsensitive]

end RangePolicy

/-! ## Acceptors -/

namespace Acceptor

variable {a a' : Acceptor} {n n' : Node}

/-- A service policy, or a range policy without criteria on nodes outside the domain. -/
def AsksNoOracle : Acceptor → Prop
  | .range policy => ∀ c ∈ policy.includes ++ policy.excludes,
    ∀ oracle, c ≠ .outscopeClients oracle ∧ c ≠ .outscopeServers oracle
  | .service _ => True
  | .custom .. => False

/-- The same service policies, or range policies that are the same up to the oracles. -/
inductive SameButOracles : Acceptor → Acceptor → Prop
  | range {p p' : RangePolicy} : p.SameButOracles p' → SameButOracles (.range p) (.range p')
  | service (p : ServicePolicy) : SameButOracles (.service p) (.service p)

theorem rejects_eq_of_address_eq (ha : a.AsksNoOracle) (hn : n.address = n'.address) :
    a.rejects (.node n) = a.rejects (.node n') := by
  cases a with
  | range policy =>
    have hpolicy : policy.isRoleSensitive = false := by
      rw [RangePolicy.isRoleSensitive_eq_false_iff]
      exact fun c hc => Criterion.isRoleSensitive_eq_false_iff.2 (ha c hc)
    rw [rejects_range_node, rejects_range_node, hpolicy, Bool.not_false, Bool.or_true, Bool.or_true,
      RangePolicy.acceptsNode_eq_of_address_eq hpolicy hn]
  | service policy => rfl
  | custom isApplicable accepts face => cases ha

namespace SameButOracles

theorem rejects_node_eq (h : SameButOracles a a') (hn : n.role = none) :
    a.rejects (.node n) = a'.rejects (.node n) := by
  cases h with
  | range h =>
    have haccepts := RangePolicy.acceptsNode_congr h.includes h.excludes fun _ _ hc => hc.holds_eq hn
    rw [rejects_range_node, rejects_range_node, h.isRoleSensitive_eq, haccepts]
  | service p => rfl

theorem rejects_endpoint_eq (h : SameButOracles a a') (p : Endpoint) :
    a.rejects (.endpoint p) = a'.rejects (.endpoint p) := by
  cases h <;> rfl

end SameButOracles

end Acceptor

/-! ## Panels -/

namespace Panel

variable {p p' : Panel} {e e' : Entity}

/-- Under each name the panels hold acceptors that are the same up to the oracles. -/
def SameButOracles (p p' : Panel) : Prop :=
  ∀ name, Option.Rel Acceptor.SameButOracles (p.get? name) (p'.get? name)

/-- Panels whose acceptors reject alike have the same verdict. -/
theorem accepts_congr
    (h : ∀ name, Option.Rel (fun a a' => a.rejects e = a'.rejects e') (p.get? name) (p'.get? name)) :
    p.accepts e = p'.accepts e' := by
  rw [Bool.eq_iff_iff, accepts_iff, accepts_iff]
  constructor
  · intro hall name a' ha'
    obtain ⟨a, ha, hrejects⟩ := exists_of_rel_some_right (ha' ▸ h name)
    rw [← hrejects]
    exact hall name a ha
  · intro hall name a ha
    obtain ⟨a', ha', hrejects⟩ := exists_of_rel_some_left (ha ▸ h name)
    rw [hrejects]
    exact hall name a' ha'

theorem SameButOracles.accepts_eq (h : SameButOracles p p')
    (he : ∀ a a', Acceptor.SameButOracles a a' → a.rejects e = a'.rejects e) :
    p.accepts e = p'.accepts e := by
  apply accepts_congr
  intro name
  have hname := h name
  generalize p.get? name = o, p'.get? name = o' at hname
  cases hname with
  | some h => exact .some (he _ _ h)
  | none => exact .none

/-- **Roles and oracles do not leak.** If none of the range and service policies of a panel has a
criterion on nodes outside the domain, nodes with the same address get the same verdict whatever
their roles. Whatever the policies are, other oracles do not change the verdict on a node without a
role or on an endpoint. -/
theorem verdict_hides_roles_and_oracles :
    (∀ p : Panel, (∀ name acceptor, p.get? name = some acceptor → acceptor.AsksNoOracle) →
      ∀ n n' : Node, n.address = n'.address → p.accepts (.node n) = p.accepts (.node n')) ∧
    ∀ p p' : Panel, p.SameButOracles p' →
      (∀ n : Node, n.role = none → p.accepts (.node n) = p'.accepts (.node n)) ∧
        ∀ endpoint, p.accepts (.endpoint endpoint) = p'.accepts (.endpoint endpoint) := by
  refine ⟨?_, fun p p' h => ⟨?_, ?_⟩⟩
  · intro p hp n n' hn
    apply accepts_congr
    intro name
    cases hname : p.get? name with
    | none => exact .none
    | some acceptor => exact .some (Acceptor.rejects_eq_of_address_eq (hp name acceptor hname) hn)
  · intro n hn
    exact h.accepts_eq fun _ _ ha => ha.rejects_node_eq hn
  · intro endpoint
    exact h.accepts_eq fun _ _ ha => ha.rejects_endpoint_eq endpoint

end Panel

namespace Sample

/-- Accepts all nodes but the clients that an oracle tells to be outside the domain. -/
def guarded (oracle : DomainOracle) : Panel :=
  Panel.empty.insert "ranges" (.range ⟨[.any], [.outscopeClients oracle]⟩)

/-- Accepts the nodes of one address, without asking anyone. -/
def single : Panel :=
  Panel.empty.insert "ranges" (.range ⟨[.within (.single ⟨10, 0, 0, 5⟩)], []⟩)

theorem verdict_hides_roles_and_oracles_guarded :
    (∀ name acceptor, single.get? name = some acceptor → acceptor.AsksNoOracle) ∧
    (∀ address role role', single.accepts (.node ⟨address, role⟩) =
      single.accepts (.node ⟨address, role'⟩)) ∧
    (guarded fun _ => true).SameButOracles (guarded fun _ => false) ∧
    ∀ address, (guarded fun _ => true).accepts (.node ⟨address, none⟩) =
      (guarded fun _ => false).accepts (.node ⟨address, none⟩) := by
  obtain ⟨hroles, horacles⟩ := Panel.verdict_hides_roles_and_oracles
  have hsingle : ∀ name acceptor, single.get? name = some acceptor → acceptor.AsksNoOracle := by
    intro name acceptor hget
    rw [single, Panel.get?_insert, Panel.get?_empty] at hget
    split at hget
    · obtain rfl := Option.some.inj hget
      simp [Acceptor.AsksNoOracle]
    · cases hget
  have hguarded : (guarded fun _ => true).SameButOracles (guarded fun _ => false) := by
    intro name
    rw [guarded, guarded, Panel.get?_insert, Panel.get?_insert, Panel.get?_empty]
    split
    · exact .some (.range ⟨.cons .any .nil, .cons (.outscopeClients _ _) .nil⟩)
    · exact .none
  refine ⟨hsingle, ?_, hguarded, ?_⟩
  · intro address role role'
    exact hroles single hsingle ⟨address, role⟩ ⟨address, role'⟩ rfl
  · intro address
    exact (horacles _ _ hguarded).1 ⟨address, none⟩ rfl

end Sample

end DiscoveryFilter
