import DiscoveryFilter.Proofs.Range.Interval
import DiscoveryFilter.Proofs.Scope.Verdict

/-!
# The networks of the agent's own interface

A site that is taken from an interface manages the networks that the agent has an address in. The
agent's address and the managed ranges are found in two passes over the interface; `Manages` says
how they belong together. A scope of such a site that configures no acceptors and gets none from
the caller accepts the nodes at the agent's own addresses, whatever their role.
-/

namespace DiscoveryFilter

/-- The first `length` bits of the base are those of the address, and the others are cleared. -/
def Subnet.BaseClears {ν : Type} [Subnet ν] (network : ν) : Prop :=
  (Subnet.base network).toNat =
    (Subnet.address network).toNat / 2 ^ (32 - Subnet.length network) *
      2 ^ (32 - Subnet.length network)

section

variable {ν : Type} [Subnet ν]

namespace Block

variable {network : ν}

/-- A length that a block can have is the length of the network's block. -/
theorem ofLength_base (h : Subnet.length network ≤ 32) :
    ofLength (Subnet.base network) (Subnet.length network) =
      .ok ⟨Subnet.base network, Subnet.length network, h⟩ :=
  dif_pos h

theorem ofNetwork_eq (h : Subnet.length network ≤ 32) :
    ofNetwork network = ⟨Subnet.base network, Subnet.length network, h⟩ := by
  rw [ofNetwork, ofLength_base h]

/-- The block of a network holds the interface's own address: a number and that number without the
bits that do not count have the same quotient. -/
theorem contains_ofNetwork (h : Subnet.length network ≤ 32) (hbase : Subnet.BaseClears network) :
    (ofNetwork network).contains (Subnet.address network) = true := by
  rw [ofNetwork_eq h, contains_iff_div]
  show _ = (Subnet.base network).toNat / 2 ^ (32 - Subnet.length network)
  rw [hbase, Nat.mul_div_cancel _ (Nat.two_pow_pos _)]
  rfl

/-- The range of a network has the network's own length and starts at its base. -/
def IsRangeOf (network : ν) (range : Range) : Prop :=
  ∃ block : Block, range = .block block ∧ block.length = Subnet.length network ∧
    block.address = Subnet.base network

theorem isRangeOf_ofNetwork (h : Subnet.length network ≤ 32) :
    IsRangeOf network (.block (ofNetwork network)) := by
  refine ⟨ofNetwork network, rfl, ?_, ?_⟩
  · rw [ofNetwork_eq h]
  · rw [ofNetwork_eq h]

end Block

namespace Interface

/-- The networks of version 4 in which the interface has an address other than a loopback one. -/
def ownNetworks (i : Interface ν) : List ν :=
  i.networks.filterMap fun network =>
    match network with
    | .v4 network => if (Subnet.address network).isLoopback then none else some network
    | .v6 _ _ => none

variable {i : Interface ν}

theorem ownNetworks_eq_filter :
    i.ownNetworks = i.v4Networks.filter fun network => !(Subnet.address network).isLoopback := by
  rw [v4Networks, List.filter_filterMap, ownNetworks]
  apply List.filterMap_congr
  intro network _
  cases network with
  | v4 network => cases h : (Subnet.address network).isLoopback <;> simp [Option.filter_some, h]
  | v6 _ _ => rfl

theorem mem_v4Networks_of_mem_ownNetworks {network : ν} (h : network ∈ i.ownNetworks) :
    network ∈ i.v4Networks := by
  rw [ownNetworks_eq_filter] at h
  exact (List.mem_filter.1 h).1

/-- The pass for the address finds the first network that the other pass takes. -/
theorem agentAddress?_eq : i.agentAddress? = i.ownNetworks.head?.map Subnet.address := by
  rw [agentAddress?, List.find?_map, ownNetworks_eq_filter, List.head?_filter]
  rfl

theorem agentAddress?_eq_none_iff : i.agentAddress? = none ↔ i.ownNetworks = [] := by
  rw [agentAddress?_eq, Option.map_eq_none_iff, List.head?_eq_none_iff]

theorem ranges_managedRanges :
    i.managedRanges.ranges = i.ownNetworks.map fun network => .block (Block.ofNetwork network) := by
  rw [managedRanges, ownNetworks_eq_filter]

end Interface

namespace Site

/-- The site belongs to an agent that has an address in each of some networks. -/
structure Manages (site : Site) (networks : List ν) : Prop where
  /-- The agent goes by its address in the first network. -/
  agent : networks.head?.map Subnet.address = some site.agent
  /-- It manages these networks and nothing else, in their order. -/
  ranges : List.Forall₂ Block.IsRangeOf networks site.managed.ranges
  contains : ∀ network ∈ networks, site.managed.contains (.v4 (Subnet.address network)) = true
  contains_agent : site.managed.contains (.v4 site.agent) = true

variable {i : Interface ν} {ports : PortDirectory} {outOfScope : DomainOracle} {site : Site}

theorem manages_of_ofInterface? (length_le : ∀ network ∈ i.v4Networks, Subnet.length network ≤ 32)
    (base_clears : ∀ network ∈ i.v4Networks, Subnet.BaseClears network)
    (h : ofInterface? i ports outOfScope = some site) : site.Manages i.ownNetworks := by
  obtain ⟨agent, hagent, rfl⟩ := Option.map_eq_some_iff.1 h
  rw [Interface.agentAddress?_eq] at hagent
  have hcontains : ∀ network ∈ i.ownNetworks,
      i.managedRanges.contains (.v4 (Subnet.address network)) = true := by
    intro network hown
    have hmem := Interface.mem_v4Networks_of_mem_ownNetworks hown
    have hrange : .block (Block.ofNetwork network) ∈ i.managedRanges.ranges := by
      rw [Interface.ranges_managedRanges]
      exact List.mem_map_of_mem hown
    exact List.any_eq_true.2
      ⟨_, hrange, Block.contains_ofNetwork (length_le network hmem) (base_clears network hmem)⟩
  refine
    { agent := hagent
      ranges := ?_
      contains := hcontains
      contains_agent := ?_ }
  · show List.Forall₂ Block.IsRangeOf i.ownNetworks i.managedRanges.ranges
    rw [Interface.ranges_managedRanges, List.forall₂_map_right_iff, List.forall₂_same]
    intro network hown
    exact Block.isRangeOf_ofNetwork
      (length_le network (Interface.mem_v4Networks_of_mem_ownNetworks hown))
  · obtain ⟨network, hfirst, rfl⟩ := Option.map_eq_some_iff.1 hagent
    exact hcontains network (List.mem_of_head? hfirst)

end Site

end

namespace Setup

variable {α ρ ω : Type} {s : Setup α ρ ω} {e : Element} {scope : Scope α ρ ω}

/-- The element holds no acceptor of a default policy: there is no filtering element for it, or
nothing below it counts. -/
def Unfiltered (e : Element) : Prop :=
  ∀ filtering, e.find? "reporting/configuration/filtering" = some filtering →
    filtering.isBare = true

theorem eq_empty_of_unfiltered (he : Unfiltered e) {p : Panel}
    (hp : s.panelOf (defaultFiltering? e) = .ok p) : p = Panel.empty := by
  rw [defaultFiltering?_eq] at hp
  cases hfind : e.find? defaultFilteringPath with
  | none =>
    rw [hfind] at hp
    exact (Except.ok.inj hp).symm
  | some filtering =>
    rw [hfind] at hp
    obtain ⟨entries, hgathers, rfl⟩ := AcceptorRegistry.buildPanel_eq_ok_iff.1 hp
    rw [List.isEmpty_iff.1 (he filtering hfind)] at hgathers
    cases hgathers
    rfl

/-- Without configured acceptors and without the caller's, the managed nodes pass. -/
theorem acceptors_of_unfiltered (he : Unfiltered e) (hoverrides : s.overrides.acceptors = ∅)
    (h : Layered s e scope) : scope.acceptors = s.managedOnly := by
  obtain ⟨p, hp, hacceptors⟩ := h.acceptors
  have hempty : Panel.empty.isEmpty = true := Panel.isEmpty_iff.2 Panel.get?_empty
  rw [hacceptors, eq_empty_of_unfiltered he hp, if_pos hempty, hoverrides]
  exact overlay_empty _

end Setup

/-- **The agent manages its own networks.** Let the networks of version 4 have lengths of at most 32
and bases without the bits that do not count. A site can be taken from an interface if the interface
has an address of version 4 other than a loopback one. Every network has a length that its block can
take over. The site goes by the first address, manages the network of each and so the addresses
themselves, and every scope that is loaded for the site without acceptors accepts the nodes there. -/
theorem Site.ofInterface?_manages {ν : Type} [Subnet ν] (i : Interface ν) (ports : PortDirectory)
    (outOfScope : DomainOracle)
    (length_le : ∀ network ∈ i.v4Networks, Subnet.length network ≤ 32)
    (base_clears : ∀ network ∈ i.v4Networks, Subnet.BaseClears network) :
    (ofInterface? i ports outOfScope = none ↔ i.ownNetworks = []) ∧
      (∀ network ∈ i.v4Networks,
        Block.ofLength (Subnet.base network) (Subnet.length network) =
          .ok (Block.ofNetwork network)) ∧
      ∀ site, ofInterface? i ports outOfScope = some site →
        site.Manages i.ownNetworks ∧
          ∀ {α ρ ω : Type} (s : Setup α ρ ω) (e : Element) (scope : Scope α ρ ω),
            s.site = site → s.overrides.acceptors = ∅ → Setup.Unfiltered e →
            (s.load e).outcome = .ok scope →
            ∀ network ∈ i.ownNetworks, ∀ role,
              scope.accepts (.node ⟨.v4 (Subnet.address network), role⟩) = true := by
  refine ⟨?_, ?_, ?_⟩
  · rw [ofInterface?, Option.map_eq_none_iff, Interface.agentAddress?_eq_none_iff]
  · intro network hmem
    rw [Block.ofNetwork_eq (length_le network hmem)]
    exact Block.ofLength_base (length_le network hmem)
  · intro site hsite
    have hmanages := manages_of_ofInterface? length_le base_clears hsite
    refine ⟨hmanages, ?_⟩
    rintro α ρ ω s e scope rfl hoverrides he hload network hnetwork role
    have hacceptors := Setup.acceptors_of_unfiltered he hoverrides (.of_load hload)
    rw [Scope.accepts, hacceptors, Setup.accepts_managedOnly_iff]
    rintro n ⟨⟩
    exact hmanages.contains network hnetwork

/-- A block makes a network whose base is clear. -/
theorem Block.baseClears (b : Block) : Subnet.BaseClears b := by
  have hbase := Nat.div_mul_le_self b.address.toNat (2 ^ (32 - b.length))
  have haddress := b.address.toNat_lt
  show (Ipv4.ofNat (b.address.toNat >>> (32 - b.length) <<< (32 - b.length))).toNat = _
  rw [Nat.shiftRight_eq_div_pow, Nat.shiftLeft_eq, Ipv4.toNat_ofNat, Nat.mod_eq_of_lt (by omega)]
  rfl

namespace Sample

/-- An interface with a loopback address before two others. -/
def lan : Interface :=
  ⟨[.v6 "fe80::1" 64, .v4 ⟨⟨127, 0, 0, 1⟩, 8, by decide⟩, .v4 ⟨⟨10, 20, 0, 7⟩, 16, by decide⟩,
    .v4 (Block.host ⟨192, 0, 2, 9⟩)]⟩

/-- The site of an agent on that interface. -/
def lanSite : Site :=
  { site with agent := ⟨10, 20, 0, 7⟩, managed := lan.managedRanges }

def lanSetup : Setup Unit Unit Unit :=
  { plain with site := lanSite }

/-- A scope whose filtering element holds nothing that counts. -/
def home : Element :=
  ((Element.ofTag "scope").withAttribute "name" "home").withChildren
    [(Element.ofTag "reporting").withChildren
      [(Element.ofTag "configuration").withChildren
          [(Element.ofTag "filtering").withChildren
            [(including "ranges" "range" "10.9.0.0/16").withAttribute "active" "no"]],
        reporter "audit" []]]

theorem ofInterface?_manages_lan :
    (∀ network ∈ lan.v4Networks, Subnet.length network ≤ 32) ∧
      (∀ network ∈ lan.v4Networks, Subnet.BaseClears network) ∧
      Site.ofInterface? lan site.ports site.outOfScope = some lanSite ∧
      lanSite.Manages lan.ownNetworks ∧
      lanSite.managed.ranges.map (fun range => toString range) = ["10.20.0.0/16", "192.0.2.9/32"] ∧
      ∃ scope, (lanSetup.load home).outcome = .ok scope ∧
        scope.accepts (.node ⟨.v4 ⟨192, 0, 2, 9⟩, some .server⟩) = true := by
  have hsite : Site.ofInterface? lan site.ports site.outOfScope = some lanSite := rfl
  have hlength : ∀ network ∈ lan.v4Networks, Subnet.length network ≤ 32 :=
    fun network _ => network.length_le
  have hbase : ∀ network ∈ lan.v4Networks, Subnet.BaseClears network :=
    fun network _ => network.baseClears
  obtain ⟨hmanages, haccepts⟩ :=
    (Site.ofInterface?_manages lan site.ports site.outOfScope hlength hbase).2.2 lanSite hsite
  have hbare : ((home.find? "reporting/configuration/filtering").all Element.isBare) = true := by
    decide +kernel
  have hunfiltered : Setup.Unfiltered home := by
    intro filtering hfiltering
    rw [hfiltering] at hbare
    exact hbare
  obtain ⟨scope, hload⟩ : ∃ scope, (lanSetup.load home).outcome = .ok scope :=
    exists_ok_of_isOk (by decide +kernel)
  have hown : Block.host ⟨192, 0, 2, 9⟩ ∈ lan.ownNetworks := by decide
  exact ⟨hlength, hbase, hsite, hmanages, by decide +kernel, scope, hload,
    haccepts lanSetup home scope rfl rfl hunfiltered hload _ hown (some .server)⟩

end Sample

end DiscoveryFilter
