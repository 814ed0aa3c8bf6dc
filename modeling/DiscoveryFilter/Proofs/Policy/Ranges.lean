import DiscoveryFilter.Proofs.Log.Outcome
import DiscoveryFilter.Registry

/-!
# What a range element means

`RangesAdmit` says which nodes the identifiers of a range element admit, in terms of the element
and the site alone. A policy that is built from the element rejects exactly the other nodes.
-/

namespace DiscoveryFilter

open Text

/-- The identifiers of the items of a tag in every list of a tag. -/
def Element.listed (e : Element) (listTag itemTag : String) : List String :=
  (e.listedItems listTag itemTag).filterMap Element.identifier?

/-- The identifiers that ask for the role of a node. -/
def roleIdentifiers : List String :=
  ["outscope_clients", "outscope_servers"]

/-- What an identifier says of a node, if the text is that of the identifier without blanks around
it: one of five words, or a range set that holds the address. -/
def NamesNode (site : Site) (n : Node) : String → Prop
  | "*" => True
  | "probe_ranges" => site.managed.contains n.address = true
  | "ddm_related_connections" => n.address = .v4 site.agent
  | "outscope_clients" => n.role = some .client ∧ site.outOfScope n.address = true
  | "outscope_servers" => n.role = some .server ∧ site.outOfScope n.address = true
  | text => ∃ ranges, RangeSet.parse text = .ok ranges ∧ ranges.contains n.address = true

/-- A node without a role passes if the element asks for roles. Any other node must not be named
for exclusion and must be named for inclusion, or be managed if nothing is to be included. -/
def RangesAdmit (site : Site) (e : Element) (n : Node) : Prop :=
  let includes := e.listed Identifiers.includeTag RangePolicy.itemTag
  let excludes := e.listed Identifiers.excludeTag RangePolicy.itemTag
  (n.role = none ∧ ∃ id ∈ includes ++ excludes, trimmed id ∈ roleIdentifiers) ∨
    ((∀ id ∈ excludes, ¬ NamesNode site n (trimmed id)) ∧
      if includes = [] then site.managed.contains n.address = true
      else ∃ id ∈ includes, NamesNode site n (trimmed id))

/-! ## Identifiers -/

/-- The identifiers are read only if every item has one. -/
theorem Element.listed_of_identifiers {e : Element} {listTag itemTag : String} {ids : List String}
    (h : e.identifiers listTag itemTag = .ok ids) : e.listed listTag itemTag = ids := by
  have hpairs := mapM_eq_ok_iff.1 h
  clear h
  unfold listed
  generalize e.listedItems listTag itemTag = items at hpairs ⊢
  induction hpairs with
  | nil => rfl
  | @cons item id _ _ hid _ ih =>
    cases hitem : item.identifier? with
    | none => simp [hitem] at hid
    | some identifier =>
      rw [hitem] at hid
      rw [List.filterMap_cons_some hitem, ih, Except.ok.inj hid]

theorem Identifiers.ofElement_eq_ok {e : Element} {itemTag : String} {ids : Identifiers}
    (h : Identifiers.ofElement e itemTag = .ok ids) :
    ids = ⟨e.listed includeTag itemTag, e.listed excludeTag itemTag⟩ := by
  obtain ⟨includes, hincludes, h⟩ := bind_eq_ok_iff.1 h
  obtain ⟨excludes, hexcludes, h⟩ := bind_eq_ok_iff.1 h
  rw [Element.listed_of_identifiers hincludes, Element.listed_of_identifiers hexcludes]
  exact (Except.ok.inj h).symm

/-- Reading identifiers fails where an item has none, and not for want of a plugin. -/
theorem Element.isUnknownPlugin_of_identifiers {e : Element} {listTag itemTag : String}
    {cause : PluginError} (h : e.identifiers listTag itemTag = .error cause) :
    cause.isUnknownPlugin = false := by
  obtain ⟨item, -, hitem⟩ := exists_of_mapM_eq_error h
  cases hid : item.identifier? with
  | none =>
    rw [hid] at hitem
    obtain rfl := Except.error.inj hitem
    rfl
  | some identifier => simp [hid] at hitem

theorem Identifiers.isUnknownPlugin_of_ofElement {e : Element} {itemTag : String}
    {cause : PluginError} (h : Identifiers.ofElement e itemTag = .error cause) :
    cause.isUnknownPlugin = false := by
  rcases bind_eq_error_iff.1 h with h | ⟨includes, -, h⟩
  · exact Element.isUnknownPlugin_of_identifiers h
  · rcases bind_eq_error_iff.1 h with h | ⟨excludes, -, h⟩
    · exact Element.isUnknownPlugin_of_identifiers h
    · cases h

/-! ## Criteria -/

theorem Block.contains_host_iff {x y : Ipv4} : (Block.host x).contains y = true ↔ y = x := by
  have hmask : (Block.host x).mask = BitVec.allOnes 32 := BitVec.shiftLeft_zero _
  rw [contains, hmask, BitVec.and_allOnes, BitVec.and_allOnes, beq_iff_eq, ← BitVec.toNat_inj,
    Ipv4.toNat_bits, Ipv4.toNat_bits]
  exact Ipv4.toNat_inj

theorem RangeSet.contains_single_iff {x : Ipv4} {address : IpAddress} :
    (RangeSet.single x).contains address = true ↔ address = .v4 x := by
  cases address with
  | v4 y =>
    rw [IpAddress.v4.injEq, ← Block.contains_host_iff]
    simp [contains, containsV4, single, Range.contains]
  | v6 text => simp [contains]

theorem RangeSymbol.ofIdentifier?_eq_none_iff {identifier : String} :
    ofIdentifier? identifier = none ↔ ∀ row ∈ table, trimmed identifier ≠ row.1 := by
  simp only [ofIdentifier?, List.lookup_eq_none_iff, bne_iff_ne]

namespace Criterion

variable {site : Site} {identifier : String} {criterion : Criterion}

/-- An identifier is a symbol and spelled like it, or it is none and has the text of a range set. -/
theorem ofIdentifier_eq_ok (h : ofIdentifier site identifier = .ok criterion) :
    (∃ symbol, (trimmed identifier, symbol) ∈ RangeSymbol.table ∧
        criterion = symbol.criterion site) ∨
      (∀ row ∈ RangeSymbol.table, trimmed identifier ≠ row.1) ∧
        ∃ ranges, RangeSet.parse (trimmed identifier) = .ok ranges ∧ criterion = .within ranges := by
  unfold ofIdentifier at h
  cases hsymbol : RangeSymbol.ofIdentifier? identifier with
  | some symbol =>
    rw [hsymbol] at h
    left
    refine ⟨symbol, ?_, (Except.ok.inj h).symm⟩
    obtain ⟨before, after, heq, -⟩ := List.lookup_eq_some_iff.1 hsymbol
    rw [heq]
    exact List.mem_append_right before List.mem_cons_self
  | none =>
    rw [hsymbol] at h
    obtain ⟨ranges, hranges, rfl⟩ := map_eq_ok_iff.1 h
    exact .inr ⟨RangeSymbol.ofIdentifier?_eq_none_iff.1 hsymbol, ranges, hranges, rfl⟩

/-- A criterion holds of the nodes that its identifier names. -/
theorem holds_iff_of_ofIdentifier (h : ofIdentifier site identifier = .ok criterion) (n : Node) :
    criterion.holds n = true ↔ NamesNode site n (trimmed identifier) := by
  rcases ofIdentifier_eq_ok h with ⟨symbol, hrow, rfl⟩ | ⟨hother, ranges, hranges, rfl⟩
  · generalize trimmed identifier = text at hrow ⊢
    simp only [RangeSymbol.table, List.mem_cons, Prod.mk.injEq, List.not_mem_nil, or_false] at hrow
    rcases hrow with ⟨rfl, rfl⟩ | ⟨rfl, rfl⟩ | ⟨rfl, rfl⟩ | ⟨rfl, rfl⟩ | ⟨rfl, rfl⟩
    · simp [NamesNode, RangeSymbol.criterion, holds]
    · simp [NamesNode, RangeSymbol.criterion, holds, RangeSet.contains_single_iff]
    · simp [NamesNode, RangeSymbol.criterion, holds, Node.isClient]
    · simp [NamesNode, RangeSymbol.criterion, holds, Node.isServer]
    · simp [NamesNode, RangeSymbol.criterion, holds]
  · unfold NamesNode
    split
    · next heq => exact absurd heq (hother ("*", .any) (by decide))
    · next heq => exact absurd heq (hother ("probe_ranges", .managed) (by decide))
    · next heq => exact absurd heq (hother ("ddm_related_connections", .agent) (by decide))
    · next heq => exact absurd heq (hother ("outscope_clients", .outscopeClients) (by decide))
    · next heq => exact absurd heq (hother ("outscope_servers", .outscopeServers) (by decide))
    · rw [hranges]
      simp [holds]

/-- Resolving identifiers succeeds exactly when each of them has a criterion. -/
theorem outcome_mapM_resolve_eq_ok_iff {ids : List String} {criteria : List Criterion} :
    (ids.mapM (resolve site)).outcome = .ok criteria ↔
      List.Forall₂ (fun id c => ofIdentifier site id = .ok c) ids criteria := by
  have houtcome (id : String) : (resolve site id).outcome = ofIdentifier site id := rfl
  simp only [Traced.outcome_mapM, mapM_eq_ok_iff, houtcome]

/-- The identifiers that ask for roles are symbols. -/
theorem not_mem_roleIdentifiers {text : String}
    (h : ∀ row ∈ RangeSymbol.table, text ≠ row.1) : text ∉ roleIdentifiers := by
  have hclients := h ("outscope_clients", .outscopeClients) (by decide)
  have hservers := h ("outscope_servers", .outscopeServers) (by decide)
  simp [roleIdentifiers, hclients, hservers]

/-- The criteria that ask for roles come from the identifiers that do. -/
theorem isRoleSensitive_iff_of_ofIdentifier (h : ofIdentifier site identifier = .ok criterion) :
    criterion.isRoleSensitive = true ↔ trimmed identifier ∈ roleIdentifiers := by
  rcases ofIdentifier_eq_ok h with ⟨symbol, hrow, rfl⟩ | ⟨hother, ranges, -, rfl⟩
  · generalize trimmed identifier = text at hrow ⊢
    simp only [RangeSymbol.table, List.mem_cons, Prod.mk.injEq, List.not_mem_nil, or_false] at hrow
    rcases hrow with ⟨rfl, rfl⟩ | ⟨rfl, rfl⟩ | ⟨rfl, rfl⟩ | ⟨rfl, rfl⟩ | ⟨rfl, rfl⟩ <;>
      simp [RangeSymbol.criterion, isRoleSensitive, roleIdentifiers]
  · simp [isRoleSensitive, not_mem_roleIdentifiers hother]

end Criterion

/-! ## The policy of an element -/

namespace RangePolicy

variable {site : Site} {ids : Identifiers} {p : RangePolicy}

/-- The two lists are resolved one after the other. -/
theorem build_eq_bind (site : Site) (ids : Identifiers) : build site ids =
    ((if ids.includes.isEmpty then pure [.within site.managed]
      else ids.includes.mapM (Criterion.resolve site)) >>= fun includes => do
        let excludes ← ids.excludes.mapM (Criterion.resolve site)
        Traced.tell [.builtRanges includes.length excludes.length]
        return ⟨includes, excludes⟩) := by
  unfold build
  split <;> rfl

/-- Each identifier gives one criterion; with none to include, the managed ranges are included. -/
theorem build_eq_ok (h : (build site ids).outcome = .ok p) :
    (if ids.includes = [] then p.includes = [.within site.managed]
      else List.Forall₂ (fun id c => Criterion.ofIdentifier site id = .ok c) ids.includes
        p.includes) ∧
      List.Forall₂ (fun id c => Criterion.ofIdentifier site id = .ok c) ids.excludes
        p.excludes := by
  rw [build_eq_bind] at h
  obtain ⟨includes, hincludes, h⟩ := Traced.outcome_bind_eq_ok_iff.1 h
  obtain ⟨excludes, hexcludes, h⟩ := Traced.outcome_bind_eq_ok_iff.1 h
  obtain rfl := Except.ok.inj h
  refine ⟨?_, Criterion.outcome_mapM_resolve_eq_ok_iff.1 hexcludes⟩
  cases hids : ids.includes with
  | nil =>
    rw [hids] at hincludes
    rw [if_pos rfl]
    exact (Except.ok.inj hincludes).symm
  | cons id rest =>
    rw [hids] at hincludes
    rw [if_neg (List.cons_ne_nil id rest)]
    exact Criterion.outcome_mapM_resolve_eq_ok_iff.1 hincludes

/-- The policy asks for roles as soon as one of its identifiers does. -/
theorem isRoleSensitive_iff_of_build (h : (build site ids).outcome = .ok p) :
    p.isRoleSensitive = true ↔
      ∃ id ∈ ids.includes ++ ids.excludes, trimmed id ∈ roleIdentifiers := by
  obtain ⟨hincludes, hexcludes⟩ := build_eq_ok h
  have hincluded : p.includes.any Criterion.isRoleSensitive = true ↔
      ∃ id ∈ ids.includes, trimmed id ∈ roleIdentifiers := by
    split at hincludes
    · next hnil =>
      rw [hincludes, hnil]
      simp [Criterion.isRoleSensitive]
    · exact any_iff_of_forall₂ hincludes fun _ _ => Criterion.isRoleSensitive_iff_of_ofIdentifier
  have hexcluded : p.excludes.any Criterion.isRoleSensitive = true ↔
      ∃ id ∈ ids.excludes, trimmed id ∈ roleIdentifiers :=
    any_iff_of_forall₂ hexcludes fun _ _ => Criterion.isRoleSensitive_iff_of_ofIdentifier
  rw [isRoleSensitive, List.any_append, Bool.or_eq_true, hincluded, hexcluded]
  simp only [List.mem_append, or_and_right, exists_or]

/-- The policy admits the nodes that are named for inclusion and not for exclusion. -/
theorem acceptsNode_iff_of_build (h : (build site ids).outcome = .ok p) (n : Node) :
    p.acceptsNode n = true ↔
      (∀ id ∈ ids.excludes, ¬ NamesNode site n (trimmed id)) ∧
        if ids.includes = [] then site.managed.contains n.address = true
        else ∃ id ∈ ids.includes, NamesNode site n (trimmed id) := by
  obtain ⟨hincludes, hexcludes⟩ := build_eq_ok h
  have hexcluded : p.excludes.any (fun criterion => criterion.holds n) = true ↔
      ∃ id ∈ ids.excludes, NamesNode site n (trimmed id) :=
    any_iff_of_forall₂ hexcludes fun _ _ hc => Criterion.holds_iff_of_ofIdentifier hc n
  rw [acceptsNode, Bool.and_eq_true, Bool.not_eq_true', ← Bool.not_eq_true, hexcluded]
  simp only [not_exists, not_and]
  apply and_congr_right
  intro _
  split at hincludes
  · next hnil =>
    rw [hincludes, if_pos hnil]
    simp [Criterion.holds]
  · next hne =>
    rw [if_neg hne]
    exact any_iff_of_forall₂ hincludes fun _ _ hc => Criterion.holds_iff_of_ofIdentifier hc n

end RangePolicy

/-- The acceptor of a range element has no opinion on endpoints and rejects the nodes that the
element does not admit. -/
theorem rejects_of_rangeFactory {site : Site} {e : Element} {acceptor : Acceptor}
    (h : (Acceptor.rangeFactory e site).outcome = .ok acceptor) :
    (∀ n, acceptor.rejects (.node n) = false ↔ RangesAdmit site e n) ∧
      ∀ p, acceptor.rejects (.endpoint p) = false := by
  unfold Acceptor.rangeFactory at h
  obtain ⟨ids, hids, h⟩ := Traced.outcome_bind_eq_ok_iff.1 h
  obtain rfl := Identifiers.ofElement_eq_ok hids
  rw [Traced.outcome_map, Traced.outcome_mapError, map_eq_ok_iff] at h
  obtain ⟨p, hp, rfl⟩ := h
  have hp := mapError_eq_ok_iff.1 hp
  refine ⟨fun n => ?_, fun _ => rfl⟩
  rw [RangesAdmit, ← RangePolicy.isRoleSensitive_iff_of_build hp,
    ← RangePolicy.acceptsNode_iff_of_build hp n]
  rw [Acceptor.rejects_range_node]
  cases n.role <;> cases p.isRoleSensitive <;> simp

theorem isUnknownPlugin_of_rangeFactory {site : Site} {e : Element} {cause : PluginError}
    (h : (Acceptor.rangeFactory e site).outcome = .error cause) :
    cause.isUnknownPlugin = false := by
  unfold Acceptor.rangeFactory at h
  rw [Traced.outcome_bind, bind_eq_error_iff] at h
  rcases h with h | ⟨ids, -, h⟩
  · exact Identifiers.isUnknownPlugin_of_ofElement h
  · rw [Traced.outcome_map, Traced.outcome_mapError] at h
    cases hbuild : (RangePolicy.build site ids).outcome with
    | ok p =>
      rw [hbuild] at h
      cases h
    | error rangeError =>
      rw [hbuild] at h
      obtain rfl := Except.error.inj h
      rfl

end DiscoveryFilter
