import DiscoveryFilter.Proofs.Keyed
import DiscoveryFilter.Proofs.Policy.Ranges

/-!
# What a service element means

`ServicesAdmit` says which ports the identifiers of a service element admit, in terms of the
element and the port directory alone. A policy that is built from the element rejects exactly the
endpoints of servers at other ports.
-/

namespace DiscoveryFilter

open Text

/-- What an identifier says of a port, if the text is that of the identifier without blanks around
it: one of two words, the number of a port, or the name of a service. -/
def NamesPort (directory : PortDirectory) (port : Port) : String → Prop
  | "*" => True
  | "known_services" => ∃ k ∈ directory.listed, k.discoverable = true ∧ k.port = port
  | text =>
    if isNumeral text.toList = true ∧ numeralValue text.toList ≤ 65535 then
      numeralValue text.toList = port.toNat
    else port ∈ directory.portsFor text

theorem namesPort_iff_of_ne {directory : PortDirectory} {port : Port} {text : String}
    (hany : text ≠ "*") (hknown : text ≠ "known_services") :
    NamesPort directory port text ↔
      if isNumeral text.toList = true ∧ numeralValue text.toList ≤ 65535 then
        numeralValue text.toList = port.toNat
      else port ∈ directory.portsFor text := by
  unfold NamesPort
  split
  · contradiction
  · contradiction
  · exact Iff.rfl

/-- The port is named for inclusion and not for exclusion. -/
def ServicesAdmit (directory : PortDirectory) (e : Element) (port : Port) : Prop :=
  (∃ id ∈ e.listed Identifiers.includeTag ServicePolicy.itemTag,
      NamesPort directory port (trimmed id)) ∧
    ∀ id ∈ e.listed Identifiers.excludeTag ServicePolicy.itemTag,
      ¬ NamesPort directory port (trimmed id)

namespace ServiceTarget

variable {directory : PortDirectory} {identifier : String} {port : Port}

/-- The target selects the port. -/
def Covers (port : Port) : ServiceTarget → Prop
  | .every => True
  | .one p _ => p = port

/-- The target of a numeral is the port of that number. -/
theorem ofNat_eq_iff {n : Nat} (h : n ≤ 65535) : UInt16.ofNat n = port ↔ n = port.toNat := by
  rw [← UInt16.toNat_inj, UInt16.toNat_ofNat', Nat.mod_eq_of_lt (by omega)]

/-- Some target of an identifier covers the ports that the identifier names. -/
theorem exists_covers_iff :
    (∃ t ∈ ofIdentifier directory identifier, t.Covers port) ↔
      NamesPort directory port (trimmed identifier) := by
  unfold ofIdentifier ServiceSelector.ofIdentifier
  simp only [← toList_trimmed, String.toList_inj]
  generalize trimmed identifier = text
  by_cases hany : text = "*"
  · subst hany
    simp [ServiceSelector.targets, Covers, NamesPort]
  by_cases hknown : text = "known_services"
  · subst hknown
    simp [ServiceSelector.targets, Covers, NamesPort, and_assoc]
  rw [if_neg hany, if_neg hknown, namesPort_iff_of_ne hany hknown]
  split
  · next hnumeral => simp [ServiceSelector.targets, Covers, ofNat_eq_iff hnumeral.2]
  · simp [ServiceSelector.targets, Covers]

theorem contains_select_iff (port : Port) (s : PortSelection) (t : ServiceTarget) :
    (t.select s).contains port = true ↔ s.contains port = true ∨ t.Covers port := by
  cases t with
  | every => simp [select, Covers]
  | one p name => simp [select, Covers, or_comm]

/-- Selecting one target after the other. -/
theorem contains_foldl_select_iff {s : PortSelection} {ts : List ServiceTarget} :
    (ts.foldl select s).contains port = true ↔
      s.contains port = true ∨ ∃ t ∈ ts, t.Covers port :=
  foldl_iff_exists (fun s : PortSelection => s.contains port = true) (contains_select_iff port) s ts

end ServiceTarget

/-- What some identifiers select. -/
theorem ServicePolicy.contains_selected_iff {directory : PortDirectory} {ids : List String}
    {port : Port} :
    ((ids.flatMap (ServiceTarget.ofIdentifier directory)).foldl ServiceTarget.select
        PortSelection.empty).contains port = true ↔
      ∃ id ∈ ids, NamesPort directory port (trimmed id) := by
  rw [ServiceTarget.contains_foldl_select_iff, PortSelection.contains_empty]
  constructor
  · rintro (hfalse | ⟨t, ht, hcovers⟩)
    · cases hfalse
    · obtain ⟨id, hid, ht⟩ := List.mem_flatMap.1 ht
      exact ⟨id, hid, ServiceTarget.exists_covers_iff.1 ⟨t, ht, hcovers⟩⟩
  · rintro ⟨id, hid, hnames⟩
    obtain ⟨t, ht, hcovers⟩ := ServiceTarget.exists_covers_iff.2 hnames
    exact .inr ⟨t, List.mem_flatMap.2 ⟨id, hid, ht⟩, hcovers⟩

/-- The policy admits the ports that are named for inclusion and not for exclusion. -/
theorem ServicePolicy.acceptsPort_iff (directory : PortDirectory) (ids : Identifiers)
    (port : Port) :
    (ofIdentifiers directory ids).acceptsPort port = true ↔
      (∃ id ∈ ids.includes, NamesPort directory port (trimmed id)) ∧
        ∀ id ∈ ids.excludes, ¬ NamesPort directory port (trimmed id) := by
  have hincluded : (ofIdentifiers directory ids).includes.contains port = true ↔
      ∃ id ∈ ids.includes, NamesPort directory port (trimmed id) := contains_selected_iff
  have hexcluded : (ofIdentifiers directory ids).excludes.contains port = true ↔
      ∃ id ∈ ids.excludes, NamesPort directory port (trimmed id) := contains_selected_iff
  rw [acceptsPort, Bool.and_eq_true, Bool.not_eq_true', ← Bool.not_eq_true, hincluded, hexcluded,
    and_comm]
  simp only [not_exists, not_and]

/-- The acceptor of a service element has no opinion on nodes and rejects the endpoints of servers
whose ports the element does not admit. -/
theorem rejects_of_serviceFactory {site : Site} {e : Element} {acceptor : Acceptor}
    (h : (Acceptor.serviceFactory e site).outcome = .ok acceptor) :
    (∀ n, acceptor.rejects (.node n) = false) ∧
      ∀ p, acceptor.rejects (.endpoint p) = false ↔
        (p.node.role = some .server → ServicesAdmit site.ports e p.port) := by
  unfold Acceptor.serviceFactory at h
  obtain ⟨ids, hids, h⟩ := Traced.outcome_bind_eq_ok_iff.1 h
  obtain rfl := Identifiers.ofElement_eq_ok hids
  rw [Traced.outcome_map, map_eq_ok_iff] at h
  obtain ⟨p, hp, rfl⟩ := h
  obtain rfl := Except.ok.inj hp
  refine ⟨fun _ => rfl, fun p => ?_⟩
  rw [ServicesAdmit, ← ServicePolicy.acceptsPort_iff site.ports ⟨_, _⟩ p.port]
  simp only [Acceptor.rejects_service_endpoint, Node.isServer, Bool.and_eq_false_imp, beq_iff_eq,
    Bool.not_eq_eq_eq_not, Bool.not_false]

theorem isUnknownPlugin_of_serviceFactory {site : Site} {e : Element} {cause : PluginError}
    (h : (Acceptor.serviceFactory e site).outcome = .error cause) :
    cause.isUnknownPlugin = false := by
  unfold Acceptor.serviceFactory at h
  rw [Traced.outcome_bind, bind_eq_error_iff] at h
  rcases h with h | ⟨ids, -, h⟩
  · exact Identifiers.isUnknownPlugin_of_ofElement h
  · cases h

end DiscoveryFilter
