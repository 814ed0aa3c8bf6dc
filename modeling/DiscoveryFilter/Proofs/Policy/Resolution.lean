import DiscoveryFilter.Proofs.Policy.Services

/-!
# Service identifiers over a catalog

`Selects` says which ports an identifier selects from the entries of a catalog, and `Includes` under
which names a port is included. Both see the entries and the identifiers only as sets.
`ServicePolicy.build_over_catalog` says that a policy is built from identifiers with just these
ports and names, and which identifiers it warns of.
-/

namespace DiscoveryFilter

open Std Text

/-- The text is read as the name of a service: it is neither of the two words nor a port number. -/
def IsServiceName (text : String) : Prop :=
  text ≠ "*" ∧ text ≠ "known_services" ∧
    ¬ (isNumeral text.toList = true ∧ numeralValue text.toList ≤ 65535)

/-- An identifier without blanks around it selects the port from the entries of a catalog. -/
inductive Selects (entries : List KnownPort) (port : Port) : String → Prop
  | any : Selects entries port "*"
  | known {k : KnownPort} :
    k ∈ entries → k.discoverable = true → k.port = port → Selects entries port "known_services"
  | number {text : String} :
    isNumeral text.toList = true → numeralValue text.toList = port.toNat →
      Selects entries port text
  | named {k : KnownPort} :
    k ∈ entries → IsServiceName k.name → k.port = port → Selects entries port k.name

/-- The identifiers include the port under the name: they ask for the discoverable entries and one of
these has both, or the name is one of the identifiers and selects the port. -/
def Includes (entries : List KnownPort) (ids : List String) (port : Port) (name : String) : Prop :=
  ((∃ id ∈ ids, trimmed id = "known_services") ∧
      ∃ k ∈ entries, k.discoverable = true ∧ k.port = port ∧ k.name = name) ∨
    ∃ id ∈ ids, trimmed id = name ∧ IsServiceName name ∧ Selects entries port name

/-! ## The index of a catalog -/

namespace PortCatalog

theorem mem_indexed_addEntry (name : String) (port : Port) (index : ExtTreeMap String (List Port))
    (entry : KnownPort) :
    port ∈ indexed (addEntry index entry) name ↔
      port ∈ indexed index name ∨ entry.name = name ∧ entry.port = port := by
  unfold addEntry
  by_cases hname : entry.name = name
  · subst hname
    have hindexed (ports : List Port) :
        indexed (index.insert entry.name ports) entry.name = ports := by
      simp [indexed]
    simp only [hindexed, true_and]
    by_cases hport : entry.port ∈ indexed index entry.name
    · rw [if_pos hport]
      exact ⟨.inl, fun h => h.elim id fun h => h ▸ hport⟩
    · rw [if_neg hport, List.mem_append, List.mem_singleton, eq_comm (a := port)]
  · have hindexed (ports : List Port) :
        indexed (index.insert entry.name ports) name = indexed index name := by
      simp [indexed, ExtTreeMap.getElem?_insert, hname]
    simp [hindexed, hname]

/-- The index has the ports of every name that the entries give it. -/
theorem mem_portsFor_iff {entries : List KnownPort} {name : String} {port : Port} :
    port ∈ (ofList entries).directory.portsFor name ↔
      ∃ k ∈ entries, k.name = name ∧ k.port = port := by
  have hempty : indexed ∅ name = [] := by simp [indexed]
  have hfold := foldl_iff_exists (fun index => port ∈ indexed index name)
    (mem_indexed_addEntry name port) ∅ entries
  rw [hempty] at hfold
  exact hfold.trans (or_iff_right List.not_mem_nil)

end PortCatalog

/-- An identifier selects from a catalog the ports that it names in the directory of the catalog. -/
theorem namesPort_iff_selects {entries : List KnownPort} {port : Port} {text : String} :
    NamesPort (PortCatalog.ofList entries).directory port text ↔ Selects entries port text := by
  have hport : port.toNat < 2 ^ 16 := port.toNat_lt
  constructor
  · intro h
    by_cases hany : text = "*"
    · exact hany ▸ .any
    by_cases hknown : text = "known_services"
    · subst hknown
      obtain ⟨k, hk, hdiscoverable, hport⟩ := h
      exact .known hk hdiscoverable hport
    rw [namesPort_iff_of_ne hany hknown] at h
    split at h
    · next hnumeral => exact .number hnumeral.1 h
    · next hnumeral =>
      obtain ⟨k, hk, rfl, hport⟩ := PortCatalog.mem_portsFor_iff.1 h
      exact .named hk ⟨hany, hknown, hnumeral⟩ hport
  · intro h
    cases h with
    | any => exact trivial
    | known hk hdiscoverable hport => exact ⟨_, hk, hdiscoverable, hport⟩
    | number hnumeral hvalue =>
      have hany : text ≠ "*" := by
        rintro rfl
        exact absurd hnumeral (by decide)
      have hknown : text ≠ "known_services" := by
        rintro rfl
        exact absurd hnumeral (by decide)
      rw [namesPort_iff_of_ne hany hknown, if_pos ⟨hnumeral, by omega⟩]
      exact hvalue
    | named hk hname hport =>
      rw [namesPort_iff_of_ne hname.1 hname.2.1, if_neg hname.2.2, PortCatalog.mem_portsFor_iff]
      exact ⟨_, hk, rfl, hport⟩

/-! ## Targets -/

namespace ServiceTarget

variable {directory : PortDirectory} {id : String} {port : Port} {name : String}

/-- The ports that an identifier stands for under a name. -/
theorem one_mem_ofIdentifier_iff :
    .one port (some name) ∈ ofIdentifier directory id ↔
      (trimmed id = "known_services" ∧
          ∃ k ∈ directory.listed, k.discoverable = true ∧ k.port = port ∧ k.name = name) ∨
        trimmed id = name ∧ IsServiceName (trimmed id) ∧ port ∈ directory.portsFor name := by
  unfold ofIdentifier ServiceSelector.ofIdentifier
  simp only [← toList_trimmed, String.toList_inj, String.ofList_toList]
  generalize trimmed id = text
  by_cases hany : text = "*"
  · have hname : ¬ IsServiceName text := fun h => h.1 hany
    simp [ServiceSelector.targets, hany ▸ hname, hany]
  by_cases hknown : text = "known_services"
  · have hname : ¬ IsServiceName text := fun h => h.2.1 hknown
    simp [ServiceSelector.targets, hknown ▸ hname, hknown, and_assoc]
  rw [if_neg hany, if_neg hknown]
  split
  · next hnumeral =>
    have hname : ¬ IsServiceName text := fun h => h.2.2 hnumeral
    simp [ServiceSelector.targets, hname, hknown]
  · next hnumeral =>
    have hname : IsServiceName text := ⟨hany, hknown, hnumeral⟩
    simp only [ServiceSelector.targets, hname, hknown, List.mem_map]
    constructor
    · rintro ⟨p, hp, heq⟩
      cases heq
      exact .inr ⟨rfl, trivial, hp⟩
    · rintro (⟨hfalse, -⟩ | ⟨rfl, -, hp⟩)
      · cases hfalse
      · exact ⟨port, hp, rfl⟩

/-- An identifier stands for something unless it names no port. -/
theorem isEmpty_ofIdentifier_iff :
    (ofIdentifier directory id).isEmpty = true ↔
      ∀ port, ¬ NamesPort directory port (trimmed id) := by
  simp only [← exists_covers_iff]
  rw [List.isEmpty_iff]
  constructor
  · rintro hnil port ⟨t, ht, -⟩
    rw [hnil] at ht
    cases ht
  · intro hnone
    rw [List.eq_nil_iff_forall_not_mem]
    intro t ht
    cases t with
    | every => exact hnone 0 ⟨_, ht, trivial⟩
    | one port name => exact hnone port ⟨_, ht, rfl⟩

/-- A directory counts only by the entries and ports that are in it. -/
theorem mem_ofIdentifier_congr {directory' : PortDirectory}
    (hlisted : ∀ k, k ∈ directory.listed ↔ k ∈ directory'.listed)
    (hports : ∀ name port, port ∈ directory.portsFor name ↔ port ∈ directory'.portsFor name)
    {t : ServiceTarget} : t ∈ ofIdentifier directory id ↔ t ∈ ofIdentifier directory' id := by
  unfold ofIdentifier
  cases ServiceSelector.ofIdentifier id with
  | any => exact Iff.rfl
  | known => simp [ServiceSelector.targets, hlisted]
  | number port => exact Iff.rfl
  | named name => simp [ServiceSelector.targets, hports]

/-! ## Loops over targets -/

theorem any_select_iff (s : PortSelection) (t : ServiceTarget) :
    (t.select s).any = true ↔ s.any = true ∨ t = .every := by
  cases t with
  | every => simp [select, PortSelection.insertAll]
  | one p name => simp [select, PortSelection.insert]

theorem mem_select_iff (port : Port) (s : PortSelection) (t : ServiceTarget) :
    port ∈ (t.select s).ports ↔ port ∈ s.ports ∨ ∃ name, t = .one port name := by
  cases t with
  | every => simp [select, PortSelection.insertAll]
  | one p name => simp [select, PortSelection.insert, or_comm]

/-- What targets select does not depend on their order and number. -/
theorem foldl_select_congr {ts ts' : List ServiceTarget} (h : ∀ t, t ∈ ts ↔ t ∈ ts')
    (s : PortSelection) : ts.foldl select s = ts'.foldl select s := by
  have hany := foldl_iff_exists (fun s : PortSelection => s.any = true) any_select_iff s
  have hports (port : Port) :=
    foldl_iff_exists (fun s : PortSelection => port ∈ s.ports) (mem_select_iff port) s
  refine PortSelection.ext (Bool.eq_iff_iff.2 ?_) (ExtTreeSet.ext_mem fun port => ?_)
  · rw [hany ts, hany ts']
    simp only [h]
  · rw [hports port ts, hports port ts']
    simp only [h]

end ServiceTarget

namespace PortNames

/-- The port has the name. -/
def Holds (names : PortNames) (port : Port) (name : String) : Prop :=
  ∃ held, names[port]? = some held ∧ name ∈ held

theorem eq_of_holds_iff {names names' : PortNames}
    (hsome : ∀ port : Port, names[port]?.isSome = true ↔ names'[port]?.isSome = true)
    (hholds : ∀ port name, names.Holds port name ↔ names'.Holds port name) : names = names' := by
  refine ExtTreeMap.ext_getElem? fun port => ?_
  have hsome := hsome port
  have hholds := hholds port
  unfold Holds at hholds
  cases hheld : names[port]? with
  | none =>
    rw [hheld] at hsome
    exact (Option.not_isSome_iff_eq_none.1 (mt hsome.2 Bool.false_ne_true)).symm
  | some held =>
    rw [hheld] at hsome
    obtain ⟨held', hheld'⟩ := Option.isSome_iff_exists.1 (hsome.1 rfl)
    simp only [hheld, hheld', Option.some.injEq, exists_eq_left'] at hholds ⊢
    exact ExtTreeSet.ext_mem hholds

end PortNames

namespace ServiceTarget

theorem holds_record_iff (port : Port) (name : String) (names : PortNames) (t : ServiceTarget) :
    (t.record names).Holds port name ↔ names.Holds port name ∨ t = .one port (some name) := by
  cases t with
  | every => simp [record]
  | one p o =>
    cases o with
    | none => simp [record]
    | some n =>
      by_cases hp : p = port
      · subst hp
        cases hheld : names[p]? with
        | none => simp [record, PortNames.Holds, hheld]
        | some held => simp [record, PortNames.Holds, hheld, or_comm]
      · simp [record, PortNames.Holds, ExtTreeMap.getElem?_insert, hp]

theorem isSome_record_iff (port : Port) (names : PortNames) (t : ServiceTarget) :
    (t.record names)[port]?.isSome = true ↔
      names[port]?.isSome = true ∨ ∃ name, t = .one port (some name) := by
  cases t with
  | every => simp [record]
  | one p o =>
    cases o with
    | none => simp [record]
    | some n =>
      by_cases hp : p = port
      · subst hp
        simp [record]
      · simp [record, ExtTreeMap.getElem?_insert, hp]

/-- The names that targets give to ports do not depend on their order and number. -/
theorem foldl_record_congr {ts ts' : List ServiceTarget} (h : ∀ t, t ∈ ts ↔ t ∈ ts')
    (names : PortNames) : ts.foldl record names = ts'.foldl record names := by
  have hsome (port : Port) := foldl_iff_exists
    (fun names : PortNames => names[port]?.isSome = true) (isSome_record_iff port) names
  have hholds (port : Port) (name : String) := foldl_iff_exists
    (fun names : PortNames => names.Holds port name) (holds_record_iff port name) names
  apply PortNames.eq_of_holds_iff
  · intro port
    rw [hsome port ts, hsome port ts']
    simp only [h]
  · intro port name
    rw [hholds port name ts, hholds port name ts']
    simp only [h]

/-- A port has the names under which targets stand for it. -/
theorem holds_recorded_iff {ts : List ServiceTarget} {port : Port} {name : String} :
    (ts.foldl record ∅).Holds port name ↔ .one port (some name) ∈ ts := by
  rw [foldl_iff_exists (fun names : PortNames => names.Holds port name)
    (holds_record_iff port name)]
  simp [PortNames.Holds]

/-- A port that no target stands for under a name has no set of names. -/
theorem recorded_eq_none_iff {ts : List ServiceTarget} {port : Port} :
    (ts.foldl record ∅)[port]? = none ↔
      ∀ name, ¬ (ts.foldl record ∅).Holds port name := by
  simp only [holds_recorded_iff]
  rw [← Option.not_isSome_iff_eq_none,
    foldl_iff_exists (fun names : PortNames => names[port]?.isSome = true) (isSome_record_iff port)]
  simp

end ServiceTarget

/-! ## Policies -/

namespace ServicePolicy

theorem selects_iff_of_isServiceName {entries : List KnownPort} {port : Port} {name : String}
    (hname : IsServiceName name) : Selects entries port name ↔
      port ∈ (PortCatalog.ofList entries).directory.portsFor name := by
  rw [← namesPort_iff_selects, namesPort_iff_of_ne hname.1 hname.2.1, if_neg hname.2.2]

/-- A policy holds the names under which its identifiers include a port. -/
theorem holds_ofIdentifiers_iff {entries : List KnownPort} {ids : Identifiers} {port : Port}
    {name : String} :
    (ofIdentifiers (PortCatalog.ofList entries).directory ids).names.Holds port name ↔
      Includes entries ids.includes port name := by
  unfold ofIdentifiers
  rw [ServiceTarget.holds_recorded_iff, List.mem_flatMap]
  simp only [ServiceTarget.one_mem_ofIdentifier_iff]
  constructor
  · rintro ⟨id, hid, ⟨hknown, k, hk⟩ | ⟨rfl, hname, hport⟩⟩
    · exact .inl ⟨⟨id, hid, hknown⟩, k, hk⟩
    · exact .inr ⟨id, hid, rfl, hname, (selects_iff_of_isServiceName hname).2 hport⟩
  · rintro (⟨⟨id, hid, hknown⟩, k, hk⟩ | ⟨id, hid, rfl, hname, hselects⟩)
    · exact ⟨id, hid, .inl ⟨hknown, k, hk⟩⟩
    · exact ⟨id, hid, .inr ⟨rfl, hname, (selects_iff_of_isServiceName hname).1 hselects⟩⟩

/-- Entries and identifiers count only as sets. -/
theorem ofIdentifiers_congr {entries entries' : List KnownPort} {ids ids' : Identifiers}
    (hentries : ∀ k, k ∈ entries ↔ k ∈ entries')
    (hincludes : ∀ id, id ∈ ids.includes ↔ id ∈ ids'.includes)
    (hexcludes : ∀ id, id ∈ ids.excludes ↔ id ∈ ids'.excludes) :
    ofIdentifiers (PortCatalog.ofList entries).directory ids =
      ofIdentifiers (PortCatalog.ofList entries').directory ids' := by
  have hports (name : String) (port : Port) :
      port ∈ (PortCatalog.ofList entries).directory.portsFor name ↔
        port ∈ (PortCatalog.ofList entries').directory.portsFor name := by
    simp only [PortCatalog.mem_portsFor_iff, hentries]
  have htargets {listed listed' : List String} (h : ∀ id, id ∈ listed ↔ id ∈ listed')
      (t : ServiceTarget) :
      t ∈ listed.flatMap (ServiceTarget.ofIdentifier (PortCatalog.ofList entries).directory) ↔
        t ∈ listed'.flatMap
          (ServiceTarget.ofIdentifier (PortCatalog.ofList entries').directory) := by
    simp only [List.mem_flatMap, h, ServiceTarget.mem_ofIdentifier_congr hentries hports]
  unfold ofIdentifiers
  simp only [ServiceTarget.foldl_select_congr (htargets hincludes),
    ServiceTarget.foldl_select_congr (htargets hexcludes),
    ServiceTarget.foldl_record_congr (htargets hincludes)]

/-- Building a policy warns of the identifiers that name no port, once for each. -/
theorem warnings_build {ε : Type} (directory : PortDirectory) (ids : Identifiers) :
    Gathers (fun id => ∃ port, NamesPort directory port (trimmed id))
      (fun id event => (∀ port, ¬ NamesPort directory port (trimmed id)) ∧
        event = .unresolvedService (trimmed id))
      (ids.includes ++ ids.excludes)
      ((build directory ids : Traced BuildEvent ε ServicePolicy).events.filter fun event =>
        event.line.level = .warn) := by
  have hevents : (build directory ids : Traced BuildEvent ε ServicePolicy).events.filter
      (fun event => event.line.level = .warn) =
        (unresolved directory ids).map fun id => .unresolvedService (trimmed id) := by
    have hbuild : (build directory ids : Traced BuildEvent ε ServicePolicy).events =
        (unresolved directory ids).map (fun id => .unresolvedService (trimmed id)) ++
          [.builtServices (ofIdentifiers directory ids).includes.ports.size
            (ofIdentifiers directory ids).includes.any
            (ofIdentifiers directory ids).excludes.ports.size] := rfl
    rw [hbuild, List.filter_append, List.filter_eq_self.2 (by simp [BuildEvent.line])]
    exact List.append_nil _
  rw [hevents]
  refine (Gathers.map_filter _ _ _).mono ?_ ?_
  · intro id hid
    rw [ServiceTarget.isEmpty_ofIdentifier_iff] at hid
    simpa only [not_forall, not_not] using hid
  · rintro id event ⟨hid, rfl⟩
    exact ⟨ServiceTarget.isEmpty_ofIdentifier_iff.1 hid, rfl⟩

/-- **Ports and names of a service policy.** A policy is built from identifiers over a catalog
whatever they are. It accepts the ports that some included identifier selects and no excluded one,
and has for each port the names under which the included ones include it. Identifiers that select no
port are warned of, each once. Neither order nor repetition of entries or identifiers matters. -/
theorem build_over_catalog {ε : Type} (entries : List KnownPort) (ids : Identifiers) :
    ∃ policy : ServicePolicy,
      (build (PortCatalog.ofList entries).directory ids :
        Traced BuildEvent ε ServicePolicy).outcome = .ok policy ∧
      (∀ port, policy.acceptsPort port = true ↔
        (∃ id ∈ ids.includes, Selects entries port (trimmed id)) ∧
          ∀ id ∈ ids.excludes, ¬ Selects entries port (trimmed id)) ∧
      (∀ port name, (∃ names, policy.portNames? port = some names ∧ name ∈ names) ↔
        Includes entries ids.includes port name) ∧
      (∀ port, policy.portNames? port = none ↔
        ∀ name, ¬ Includes entries ids.includes port name) ∧
      Gathers (fun id => ∃ port, Selects entries port (trimmed id))
        (fun id event => (∀ port, ¬ Selects entries port (trimmed id)) ∧
          event = .unresolvedService (trimmed id))
        (ids.includes ++ ids.excludes)
        ((build (PortCatalog.ofList entries).directory ids :
          Traced BuildEvent ε ServicePolicy).events.filter fun event =>
            event.line.level = .warn) ∧
      ∀ (entries' : List KnownPort) (ids' : Identifiers), (∀ k, k ∈ entries ↔ k ∈ entries') →
        (∀ id, id ∈ ids.includes ↔ id ∈ ids'.includes) →
        (∀ id, id ∈ ids.excludes ↔ id ∈ ids'.excludes) →
          (build (PortCatalog.ofList entries').directory ids' :
            Traced BuildEvent ε ServicePolicy).outcome = .ok policy := by
  refine ⟨ofIdentifiers (PortCatalog.ofList entries).directory ids, rfl, ?_, ?_, ?_, ?_, ?_⟩
  · intro port
    simp only [acceptsPort_iff, namesPort_iff_selects]
  · intro port name
    exact holds_ofIdentifiers_iff
  · intro port
    simp only [← holds_ofIdentifiers_iff]
    exact ServiceTarget.recorded_eq_none_iff
  · simp only [← namesPort_iff_selects]
    exact warnings_build _ ids
  · intro entries' ids' hentries hincludes hexcludes
    rw [ofIdentifiers_congr hentries hincludes hexcludes]
    rfl

end ServicePolicy

namespace Sample

/-- A catalog with two ports of one name, one of them not discoverable. -/
def ports : List KnownPort :=
  [⟨80, true, "http"⟩, ⟨8080, false, "http"⟩, ⟨22, true, "ssh"⟩]

/-- Every kind of identifier, and one that stands for no port. -/
def services : Identifiers :=
  ⟨["known_services", " http ", "0443", "gopher"], ["ssh", "70000"]⟩

theorem build_over_catalog_ports : ∃ policy : ServicePolicy,
    (ServicePolicy.build (PortCatalog.ofList ports).directory services :
      Traced BuildEvent PluginError ServicePolicy).outcome = .ok policy ∧
    (ServicePolicy.build (PortCatalog.ofList (ports ++ ports).reverse).directory
      ⟨services.includes.reverse, services.excludes ++ services.excludes⟩ :
        Traced BuildEvent PluginError ServicePolicy).outcome = .ok policy ∧
    ∃ names, policy.portNames? 8080 = some names ∧ "http" ∈ names := by
  obtain ⟨policy, hpolicy, -, hnames, -, -, hsets⟩ :=
    ServicePolicy.build_over_catalog (ε := PluginError) ports services
  refine ⟨policy, hpolicy, hsets _ _ ?_ ?_ ?_, (hnames 8080 "http").2 (.inr ?_)⟩
  · intro k
    rw [List.mem_reverse, List.mem_append, or_self]
  · intro id
    exact List.mem_reverse.symm
  · intro id
    rw [List.mem_append, or_self]
  · have hname : IsServiceName "http" := ⟨by decide, by decide, by decide⟩
    have hlisted : (⟨8080, false, "http"⟩ : KnownPort) ∈ ports := by decide
    exact ⟨" http ", by decide, by decide, hname, .named hlisted hname rfl⟩

end Sample

end DiscoveryFilter
