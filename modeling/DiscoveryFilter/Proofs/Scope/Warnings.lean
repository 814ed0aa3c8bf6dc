import DiscoveryFilter.Proofs.Log.Events
import DiscoveryFilter.Proofs.Scope.Unknown
import DiscoveryFilter.Proofs.Scope.Unregistered

/-!
# Warnings about what is passed over

A load relies on the plugins that its elements name and on the reporters for which the caller gives
acceptors. `Setup.needs` lists them, and `Setup.warnings_of_load` says that the load warns of those
that are lacking, of each exactly once. A bare element below a reporter is no need: it adds nothing
and its plugin is not looked up.
-/

namespace DiscoveryFilter

/-- What a load relies on: a plugin of a kind under a name, or a reporter for which the caller
gives acceptors. -/
inductive Need where
  | plugin (kind : PluginKind) (name : String)
  | reporter (name : String)
deriving DecidableEq

/-- The name of what is needed. -/
def Need.name : Need → String
  | .plugin _ name => name
  | .reporter name => name

/-- The need that an event reports to be passed over. -/
def Event.unmet? : Event → Option Need
  | .skippedApproach _ name => some (.plugin .approach name)
  | .skippedReporter _ name => some (.plugin .reporter name)
  | .skippedAcceptor tag => some (.plugin .acceptor tag)
  | .skippedDescriptor _ tag => some (.plugin .acceptor tag)
  | .missingReporter _ name => some (.reporter name)
  | _ => none

/-- The line is a warning, and a field of it shows the text. -/
def Log.Line.WarnsOf (l : Log.Line) (text : String) : Prop :=
  l.level = .warn ∧ ∃ field ∈ l.fields, field.2 = .plain text ∨ field.2 = .quoted text

namespace Catalog

variable {α ρ : Type}

/-- Nobody registered the plugin, or the reporter is not among those that are there. -/
def lacks (c : Catalog α ρ) (reporters : List String) : Need → Bool
  | .plugin .acceptor name => (c.acceptors.get? name).isNone
  | .plugin .approach name => (c.approaches.get? name).isNone
  | .plugin .reporter name => (c.reporters.get? name).isNone
  | .reporter name => !reporters.contains name

/-- The need that an event reports to be passed over, if it is lacking. -/
def reported (c : Catalog α ρ) (reporters : List String) (event : Event) : Option Need :=
  event.unmet?.filter (c.lacks reporters)

end Catalog

namespace Setup

variable {α ρ ω : Type}

/-- The plugin that an acceptor element names. -/
def acceptorNeed (d : Element) : Need :=
  .plugin .acceptor d.tag

/-- The plugin that an approach element names. -/
def approachNeeds (d : Element) : List Need :=
  (d.name?.map (Need.plugin .approach)).toList

/-- The plugins that the acceptor elements below a filtering element name. -/
def acceptorNeeds (filtering : Option Element) : List Need :=
  (acceptorElements filtering).map acceptorNeed

/-- The plugin that a reporter element names and, if it is registered, those of its own acceptors. -/
def reporterNeeds (s : Setup α ρ ω) (d : Element) : List Need :=
  match d.name? with
  | none => []
  | some name =>
    .plugin .reporter name ::
      if (s.catalog.reporters.get? name).isSome then acceptorNeeds (ownFiltering d) else []

/-- What the load of a scope element relies on, in the order in which it comes to it. -/
def needs (s : Setup α ρ ω) (e : Element) : List Need :=
  (heldItems e approachesTag approachTag).flatMap approachNeeds ++
    acceptorNeeds (e.find? defaultFilteringPath) ++
    (heldItems e reportingTag reporterTag).flatMap s.reporterNeeds ++
    s.overrides.reporters.keys.map .reporter

end Setup

/-! ## Lines -/

theorem warnsOf_of_unmet? {event : Event} {need : Need} (h : event.unmet? = some need) :
    event.line.WarnsOf need.name := by
  cases event with
  | skippedApproach cause name =>
    obtain rfl := Option.some.inj h
    exact ⟨rfl, _, List.mem_cons_self, .inr rfl⟩
  | skippedReporter cause name =>
    obtain rfl := Option.some.inj h
    exact ⟨rfl, _, List.mem_cons_self, .inr rfl⟩
  | skippedAcceptor tag =>
    obtain rfl := Option.some.inj h
    exact ⟨rfl, _, List.mem_cons_self, .inl rfl⟩
  | skippedDescriptor cause tag =>
    obtain rfl := Option.some.inj h
    exact ⟨rfl, _, List.mem_cons_self, .inl rfl⟩
  | missingReporter scope name =>
    obtain rfl := Option.some.inj h
    exact ⟨rfl, _, List.mem_cons_of_mem _ List.mem_cons_self, .inl rfl⟩
  | _ => cases h

namespace Catalog

variable {α ρ : Type}

theorem filterMap_reported (c : Catalog α ρ) (reporters : List String) (events : List Event) :
    events.filterMap (c.reported reporters) =
      (events.filterMap Event.unmet?).filter (c.lacks reporters) :=
  List.filter_filterMap.symm

/-- Building a policy reports no need. -/
theorem filterMap_reported_building (c : Catalog α ρ) (reporters : List String)
    (events : List BuildEvent) :
    (events.map Event.building).filterMap (c.reported reporters) = [] := by
  rw [List.filterMap_map]
  exact List.filterMap_eq_nil_iff.2 fun _ _ => rfl

section Acceptors

variable {c : Catalog α ρ} {reporters : List String} {site : Site} {rename : String → String}
  {skipped : PluginError → String → Event}

/-- What a step of extending a panel reports when it does not stop. -/
theorem events_extendBy {p q : Panel} {d : Element}
    (h : (c.acceptors.extendBy site rename skipped p d).outcome = .ok q) :
    (c.acceptors.extendBy site rename skipped p d).events =
      (c.acceptors.build d site).events.map Event.building ++
        match (c.acceptors.build d site).outcome with
        | .ok _ => []
        | .error cause => [skipped cause d.tag] := by
  cases hb : (c.acceptors.build d site).outcome with
  | ok acceptor =>
    rw [AcceptorRegistry.extendBy, Traced.events_bind_of_ok (Traced.outcome_attempt _),
      Traced.outcome_mapEvents, hb]
    rfl
  | error cause =>
    cases hc : cause.isUnknownPlugin with
    | true =>
      rw [AcceptorRegistry.extendBy, Traced.events_bind_of_ok (Traced.outcome_attempt _),
        Traced.outcome_mapEvents, hb]
      simp only [hc]
      rfl
    | false =>
      rw [AcceptorRegistry.extendBy_eq_error_iff.2 ⟨hb, hc⟩] at h
      cases h

/-- An acceptor element whose plugin is not registered is reported, once, and no other is. -/
theorem reported_extendBy (hskipped : ∀ cause tag, (skipped cause tag).unmet? =
    some (.plugin .acceptor tag)) {p q : Panel} {d : Element}
    (h : (c.acceptors.extendBy site rename skipped p d).outcome = .ok q) :
    (c.acceptors.extendBy site rename skipped p d).events.filterMap (c.reported reporters) =
      [Setup.acceptorNeed d].filter (c.lacks reporters) := by
  rw [events_extendBy h, List.filterMap_append, filterMap_reported_building, List.nil_append]
  cases hb : (c.acceptors.build d site).outcome with
  | error cause =>
    rw [filterMap_reported, List.filterMap_cons_some (hskipped cause d.tag)]
    rfl
  | ok acceptor =>
    obtain ⟨factory, hfactory, -⟩ := Traced.outcome_bind_eq_ok_iff.1 hb
    have hget := Registry.find_eq_ok_iff.1 hfactory
    have hmet : ¬ c.lacks reporters (Setup.acceptorNeed d) = true := by
      simp [Setup.acceptorNeed, lacks, hget]
    rw [List.filter_cons_of_neg hmet]
    rfl

/-- Elements of acceptors, one after the other. -/
theorem reported_extend (hskipped : ∀ cause tag, (skipped cause tag).unmet? =
    some (.plugin .acceptor tag)) {p q : Panel} {es : List Element}
    (h : (c.acceptors.extend site rename skipped p es).outcome = .ok q) :
    (c.acceptors.extend site rename skipped p es).events.filterMap (c.reported reporters) =
      (es.map Setup.acceptorNeed).filter (c.lacks reporters) := by
  have hstep (p : Panel) (d : Element) (q : Panel)
      (h : (c.acceptors.extendBy site rename skipped p d).outcome = .ok q) :
      (c.acceptors.extendBy site rename skipped p d).events.filterMap (c.reported reporters) =
        [Setup.acceptorNeed d].filter (c.lacks reporters) :=
    reported_extendBy hskipped h
  rw [AcceptorRegistry.extend] at h ⊢
  rw [Traced.filterMap_events_foldlM hstep h, List.map_eq_flatMap, List.filter_flatMap]

end Acceptors

end Catalog

namespace Setup

variable {α ρ ω : Type} {s : Setup α ρ ω} {reporters : List String}

theorem reported_approach? {d : Element} {o : Option (String × α)}
    (h : (s.approach? d).outcome = .ok o) :
    (s.approach? d).events.filterMap (s.catalog.reported reporters) =
      (approachNeeds d).filter (s.catalog.lacks reporters) := by
  unfold approach? at h ⊢
  obtain ⟨name, hname, h⟩ := Traced.outcome_bind_eq_ok_iff.1 h
  rw [Traced.events_bind_of_ok hname, Traced.events_ofExcept, List.nil_append, approachNeeds,
    requiredName_eq_ok_iff.1 hname]
  cases hfind : s.catalog.approaches.find name with
  | ok factory =>
    rw [hfind] at h
    obtain ⟨approach, happroach, -⟩ := Traced.outcome_bind_eq_ok_iff.1 h
    have hget := Registry.find_eq_ok_iff.1 hfind
    have hmet : ¬ s.catalog.lacks reporters (.plugin .approach name) = true := by
      simp [Catalog.lacks, hget]
    dsimp only
    rw [Traced.events_bind_of_ok happroach, Traced.events_pure, List.append_nil,
      Traced.events_mapEvents, Catalog.filterMap_reported_building, Option.map_some,
      Option.toList_some, List.filter_cons_of_neg hmet, List.filter_nil]
  | error cause =>
    rw [Catalog.filterMap_reported]
    rfl

theorem reported_approaches {e : Element} {entries : List (String × α)}
    (h : (s.approaches e).outcome = .ok entries) :
    (s.approaches e).events.filterMap (s.catalog.reported reporters) =
      ((heldItems e approachesTag approachTag).flatMap approachNeeds).filter
        (s.catalog.lacks reporters) := by
  unfold approaches at h ⊢
  obtain ⟨built, hbuilt, -⟩ := Traced.outcome_bind_eq_ok_iff.1 h
  rw [Traced.events_bind_of_ok hbuilt, Traced.events_pure, List.append_nil,
    Traced.filterMap_events_mapM (fun _ _ => reported_approach?) hbuilt, List.filter_flatMap,
    heldItems_eq]

theorem reported_buildPanel {filtering : Element} {p : Panel}
    (h : (s.catalog.acceptors.buildPanel filtering s.site).outcome = .ok p) :
    (s.catalog.acceptors.buildPanel filtering s.site).events.filterMap
        (s.catalog.reported reporters) =
      (acceptorNeeds (some filtering)).filter (s.catalog.lacks reporters) := by
  unfold AcceptorRegistry.buildPanel at h ⊢
  obtain ⟨q, hq, -⟩ := Traced.outcome_bind_eq_ok_iff.1 h
  rw [Traced.events_bind_of_ok hq, List.filterMap_append,
    Catalog.reported_extend (fun _ _ => rfl) hq, acceptorNeeds, acceptorElements_some]
  exact List.append_nil _

theorem reported_defaultPanel {e : Element} {p : Panel}
    (h : (s.defaultPanel e).outcome = .ok p) :
    (s.defaultPanel e).events.filterMap (s.catalog.reported reporters) =
      (acceptorNeeds (e.find? defaultFilteringPath)).filter (s.catalog.lacks reporters) := by
  unfold defaultPanel at h ⊢
  have hfallback (p : Panel) :
      (if p.isEmpty = true then do
          Traced.tell [.managedOnly s.site.managed]
          pure s.managedOnly
        else pure p : Traced Event PluginError Panel).events.filterMap
          (s.catalog.reported reporters) = [] := by
    cases p.isEmpty <;> rfl
  cases hf : e.find? defaultFilteringPath with
  | none => exact hfallback Panel.empty
  | some filtering =>
    rw [hf] at h
    obtain ⟨q, hq, -⟩ := Traced.outcome_bind_eq_ok_iff.1 h
    rw [Traced.events_bind_of_ok hq, List.filterMap_append, reported_buildPanel hq, hfallback,
      List.append_nil]

theorem reported_narrow {reporter : String} {d : Element} {p q : Panel}
    (h : (s.narrow reporter (d.element? filteringTag) p).outcome = .ok q) :
    (s.narrow reporter (d.element? filteringTag) p).events.filterMap
        (s.catalog.reported reporters) =
      (acceptorNeeds (ownFiltering d)).filter (s.catalog.lacks reporters) := by
  rw [ownFiltering_eq]
  unfold narrow at *
  cases hf : d.element? filteringTag with
  | none => rfl
  | some filtering =>
    rw [hf] at h
    rw [Option.map_some, acceptorNeeds, acceptorElements_some, Element.elements_keeping]
    exact Catalog.reported_extend (fun _ _ => rfl) h

/-- A reporter element whose plugin is not registered is reported and nothing below it, and one
whose plugin is registered only for its own acceptors. -/
theorem reported_reporter? {scope : String} {p : Panel} {d : Element} {o : Option (String × Slot ρ)}
    (h : (s.reporter? scope p d).outcome = .ok o) :
    (s.reporter? scope p d).events.filterMap (s.catalog.reported reporters) =
      (s.reporterNeeds d).filter (s.catalog.lacks reporters) := by
  unfold reporter? at h ⊢
  obtain ⟨name, hname, h⟩ := Traced.outcome_bind_eq_ok_iff.1 h
  have hnamed := requiredName_eq_ok_iff.1 (mapError_eq_ok_iff.1 hname)
  rw [Traced.events_bind_of_ok hname, Traced.events_mapError, Traced.events_ofExcept,
    List.nil_append, reporterNeeds, hnamed]
  cases hfind : s.catalog.reporters.find name with
  | ok factory =>
    rw [hfind] at h
    obtain ⟨reporter, hreporter, h⟩ := Traced.outcome_bind_eq_ok_iff.1 h
    obtain ⟨acceptors, hacceptors, -⟩ := Traced.outcome_bind_eq_ok_iff.1 h
    have hget := Registry.find_eq_ok_iff.1 hfind
    have hmet : ¬ s.catalog.lacks reporters (.plugin .reporter name) = true := by
      simp [Catalog.lacks, hget]
    dsimp only
    rw [Traced.events_bind_of_ok hreporter, Traced.events_bind_of_ok hacceptors,
      List.filterMap_append, List.filterMap_append, Traced.events_mapError,
      Traced.events_mapEvents, Catalog.filterMap_reported_building, List.nil_append,
      Traced.events_mapError, reported_narrow (mapError_eq_ok_iff.1 hacceptors),
      List.filter_cons_of_neg hmet, hget, Option.isSome_some, if_pos rfl]
    exact List.append_nil _
  | error cause =>
    have hget := (Registry.find_eq_error_iff.1 hfind).1
    dsimp only
    rw [Catalog.filterMap_reported, hget]
    rfl

theorem reported_reporters {name : String} {e : Element} {p : Panel} {built : Roster (Slot ρ)}
    (h : (s.reporters name e p).outcome = .ok built) :
    (s.reporters name e p).events.filterMap (s.catalog.reported reporters) =
      ((heldItems e reportingTag reporterTag).flatMap s.reporterNeeds).filter
        (s.catalog.lacks reporters) := by
  unfold Setup.reporters at h ⊢
  obtain ⟨slots, hslots, -⟩ := Traced.outcome_bind_eq_ok_iff.1 h
  rw [Traced.events_bind_of_ok hslots, Traced.events_pure, List.append_nil,
    Traced.filterMap_events_mapM (fun _ _ => reported_reporter?) hslots, List.filter_flatMap,
    heldItems_eq]

/-- The acceptors of the caller's that are put into a scope are no need. -/
theorem reported_overrodeAcceptor (scope : String) (acceptors : List String) :
    (acceptors.map (Event.overrodeAcceptor scope)).filterMap (s.catalog.reported reporters) =
      [] := by
  rw [List.filterMap_map]
  exact List.filterMap_eq_nil_iff.2 fun _ _ => rfl

/-- The reporters that are missing are reported, each once. -/
theorem reported_missingReporter (scope : String) (built : Roster (Slot ρ)) :
    ((s.missingReporters built).map (Event.missingReporter scope)).filterMap
        (s.catalog.reported built.names) =
      (s.overrides.reporters.keys.map Need.reporter).filter (s.catalog.lacks built.names) := by
  have htold : Event.unmet? ∘ Event.missingReporter scope = some ∘ Need.reporter := rfl
  have hlacks : s.catalog.lacks built.names ∘ Need.reporter =
      fun name => !built.names.contains name := rfl
  rw [Catalog.filterMap_reported, List.filterMap_map, htold, List.filterMap_eq_map,
    missingReporters, List.filter_map, List.filter_map, hlacks, List.filter_filter]
  simp only [Bool.and_self]

/-- What a load that succeeds reports, step by step. -/
theorem exists_events_load {e : Element} {scope : Scope α ρ ω}
    (h : (s.load e).outcome = .ok scope) :
    ∃ name entries p q built, (s.approaches e).outcome = .ok entries ∧
      (s.defaultPanel e).outcome = .ok p ∧ (s.reporters name e q).outcome = .ok built ∧
      scope.reporters = s.overrideReporters built ∧
      (s.load e).events = (s.approaches e).events ++ (s.defaultPanel e).events ++
        s.overrides.acceptors.keys.map (.overrodeAcceptor name) ++ (s.reporters name e q).events ++
        (s.missingReporters built).map (.missingReporter name) ++
        [.loadedScope name scope.approaches.length scope.acceptors.size scope.reporters.size] := by
  unfold load at h ⊢
  obtain ⟨name, hname, h⟩ := Traced.outcome_bind_eq_ok_iff.1 h
  obtain ⟨entries, hentries, h⟩ := Traced.outcome_bind_eq_ok_iff.1 h
  obtain ⟨p, hp, h⟩ := Traced.outcome_bind_eq_ok_iff.1 h
  obtain ⟨_, -, h⟩ := Traced.outcome_bind_eq_ok_iff.1 h
  obtain ⟨built, hbuilt, h⟩ := Traced.outcome_bind_eq_ok_iff.1 h
  obtain ⟨_, -, h⟩ := Traced.outcome_bind_eq_ok_iff.1 h
  obtain ⟨_, -, h⟩ := Traced.outcome_bind_eq_ok_iff.1 h
  obtain rfl := Except.ok.inj h
  refine ⟨name, entries, p, _, built, mapError_eq_ok_iff.1 hentries, mapError_eq_ok_iff.1 hp,
    hbuilt, rfl, ?_⟩
  rw [Traced.events_bind_of_ok hname, Traced.events_bind_of_ok hentries,
    Traced.events_bind_of_ok hp, Traced.events_bind_of_ok (Traced.outcome_tell _),
    Traced.events_bind_of_ok hbuilt, Traced.events_bind_of_ok (Traced.outcome_tell _),
    Traced.events_bind_of_ok (Traced.outcome_tell _)]
  simp only [Traced.events_mapError, Traced.events_ofExcept, Traced.events_tell,
    Traced.events_pure, List.nil_append, List.append_nil, List.append_assoc]

theorem reported_load {e : Element} {scope : Scope α ρ ω} (h : (s.load e).outcome = .ok scope) :
    (s.load e).events.filterMap (s.catalog.reported scope.reporters.names) =
      (s.needs e).filter (s.catalog.lacks scope.reporters.names) := by
  obtain ⟨name, entries, p, q, built, hentries, hp, hbuilt, hreporters, hevents⟩ :=
    exists_events_load h
  rw [hevents, hreporters, names_overrideReporters]
  simp only [List.filterMap_append, needs, List.filter_append, reported_approaches hentries,
    reported_defaultPanel hp, reported_overrodeAcceptor, reported_reporters hbuilt,
    reported_missingReporter, List.append_nil]
  exact List.append_nil _

/-- **Nothing is passed over in silence.** The warnings of a load that succeeds tell what is lacking
of what the load relies on, one warning for each and in order. -/
theorem warnings_of_load {e : Element} {scope : Scope α ρ ω} (h : (s.load e).outcome = .ok scope) :
    ((s.load e).events.filterMap Event.unmet?).filter (s.catalog.lacks scope.reporters.names) =
        (s.needs e).filter (s.catalog.lacks scope.reporters.names) ∧
      s.overrides.reporters.keys.Nodup ∧
      ∀ (event : Event) (need : Need), event.unmet? = some need →
        event.line.WarnsOf need.name := by
  refine ⟨?_, Std.ExtTreeMap.nodup_keys, fun event need => warnsOf_of_unmet?⟩
  rw [← Catalog.filterMap_reported, reported_load h]

end Setup

namespace Sample

/-- The setup `labeled` with an acceptor of the caller's for a reporter that no scope has. -/
def orphaned : Setup (Option String) (Option String) Unit :=
  { labeled with overrides := Overrides.empty.withReporterAcceptor "ghost" "ranges" refusal }

theorem warnings_of_load_littered : ∃ scope, (orphaned.load littered).outcome = .ok scope ∧
    ((orphaned.load littered).events.filterMap Event.unmet?).filter
        (orphaned.catalog.lacks scope.reporters.names) =
      [.plugin .approach "ghost", .plugin .acceptor "vendor", .plugin .reporter "nobody",
        .reporter "ghost"] := by
  have hnames : ((orphaned.load littered).outcome.toOption.map fun scope =>
      scope.reporters.names) = some ["audit"] := by
    decide +kernel
  cases hload : (orphaned.load littered).outcome with
  | error cause =>
    rw [hload] at hnames
    cases hnames
  | ok scope =>
    rw [hload] at hnames
    have hnames : scope.reporters.names = ["audit"] := Option.some.inj hnames
    refine ⟨scope, rfl, (Setup.warnings_of_load hload).1.trans ?_⟩
    rw [hnames]
    decide +kernel

/-- A reporter whose only acceptor element is bare and of a plugin that nobody registered. -/
def bareVendor : Element :=
  scopeOf [] [] [reporter "audit" [Element.ofTag "vendor"]]

/-- The bare element of a reporter is passed over before its plugin is looked up, so that no warning
tells that there is no such plugin. -/
theorem bare_acceptor_unwarned : (labeled.load bareVendor).outcome.isOk = true ∧
    (Setup.heldItems bareVendor "reporting" "reporter").map
      (fun d => (d.name?, (d.element? "filtering").map fun f => f.elements.map Element.tag)) =
        [(some "audit", some ["vendor"])] ∧
    (labeled.catalog.reporters.get? "audit").isSome = true ∧
    (labeled.catalog.acceptors.get? "vendor").isNone = true ∧
    ∀ event ∈ (labeled.load bareVendor).events, event.line.level ≠ .warn := by
  refine ⟨by decide +kernel, rfl, rfl, rfl, by decide +kernel⟩

end Sample

end DiscoveryFilter
