import DiscoveryFilter.Proofs.Policy.Services
import DiscoveryFilter.Proofs.Scope.Narrowing

/-!
# The meaning of a scope

With the standard acceptors and without acceptors of the caller's, what a scope and its reporters
accept is told by the elements of its document alone: by the last range element and the last
service element below each filtering element.
-/

namespace DiscoveryFilter

/-- The last of the elements that has a given tag. -/
def lastTagged (es : List Element) (tag : String) : Option Element :=
  (es.filter fun e => e.tag == tag).getLast?

/-- The last range element counts for nodes, the last service element for endpoints of servers. -/
def Admits (site : Site) (es : List Element) : Entity → Prop
  | .node n => ∀ e, lastTagged es "ranges" = some e → RangesAdmit site e n
  | .endpoint p => ∀ e, lastTagged es "services" = some e →
    p.node.role = some .server → ServicesAdmit site.ports e p.port

/-- Without a range element and a service element the managed nodes pass, and every endpoint. -/
def DefaultAdmits (site : Site) (es : List Element) (entity : Entity) : Prop :=
  if lastTagged es "ranges" = none ∧ lastTagged es "services" = none then
    ∀ n, entity = .node n → site.managed.contains n.address = true
  else Admits site es entity

/-! ## The standard acceptors -/

namespace AcceptorRegistry

variable {site : Site} {e : Element} {acceptor : Acceptor}

theorem get?_standard (name : String) :
    standard.get? name =
      if name = "services" then some Acceptor.serviceFactory
      else if name = "ranges" then some Acceptor.rangeFactory
      else none := by
  simp only [standard, Registry.ofList, List.foldl_cons, List.foldl_nil, Registry.get?_register,
    Registry.get?_empty, RangePolicy.pluginName, ServicePolicy.pluginName, eq_comm (b := name)]

theorem build_standard_ranges (h : e.tag = "ranges") :
    standard.build e site = Acceptor.rangeFactory e site := by
  rw [build, Registry.find, get?_standard, h]
  rfl

theorem build_standard_services (h : e.tag = "services") :
    standard.build e site = Acceptor.serviceFactory e site := by
  rw [build, Registry.find, get?_standard, h]
  rfl

theorem not_skips_standard (h : e.tag = "ranges" ∨ e.tag = "services") :
    ¬ standard.Skips site e := by
  rintro ⟨cause, hcause, hunknown⟩
  have hfalse : cause.isUnknownPlugin = false := by
    rcases h with h | h
    · rw [build_standard_ranges h] at hcause
      exact isUnknownPlugin_of_rangeFactory hcause
    · rw [build_standard_services h] at hcause
      exact isUnknownPlugin_of_serviceFactory hcause
  rw [hfalse] at hunknown
  cases hunknown

end AcceptorRegistry

theorem tag_of_lastTagged {es : List Element} {tag : String} {e : Element}
    (h : lastTagged es tag = some e) : e.tag = tag :=
  beq_iff_eq.1 (List.mem_filter.1 (List.mem_of_getLast? h)).2

/-- A panel holds what the standard factories make of the last elements of their tags. -/
structure Standard (site : Site) (es : List Element) (p : Panel) : Prop where
  ranges : ∀ e, lastTagged es "ranges" = some e → ∃ acceptor,
    p.get? "ranges" = some acceptor ∧ (Acceptor.rangeFactory e site).outcome = .ok acceptor
  services : ∀ e, lastTagged es "services" = some e → ∃ acceptor,
    p.get? "services" = some acceptor ∧ (Acceptor.serviceFactory e site).outcome = .ok acceptor
  maker : ∀ name acceptor, p.get? name = some acceptor →
    (∃ e, lastTagged es "ranges" = some e ∧
      (Acceptor.rangeFactory e site).outcome = .ok acceptor) ∨
    ∃ e, lastTagged es "services" = some e ∧
      (Acceptor.serviceFactory e site).outcome = .ok acceptor

namespace Standard

variable {site : Site} {es : List Element} {p : Panel}

theorem of_buildPanel {filtering : Element}
    (h : (AcceptorRegistry.standard.buildPanel filtering site).outcome = .ok p) :
    Standard site filtering.elements p := by
  obtain ⟨entries, hg, hp⟩ := AcceptorRegistry.buildPanel_eq_ok_iff.1 h
  have hlast : ∀ tag, tag = "ranges" ∨ tag = "services" →
      Option.Rel (fun e acceptor => (AcceptorRegistry.standard.build e site).outcome = .ok acceptor)
        (lastTagged filtering.elements tag) (p.get? tag) := by
    intro tag htag
    rw [hp]
    apply AcceptorRegistry.get?_of_gathers hg tag
    intro e he
    exact AcceptorRegistry.not_skips_standard (he ▸ htag)
  refine ⟨fun e he => ?_, fun e he => ?_, fun name acceptor hget => ?_⟩
  · obtain ⟨acceptor, hget, hbuilt⟩ := exists_of_rel_some_left (he ▸ hlast "ranges" (.inl rfl))
    rw [AcceptorRegistry.build_standard_ranges (tag_of_lastTagged he)] at hbuilt
    exact ⟨acceptor, hget, hbuilt⟩
  · obtain ⟨acceptor, hget, hbuilt⟩ := exists_of_rel_some_left (he ▸ hlast "services" (.inr rfl))
    rw [AcceptorRegistry.build_standard_services (tag_of_lastTagged he)] at hbuilt
    exact ⟨acceptor, hget, hbuilt⟩
  · have hknown := AcceptorRegistry.contains_of_get?_buildPanel h hget
    rw [AcceptorRegistry.get?_standard] at hknown
    split at hknown
    · next hname =>
      subst hname
      obtain ⟨e, he, hbuilt⟩ := exists_of_rel_some_right (hget ▸ hlast "services" (.inr rfl))
      rw [AcceptorRegistry.build_standard_services (tag_of_lastTagged he)] at hbuilt
      exact .inr ⟨e, he, hbuilt⟩
    · split at hknown
      · next hname =>
        subst hname
        obtain ⟨e, he, hbuilt⟩ := exists_of_rel_some_right (hget ▸ hlast "ranges" (.inl rfl))
        rw [AcceptorRegistry.build_standard_ranges (tag_of_lastTagged he)] at hbuilt
        exact .inl ⟨e, he, hbuilt⟩
      · cases hknown

theorem of_empty : Standard site [] Panel.empty where
  ranges _ he := by cases he
  services _ he := by cases he
  maker name acceptor hget := by
    rw [Panel.get?_empty] at hget
    cases hget

/-- The panel admits what the elements admit. -/
theorem accepts_iff (h : Standard site es p) {entity : Entity} :
    p.accepts entity = true ↔ Admits site es entity := by
  rw [Panel.accepts_iff]
  cases entity with
  | node n =>
    constructor
    · intro hall e he
      obtain ⟨acceptor, hget, hbuilt⟩ := h.ranges e he
      exact ((rejects_of_rangeFactory hbuilt).1 n).1 (hall "ranges" acceptor hget)
    · intro hadmits name acceptor hget
      rcases h.maker name acceptor hget with ⟨e, he, hbuilt⟩ | ⟨e, he, hbuilt⟩
      · exact ((rejects_of_rangeFactory hbuilt).1 n).2 (hadmits e he)
      · exact (rejects_of_serviceFactory hbuilt).1 n
  | endpoint p =>
    constructor
    · intro hall e he
      obtain ⟨acceptor, hget, hbuilt⟩ := h.services e he
      exact ((rejects_of_serviceFactory hbuilt).2 p).1 (hall "services" acceptor hget)
    · intro hadmits name acceptor hget
      rcases h.maker name acceptor hget with ⟨e, he, hbuilt⟩ | ⟨e, he, hbuilt⟩
      · exact (rejects_of_rangeFactory hbuilt).2 p
      · exact ((rejects_of_serviceFactory hbuilt).2 p).2 (hadmits e he)

theorem isEmpty_iff (h : Standard site es p) :
    p.isEmpty = true ↔ lastTagged es "ranges" = none ∧ lastTagged es "services" = none := by
  rw [Panel.isEmpty_iff]
  constructor
  · intro hempty
    constructor
    · apply Option.eq_none_iff_forall_ne_some.2
      intro e he
      obtain ⟨acceptor, hget, -⟩ := h.ranges e he
      exact Option.some_ne_none acceptor (hget.symm.trans (hempty "ranges"))
    · apply Option.eq_none_iff_forall_ne_some.2
      intro e he
      obtain ⟨acceptor, hget, -⟩ := h.services e he
      exact Option.some_ne_none acceptor (hget.symm.trans (hempty "services"))
  · rintro ⟨hranges, hservices⟩ name
    apply Option.eq_none_iff_forall_ne_some.2
    intro acceptor hget
    rcases h.maker name acceptor hget with ⟨e, he, -⟩ | ⟨e, he, -⟩
    · exact Option.some_ne_none e (he.symm.trans hranges)
    · exact Option.some_ne_none e (he.symm.trans hservices)

end Standard

/-! ## The scope and its reporters -/

namespace Setup

variable {α ρ ω : Type} {s : Setup α ρ ω} {e : Element} {scope : Scope α ρ ω}

/-- The elements that count among a reporter's own: those below its filtering element that are not
bare. -/
theorem acceptorElements_ownFiltering (d : Element) :
    acceptorElements (ownFiltering d) =
      (acceptorElements (d.element? filteringTag)).filter fun e => !e.isBare := by
  rw [ownFiltering_eq]
  cases d.element? filteringTag with
  | none => rfl
  | some filtering =>
    rw [Option.map_some, acceptorElements_some, acceptorElements_some, Element.elements_keeping]

theorem standard_of_panelOf (hstandard : s.catalog.acceptors = AcceptorRegistry.standard)
    {filtering : Option Element} {p : Panel} (h : s.panelOf filtering = .ok p) :
    Standard s.site (acceptorElements filtering) p := by
  unfold panelOf at h
  rw [hstandard] at h
  cases filtering with
  | none =>
    obtain rfl := Except.ok.inj h
    exact Standard.of_empty
  | some filtering =>
    rw [acceptorElements_some]
    exact Standard.of_buildPanel h

/-- The panel that stands in for no acceptor at all. -/
theorem accepts_managedOnly_iff {entity : Entity} :
    s.managedOnly.accepts entity = true ↔
      ∀ n, entity = .node n → s.site.managed.contains n.address = true := by
  have hget (name : String) (acceptor : Acceptor) : s.managedOnly.get? name = some acceptor ↔
      name = "ranges" ∧ acceptor = .range (RangePolicy.managedOnly s.site) := by
    simp [managedOnly, RangePolicy.pluginName, eq_comm (b := name), eq_comm (b := acceptor)]
  rw [Panel.accepts_iff]
  simp only [hget]
  cases entity with
  | node n =>
    simp [RangePolicy.acceptsNode, RangePolicy.managedOnly, RangePolicy.isRoleSensitive,
      Criterion.isRoleSensitive, Criterion.holds]
  | endpoint p => simp

theorem accepts_iff_of_layered (hstandard : s.catalog.acceptors = AcceptorRegistry.standard)
    (hoverrides : s.overrides = Overrides.empty) (h : Layered s e scope) (entity : Entity) :
    scope.accepts entity = true ↔
      DefaultAdmits s.site (acceptorElements (e.find? defaultFilteringPath)) entity := by
  obtain ⟨p, hp, hacceptors⟩ := h.acceptors
  rw [defaultFiltering?_eq] at hp
  have hp := standard_of_panelOf hstandard hp
  have hpanel : scope.acceptors = if p.isEmpty then s.managedOnly else p := by
    rw [hacceptors, hoverrides]
    exact overlay_empty _
  rw [Scope.accepts, hpanel, DefaultAdmits]
  by_cases hempty : p.isEmpty = true
  · rw [if_pos hempty, if_pos (hp.isEmpty_iff.1 hempty)]
    exact accepts_managedOnly_iff
  · rw [if_neg hempty, if_neg (mt hp.isEmpty_iff.2 hempty)]
    exact hp.accepts_iff

/-- With the standard acceptors alone, no name that narrowing makes is taken. -/
theorem not_displaced_of_standard (hstandard : s.catalog.acceptors = AcceptorRegistry.standard)
    (hoverrides : s.overrides = Overrides.empty) (h : Layered s e scope) (own : Panel)
    (reporter : String) (acceptor : Acceptor) :
    ¬ Panel.Displaced scope.acceptors own reporter acceptor := by
  intro hd
  obtain ⟨tag, -, hregistered | hoverride⟩ := name_of_displaced h hd
  · rw [hstandard, AcceptorRegistry.get?_standard, if_neg (reporterAcceptorName_ne (by decide) _ _),
      if_neg (reporterAcceptorName_ne (by decide) _ _)] at hregistered
    cases hregistered
  · rw [hoverrides] at hoverride
    have hnone : Overrides.empty.acceptors[reporterAcceptorName reporter tag]? = none :=
      Std.ExtTreeMap.getElem?_empty
    rw [hnone] at hoverride
    cases hoverride

/-- **The meaning of a loaded scope.** With the standard acceptors and without the caller's, the
scope accepts what the elements of its default policy admit. A reporter accepts of this what its own
elements admit, those of the last reporter element of its name. -/
theorem verdict_of_load (hstandard : s.catalog.acceptors = AcceptorRegistry.standard)
    (hoverrides : s.overrides = Overrides.empty) (h : (s.load e).outcome = .ok scope) :
    (∀ entity, scope.accepts entity = true ↔ DefaultAdmits s.site
        (acceptorElements (e.find? "reporting/configuration/filtering")) entity) ∧
      ∀ reporter ∈ scope.reporters.names, ∃ d,
        ((heldItems e "reporting" "reporter").filter fun d => d.name? == some reporter).getLast? =
          some d ∧
        ∀ entity, ∃ verdict, scope.acceptsFor? reporter entity = some verdict ∧
          (verdict = true ↔ scope.accepts entity = true ∧ Admits s.site
            ((acceptorElements (d.element? "filtering")).filter fun e => !e.isBare) entity) := by
  have hlayers := Layered.of_load h
  refine ⟨accepts_iff_of_layered hstandard hoverrides hlayers, ?_⟩
  intro reporter hreporter
  have hsome : scope.reporters.get? reporter ≠ none :=
    mt Roster.get?_eq_none_iff.1 (not_not_intro hreporter)
  obtain ⟨slot, hslot⟩ := Option.ne_none_iff_exists'.1 hsome
  obtain ⟨d, own, hlast, -, hown, hacceptors⟩ := hlayers.slot reporter slot hslot
  have hpanel : slot.acceptors = scope.acceptors.narrowed own reporter := by
    rw [hacceptors, Overrides.panelFor, hoverrides]
    exact overlay_empty _
  refine ⟨d, hlast, fun entity => ⟨slot.acceptors.accepts entity, ?_, ?_⟩⟩
  · rw [Scope.acceptsFor?, Scope.reporterPanel?, hslot]
    rfl
  · have hown := standard_of_panelOf hstandard hown
    rw [acceptorElements_ownFiltering] at hown
    rw [hpanel, Panel.narrowed_accepts_iff
      (not_displaced_of_standard hstandard hoverrides hlayers own reporter), hown.accepts_iff]
    rfl

end Setup

namespace Sample

/-- The setup without acceptors of the caller's. -/
def plain : Setup Unit Unit Unit :=
  { setup with overrides := Overrides.empty }

/-- A node that no range of `lab` holds. -/
def outsider : Entity :=
  .node ⟨.v4 ⟨192, 168, 1, 1⟩, none⟩

/-- A port of a server in the ranges of `lab`. -/
def serverPort (port : Port) : Entity :=
  .endpoint ⟨⟨.v4 ⟨10, 1, 2, 3⟩, some .server⟩, port⟩

/-- What the scope accepts, and what its reporter `cmdb` accepts of it. -/
structure LabVerdicts (scope : Scope Unit Unit Unit) : Prop where
  insider : scope.accepts insider = true
  outsider : scope.accepts outsider = false
  endpoints : scope.accepts (serverPort 80) = true ∧ scope.accepts (serverPort 443) = true
  cmdb_endpoints : scope.acceptsFor? "cmdb" (serverPort 80) = some true ∧
    scope.acceptsFor? "cmdb" (serverPort 443) = some false
  cmdb_outsider : scope.acceptsFor? "cmdb" Sample.outsider = some false

theorem verdict_of_load_lab : plain.catalog.acceptors = AcceptorRegistry.standard ∧
    plain.overrides = Overrides.empty ∧ ∃ scope, (plain.load lab).outcome = .ok scope ∧
    (∀ entity, scope.accepts entity = true ↔ DefaultAdmits plain.site
      (Setup.acceptorElements (lab.find? "reporting/configuration/filtering")) entity) ∧
    LabVerdicts scope ∧
    "cmdb" ∈ scope.reporters.names ∧ ∃ d,
      ((Setup.heldItems lab "reporting" "reporter").filter
        fun d => d.name? == some "cmdb").getLast? = some d ∧
      ∀ entity, ∃ verdict, scope.acceptsFor? "cmdb" entity = some verdict ∧
        (verdict = true ↔ scope.accepts entity = true ∧ Admits plain.site
          ((Setup.acceptorElements (d.element? "filtering")).filter fun e => !e.isBare)
            entity) := by
  refine ⟨rfl, rfl, ?_⟩
  have hfacts : ((plain.load lab).outcome.toOption.map fun scope =>
      (scope.reporters.names,
        [insider, outsider, serverPort 80, serverPort 443].map scope.accepts,
        [serverPort 80, serverPort 443, outsider].map (scope.acceptsFor? "cmdb"))) =
      some (["audit", "cmdb"], [true, false, true, true], [some true, some false, some false]) := by
    decide +kernel
  cases hload : (plain.load lab).outcome with
  | error cause =>
    rw [hload] at hfacts
    cases hfacts
  | ok scope =>
    rw [hload] at hfacts
    simp only [Except.toOption, Option.map_some, Option.some.injEq, Prod.mk.injEq, List.map_cons,
      List.map_nil, List.cons.injEq, and_true] at hfacts
    obtain ⟨hnames, ⟨hin, hout, h80, h443⟩, c80, c443, cout⟩ := hfacts
    have hcmdb : "cmdb" ∈ scope.reporters.names := by
      rw [hnames]
      exact List.mem_cons_of_mem _ List.mem_cons_self
    obtain ⟨hscope, hreporters⟩ := Setup.verdict_of_load rfl rfl hload
    exact ⟨scope, rfl, hscope, ⟨hin, hout, ⟨h80, h443⟩, ⟨c80, c443⟩, cout⟩, hcmdb,
      hreporters "cmdb" hcmdb⟩

end Sample

end DiscoveryFilter
