import DiscoveryFilter.Proofs.Scope.Document
import DiscoveryFilter.Proofs.Scope.Layers

/-!
# Plugins that are not there

An element whose plugin nobody registered is passed over, and so is an acceptor element whose
factory comes to an unknown plugin. The factories of approaches and reporters have no such
allowance: an unknown plugin that one of them comes to fails the load like any other error.
`Setup.unknownPlugins_passedOver` tells which loads fail for want of a plugin and what is loaded
when elements are passed over.
-/

namespace DiscoveryFilter

/-- The load failed for want of a plugin. -/
def LoadError.isUnknownPlugin (error : LoadError) : Bool :=
  error.cause?.any PluginError.isUnknownPlugin

/-- The factory of the element's name comes to an unknown plugin. -/
def Registry.Wants {kind : PluginKind} {α : Type} (r : Registry kind (Factory α)) (site : Site)
    (e : Element) (name : String) (cause : PluginError) : Prop :=
  e.name? = some name ∧ cause.isUnknownPlugin = true ∧
    ∃ factory, r.get? name = some factory ∧ (factory e site).outcome = .error cause

namespace Setup

variable {α ρ ω : Type} {s : Setup α ρ ω} {e : Element}

/-- The acceptors of the elements below a filtering element that are not passed over. -/
def GathersAcceptors (s : Setup α ρ ω) (filtering : Option Element)
    (entries : List (String × Acceptor)) : Prop :=
  Gathers (s.catalog.acceptors.Skips s.site) (s.catalog.acceptors.Yields s.site)
    (acceptorElements filtering) entries

/-- The element of an acceptor is passed over or builds one. -/
def AcceptorFits (s : Setup α ρ ω) (e : Element) : Prop :=
  s.catalog.acceptors.Skips s.site e ∨ ∃ entry, s.catalog.acceptors.Yields s.site e entry

/-- The loads that fail for want of a plugin. -/
inductive FailsUnknown (s : Setup α ρ ω) (e : Element) (scope : String) : LoadError → Prop
  | approach {d : Element} {name : String} {cause : PluginError} :
    d ∈ heldItems e approachesTag approachTag → s.catalog.approaches.Wants s.site d name cause →
      FailsUnknown s e scope (.approaches scope cause)
  | reporter {d : Element} {name : String} {cause : PluginError} :
    d ∈ heldItems e reportingTag reporterTag → s.catalog.reporters.Wants s.site d name cause →
      FailsUnknown s e scope (.reporterBuild scope name cause)

/-- What a load needs of an element. -/
structure Fits (s : Setup α ρ ω) (e : Element) : Prop where
  named : ∃ name, e.name? = some name
  /-- The plugin of an approach is unknown by name, or its factory makes the approach. -/
  approaches : ∀ d ∈ heldItems e approachesTag approachTag,
    s.catalog.approaches.Misses d ∨ ∃ entry, s.catalog.approaches.Makes s.site d entry
  acceptors : ∀ d ∈ acceptorElements (e.find? defaultFilteringPath), s.AcceptorFits d
  /-- The plugin of a reporter is unknown by name, or its factory makes the reporter and its own
  acceptors fit as well. -/
  reporters : ∀ d ∈ heldItems e reportingTag reporterTag,
    s.catalog.reporters.Misses d ∨ (∃ entry, s.catalog.reporters.Makes s.site d entry) ∧
      ∀ a ∈ acceptorElements (ownFiltering d), s.AcceptorFits a

/-- The entry of a reporter, with a panel of the default acceptors and those of its own that are
not passed over. -/
def GathersSlot (s : Setup α ρ ω) (p : Panel) (d : Element) (entry : String × Slot ρ) : Prop :=
  s.catalog.reporters.Makes s.site d (entry.1, entry.2.reporter) ∧
    ∃ own, s.GathersAcceptors (ownFiltering d) own ∧
      entry.2.acceptors =
        p.overlay ((Panel.ofList own).renamed (reporterAcceptorName entry.1))

/-- The scope is put together from the elements that are not passed over, all of them. -/
structure Gathered (s : Setup α ρ ω) (e : Element) (scope : Scope α ρ ω) : Prop where
  approaches : Gathers s.catalog.approaches.Misses (s.catalog.approaches.Makes s.site)
    (heldItems e approachesTag approachTag) scope.approaches
  acceptors : ∃ entries, s.GathersAcceptors (e.find? defaultFilteringPath) entries ∧
    scope.acceptors = (if (Panel.ofList entries).isEmpty then s.managedOnly
      else Panel.ofList entries).overlay ⟨s.overrides.acceptors⟩
  reporters : ∃ entries, Gathers s.catalog.reporters.Misses (s.GathersSlot scope.acceptors)
      (heldItems e reportingTag reporterTag) entries ∧
    scope.reporters = s.overrideReporters (Roster.ofList entries)

/-! ## What is passed over -/

theorem panelOf_eq_ok_iff {filtering : Option Element} {p : Panel} :
    s.panelOf filtering = .ok p ↔
      ∃ entries, s.GathersAcceptors filtering entries ∧ p = Panel.ofList entries := by
  cases filtering with
  | some filtering =>
    simp only [GathersAcceptors, acceptorElements_some]
    exact AcceptorRegistry.buildPanel_eq_ok_iff
  | none =>
    constructor
    · intro h
      exact ⟨[], .nil, (Except.ok.inj h).symm⟩
    · rintro ⟨entries, hg, rfl⟩
      cases hg
      rfl

theorem exists_panelOf_iff {filtering : Option Element} :
    (∃ p, s.panelOf filtering = .ok p) ↔ ∀ d ∈ acceptorElements filtering, s.AcceptorFits d := by
  have hgathers : (∃ entries, s.GathersAcceptors filtering entries) ↔
      ∀ d ∈ acceptorElements filtering, s.AcceptorFits d := Gathers.exists_iff
  rw [← hgathers]
  constructor
  · rintro ⟨p, hp⟩
    obtain ⟨entries, hg, -⟩ := panelOf_eq_ok_iff.1 hp
    exact ⟨entries, hg⟩
  · rintro ⟨entries, hg⟩
    exact ⟨Panel.ofList entries, panelOf_eq_ok_iff.2 ⟨entries, hg, rfl⟩⟩

theorem makesSlot_iff {p : Panel} {d : Element} {entry : String × Slot ρ} :
    s.MakesSlot p d entry ↔ s.GathersSlot p d entry := by
  refine and_congr_right fun _ => ?_
  constructor
  · rintro ⟨own, hown, hacceptors⟩
    obtain ⟨entries, hg, rfl⟩ := panelOf_eq_ok_iff.1 hown
    exact ⟨entries, hg, hacceptors⟩
  · rintro ⟨entries, hg, hacceptors⟩
    exact ⟨Panel.ofList entries, panelOf_eq_ok_iff.2 ⟨entries, hg, rfl⟩, hacceptors⟩

/-- A reporter is made over any default panel if its factory makes it and its own acceptors fit. -/
theorem exists_makesSlot_iff {p : Panel} {d : Element} :
    (∃ entry, s.MakesSlot p d entry) ↔ (∃ entry, s.catalog.reporters.Makes s.site d entry) ∧
      ∀ a ∈ acceptorElements (ownFiltering d), s.AcceptorFits a := by
  rw [← exists_panelOf_iff]
  constructor
  · rintro ⟨entry, hmakes, own, hown, -⟩
    exact ⟨⟨_, hmakes⟩, own, hown⟩
  · rintro ⟨⟨entry, hmakes⟩, own, hown⟩
    exact ⟨(entry.1, ⟨entry.2, p.overlay (own.renamed (reporterAcceptorName entry.1))⟩), hmakes,
      own, hown, rfl⟩

theorem Gathered.of_load {scope : Scope α ρ ω} (h : (s.load e).outcome = .ok scope) :
    s.Gathered e scope := by
  obtain ⟨title, approaches, d, built, -, happroaches, hd, hbuilt, rfl⟩ := load_eq_ok_iff.1 h
  obtain ⟨p, hp, rfl⟩ := defaultPanel_eq_ok_iff.1 hd
  obtain ⟨entries, hg, rfl⟩ := panelOf_eq_ok_iff.1 hp
  obtain ⟨slots, hslots, rfl⟩ := reporters_eq_ok_iff.1 hbuilt
  exact
    { approaches := approaches_eq_ok_iff.1 happroaches
      acceptors := ⟨entries, hg, rfl⟩
      reporters := ⟨slots, hslots.mono (fun _ => id) fun _ _ => makesSlot_iff.1, rfl⟩ }

/-- A load succeeds exactly if everything fits. -/
theorem exists_load_iff : (∃ scope, (s.load e).outcome = .ok scope) ↔ s.Fits e := by
  constructor
  · rintro ⟨scope, h⟩
    obtain ⟨title, approaches, d, built, hname, happroaches, hd, hbuilt, -⟩ := load_eq_ok_iff.1 h
    obtain ⟨p, hp, -⟩ := defaultPanel_eq_ok_iff.1 hd
    obtain ⟨slots, hslots, -⟩ := reporters_eq_ok_iff.1 hbuilt
    refine
      { named := ⟨title, hname⟩
        approaches := Gathers.exists_iff.1 ⟨approaches, approaches_eq_ok_iff.1 happroaches⟩
        acceptors := exists_panelOf_iff.1 ⟨p, hp⟩
        reporters := ?_ }
    intro d hd
    exact (Gathers.exists_iff.1 ⟨slots, hslots⟩ d hd).imp_right exists_makesSlot_iff.1
  · rintro ⟨⟨name, hname⟩, happroaches, hacceptors, hreporters⟩
    obtain ⟨approaches, happroaches⟩ := Gathers.exists_iff.2 happroaches
    obtain ⟨p, hp⟩ := exists_panelOf_iff.2 hacceptors
    have hd := defaultPanel_eq_ok_iff.2 ⟨p, hp, rfl⟩
    have hslots : ∀ d ∈ heldItems e reportingTag reporterTag, s.catalog.reporters.Misses d ∨
        ∃ entry, s.MakesSlot ((if p.isEmpty then s.managedOnly else p).overlay
          ⟨s.overrides.acceptors⟩) d entry := by
      intro d hd
      exact (hreporters d hd).imp_right exists_makesSlot_iff.2
    obtain ⟨slots, hslots⟩ := Gathers.exists_iff.2 hslots
    exact ⟨_, load_eq_ok_iff.2 ⟨name, approaches, _, _, hname,
      approaches_eq_ok_iff.2 happroaches, hd, reporters_eq_ok_iff.2 ⟨slots, hslots, rfl⟩, rfl⟩⟩

/-! ## What fails for want of a plugin -/

theorem isUnknownPlugin_of_requiredName {tag : String} {cause : PluginError}
    (h : requiredName e tag = .error cause) : cause.isUnknownPlugin = false := by
  obtain ⟨-, rfl⟩ := requiredName_eq_error_iff.1 h
  rfl

theorem isUnknownPlugin_of_defaultPanel {cause : PluginError}
    (h : (s.defaultPanel e).outcome = .error cause) : cause.isUnknownPlugin = false := by
  rw [outcome_defaultPanel, map_eq_error_iff] at h
  cases hf : e.find? defaultFilteringPath with
  | some filtering =>
    rw [hf] at h
    exact AcceptorRegistry.isUnknownPlugin_of_buildPanel h
  | none =>
    rw [hf] at h
    cases h

theorem isUnknownPlugin_of_narrow {reporter : String} {filtering : Option Element} {p : Panel}
    {cause : PluginError} (h : (s.narrow reporter filtering p).outcome = .error cause) :
    cause.isUnknownPlugin = false := by
  unfold narrow at h
  cases filtering with
  | some filtering => exact AcceptorRegistry.isUnknownPlugin_of_extend h
  | none => cases h

theorem wants_of_approach? {d : Element} {cause : PluginError}
    (h : (s.approach? d).outcome = .error cause) (hcause : cause.isUnknownPlugin = true) :
    ∃ name, s.catalog.approaches.Wants s.site d name cause := by
  rw [outcome_approach?, bind_eq_error_iff] at h
  rcases h with hnone | ⟨name, hname, hpick⟩
  · exact absurd hcause (Bool.eq_false_iff.1 (isUnknownPlugin_of_requiredName hnone))
  · obtain ⟨factory, hr, hmade⟩ := Registry.pick_eq_error_iff.1 hpick
    exact ⟨name, requiredName_eq_ok_iff.1 hname, hcause, factory, hr, map_eq_error_iff.1 hmade⟩

theorem wants_of_reporter? {scope : String} {p : Panel} {d : Element} {error : LoadError}
    (h : (s.reporter? scope p d).outcome = .error error) (herror : error.isUnknownPlugin = true) :
    ∃ name cause, s.catalog.reporters.Wants s.site d name cause ∧
      error = .reporterBuild scope name cause := by
  rw [outcome_reporter?, bind_eq_error_iff] at h
  rcases h with hfails | ⟨name, hname, hpick⟩
  · obtain ⟨cause, hnone, rfl⟩ := mapError_eq_error_iff.1 hfails
    exact absurd herror (Bool.eq_false_iff.1 (isUnknownPlugin_of_requiredName hnone))
  obtain ⟨factory, hr, hmade⟩ := Registry.pick_eq_error_iff.1 hpick
  rcases bind_eq_error_iff.1 hmade with hfails | ⟨reporter, -, hmade⟩
  · obtain ⟨cause, hfactory, rfl⟩ := mapError_eq_error_iff.1 hfails
    have hname := requiredName_eq_ok_iff.1 (mapError_eq_ok_iff.1 hname)
    exact ⟨name, cause, ⟨hname, herror, factory, hr, hfactory⟩, rfl⟩
  · rcases bind_eq_error_iff.1 hmade with hfails | ⟨acceptors, -, hmade⟩
    · obtain ⟨cause, hnarrow, rfl⟩ := mapError_eq_error_iff.1 hfails
      exact absurd herror (Bool.eq_false_iff.1 (isUnknownPlugin_of_narrow hnarrow))
    · cases hmade

theorem failsUnknown_of_load {error : LoadError} (h : (s.load e).outcome = .error error)
    (herror : error.isUnknownPlugin = true) :
    ∃ scope, e.name? = some scope ∧ s.FailsUnknown e scope error := by
  rcases load_eq_error_iff.1 h with ⟨cause, hnone, rfl⟩ | ⟨scope, hname, hstep⟩
  · exact absurd herror (Bool.eq_false_iff.1 (isUnknownPlugin_of_requiredName hnone))
  refine ⟨scope, hname, ?_⟩
  rcases hstep with ⟨cause, happroaches, rfl⟩ | ⟨approaches, -, hstep⟩
  · rw [outcome_approaches, map_eq_error_iff] at happroaches
    obtain ⟨d, hd, hfails⟩ := exists_of_mapM_eq_error happroaches
    obtain ⟨name, hwants⟩ := wants_of_approach? hfails herror
    exact .approach hd hwants
  rcases hstep with ⟨cause, hp, rfl⟩ | ⟨d, -, hreporters⟩
  · exact absurd herror (Bool.eq_false_iff.1 (isUnknownPlugin_of_defaultPanel hp))
  · rw [outcome_reporters, map_eq_error_iff] at hreporters
    obtain ⟨d, hd, hfails⟩ := exists_of_mapM_eq_error hreporters
    obtain ⟨name, cause, hwants, rfl⟩ := wants_of_reporter? hfails herror
    exact .reporter hd hwants

/-- A document is not loaded for want of a plugin only if one of its scopes is not. -/
theorem exists_of_loadAll {root : Element} {error : LoadError}
    (h : (s.loadAll root).outcome = .error error) (herror : error.isUnknownPlugin = true) :
    ∃ holder, scopesElement? root = some holder ∧
      ∃ d ∈ holder.elementsNamed scopeTag, (s.load d).outcome = .error error := by
  rw [outcome_loadAll] at h
  cases hholder : scopesElement? root with
  | none =>
    rw [hholder] at h
    obtain rfl := Except.error.inj h
    cases herror
  | some holder =>
    rw [hholder] at h
    obtain ⟨loaded, d, hd, hnext⟩ := exists_of_foldlM_eq_error h
    refine ⟨holder, rfl, d, hd, ?_⟩
    rcases loadNext_eq_error_iff.1 hnext with hload | ⟨scope, -, -, rfl⟩
    · exact hload
    · cases herror

/-- **Plugins that are not there.** A load fails for want of a plugin only if the factory of an
approach or of a reporter comes to an unknown plugin. It succeeds exactly if the scope has a name
and each plugin that it asks for is unknown by name, is made, or is an acceptor whose factory comes
to an unknown plugin. What is unknown is then passed over, and everything else is there. -/
theorem unknownPlugins_passedOver (s : Setup α ρ ω) :
    (∀ e error, (s.load e).outcome = .error error → error.isUnknownPlugin = true →
      ∃ scope, e.name? = some scope ∧ s.FailsUnknown e scope error) ∧
    (∀ root error, (s.loadAll root).outcome = .error error → error.isUnknownPlugin = true →
      ∃ holder, scopesElement? root = some holder ∧ ∃ e ∈ holder.elementsNamed scopeTag,
        ∃ scope, e.name? = some scope ∧ s.FailsUnknown e scope error) ∧
    (∀ e, (∃ scope, (s.load e).outcome = .ok scope) ↔ s.Fits e) ∧
    ∀ e scope, (s.load e).outcome = .ok scope → s.Gathered e scope := by
  refine ⟨fun e error => failsUnknown_of_load, ?_, fun e => exists_load_iff,
    fun e scope => Gathered.of_load⟩
  intro root error h herror
  obtain ⟨holder, hholder, e, he, h⟩ := exists_of_loadAll h herror
  exact ⟨holder, hholder, e, he, failsUnknown_of_load h herror⟩

end Setup

namespace Sample

/-- The factories of the approach and of the reporter come to a plugin that nobody registered. -/
def wanting : Setup Unit Unit Unit :=
  { setup with
    catalog :=
      { acceptors := .standard
        approaches :=
          Registry.ofList [("probe", fun _ _ => throw (.unknownPlugin .approach "inner"))]
        reporters :=
          Registry.ofList [("audit", fun _ _ => throw (.unknownPlugin .reporter "inner"))] } }

/-- A scope with one approach and nothing else. -/
def probed : Element :=
  ((Element.ofTag "scope").withAttribute "name" "lab").withChildren
    [(Element.ofTag "serverDetectionApproach").withChildren
      [(Element.ofTag "approach").withAttribute "name" "probe"]]

/-- An unknown plugin that the factory of an approach or of a reporter comes to fails the load. -/
theorem unknown_plugin_fails_load :
    (wanting.load probed).outcome = .error (.approaches "lab" (.unknownPlugin .approach "inner")) ∧
      (wanting.load lab).outcome =
        .error (.reporterBuild "lab" "audit" (.unknownPlugin .reporter "inner")) := by
  constructor
  · rfl
  · rfl

end Sample

end DiscoveryFilter
