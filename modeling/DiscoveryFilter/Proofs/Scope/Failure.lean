import DiscoveryFilter.Proofs.Panel.Building
import DiscoveryFilter.Proofs.Policy.Failure
import DiscoveryFilter.Proofs.Scope.Unknown

/-!
# Loads that fail

`Catalog.FailsWith` tells the loads that fail, and the chains of messages they fail with, from the
element, the catalog and the site. The name comes first, then the approaches, the default policy
and the reporters, and within each of these the first element that fails gives the cause. What the
caller overrides and who observes has no part in it.
-/

namespace DiscoveryFilter

open Setup

namespace Catalog

variable {α ρ : Type}

/-- The errors of an approach element. -/
inductive ApproachFails (c : Catalog α ρ) (site : Site) (d : Element) : PluginError → Prop
  | nameless : d.name? = none → ApproachFails c site d (.missingAttribute "approach" "name")
  | factory {name : String} {factory : Factory α} {cause : PluginError} :
    d.name? = some name → c.approaches.get? name = some factory →
      (factory d site).outcome = .error cause → ApproachFails c site d cause

/-- The errors of an acceptor element. One that comes to an unknown plugin does not fail. -/
inductive AcceptorFails (c : Catalog α ρ) (site : Site) (d : Element) : PluginError → Prop
  | factory {factory : Factory Acceptor} {cause : PluginError} :
    c.acceptors.get? d.tag = some factory → (factory d site).outcome = .error cause →
      cause.isUnknownPlugin = false → AcceptorFails c site d cause

/-- The messages with which a reporter element fails: for its name, then for its factory, then for
the first of its own acceptors that fails. -/
inductive ReporterFails (c : Catalog α ρ) (site : Site) (d : Element) : List String → Prop
  | nameless : d.name? = none → ReporterFails c site d ["<reporter> element has no name"]
  | factory {name : String} {factory : Factory ρ} {cause : PluginError} :
    d.name? = some name → c.reporters.get? name = some factory →
      (factory d site).outcome = .error cause →
        ReporterFails c site d ["building reporter '" ++ name ++ "'", cause.message]
  | filtering {name : String} {factory : Factory ρ} {reporter : ρ} {cause : PluginError} :
    d.name? = some name → c.reporters.get? name = some factory →
      (factory d site).outcome = .ok reporter →
        FirstFails (c.AcceptorFails site) (acceptorElements (ownFiltering d)) cause →
          ReporterFails c site d
            ["building filtering of reporter '" ++ name ++ "'", cause.message]

/-- The chains of messages with which the load of an element fails, outermost message first. -/
inductive FailsWith (c : Catalog α ρ) (site : Site) (e : Element) : List String → Prop
  | nameless : e.name? = none →
      FailsWith c site e ["loading discovery scope", "<scope> element has no name"]
  | approaches {name : String} {cause : PluginError} : e.name? = some name →
      FirstFails (c.ApproachFails site) (heldItems e approachesTag approachTag) cause →
        FailsWith c site e ["building approaches of scope '" ++ name ++ "'", cause.message]
  | filtering {name : String} {cause : PluginError} : e.name? = some name →
      (∀ d ∈ heldItems e approachesTag approachTag, ∀ cause, ¬ c.ApproachFails site d cause) →
        FirstFails (c.AcceptorFails site) (acceptorElements (e.find? defaultFilteringPath)) cause →
          FailsWith c site e ["building filtering of scope '" ++ name ++ "'", cause.message]
  | reporters {name : String} {messages : List String} : e.name? = some name →
      (∀ d ∈ heldItems e approachesTag approachTag, ∀ cause, ¬ c.ApproachFails site d cause) →
        (∀ d ∈ acceptorElements (e.find? defaultFilteringPath), ∀ cause,
          ¬ c.AcceptorFails site d cause) →
            FirstFails (c.ReporterFails site) (heldItems e reportingTag reporterTag) messages →
              FailsWith c site e (("building reporters of scope '" ++ name ++ "'") :: messages)

/-! ## Acceptors -/

section Acceptors

variable {c : Catalog α ρ} {site : Site} {rename : String → String}
  {skipped : PluginError → String → Event} {cause : PluginError}

theorem acceptorFails_iff {d : Element} :
    c.AcceptorFails site d cause ↔ c.acceptors.Refuses site d cause := by
  constructor
  · rintro ⟨hfactory, hcause, hknown⟩
    exact ⟨_, hfactory, hcause, hknown⟩
  · rintro ⟨factory, hfactory, hcause, hknown⟩
    exact .factory hfactory hcause hknown

/-- The panel that is extended has no part in the failure. -/
theorem extend_eq_error_iff {p : Panel} {es : List Element} :
    (c.acceptors.extend site rename skipped p es).outcome = .error cause ↔
      FirstFails (c.AcceptorFails site) es cause :=
  AcceptorRegistry.extend_eq_error_iff.trans
    (FirstFails.congr fun _ _ => acceptorFails_iff.symm)

end Acceptors

end Catalog

namespace Setup

variable {α ρ ω : Type} {s : Setup α ρ ω}

/-! ## The phases of a load -/

theorem panelOf_eq_error_iff {filtering : Option Element} {cause : PluginError} :
    s.panelOf filtering = .error cause ↔
      FirstFails (s.catalog.AcceptorFails s.site) (acceptorElements filtering) cause := by
  cases filtering with
  | none =>
    constructor
    · intro h
      cases h
    · rintro ⟨⟩
  | some filtering =>
    rw [acceptorElements_some]
    exact AcceptorRegistry.buildPanel_eq_error_iff.trans
      (FirstFails.congr fun _ _ => Catalog.acceptorFails_iff.symm)

theorem defaultPanel_eq_error_iff {e : Element} {cause : PluginError} :
    (s.defaultPanel e).outcome = .error cause ↔
      FirstFails (s.catalog.AcceptorFails s.site)
        (acceptorElements (e.find? defaultFilteringPath)) cause := by
  rw [outcome_defaultPanel, map_eq_error_iff, panelOf_eq_error_iff]

theorem narrow_eq_error_iff {reporter : String} {d : Element} {p : Panel} {cause : PluginError} :
    (s.narrow reporter (d.element? filteringTag) p).outcome = .error cause ↔
      FirstFails (s.catalog.AcceptorFails s.site) (acceptorElements (ownFiltering d)) cause := by
  rw [ownFiltering_eq]
  unfold narrow
  cases d.element? filteringTag with
  | none =>
    constructor
    · intro h
      cases h
    · rintro ⟨⟩
  | some filtering =>
    simp only [Option.map_some, acceptorElements_some, Element.elements_keeping]
    exact Catalog.extend_eq_error_iff

theorem approach?_eq_error_iff {d : Element} {cause : PluginError} :
    (s.approach? d).outcome = .error cause ↔ s.catalog.ApproachFails s.site d cause := by
  rw [outcome_approach?, bind_eq_error_iff, requiredName_eq_error_iff]
  constructor
  · rintro (⟨hname, rfl⟩ | ⟨name, hname, hpick⟩)
    · exact .nameless hname
    · obtain ⟨factory, hr, hmade⟩ := Registry.pick_eq_error_iff.1 hpick
      exact .factory (requiredName_eq_ok_iff.1 hname) hr (map_eq_error_iff.1 hmade)
  · rintro (hname | ⟨hname, hr, hmade⟩)
    · exact .inl ⟨hname, rfl⟩
    · exact .inr ⟨_, requiredName_eq_ok_iff.2 hname,
        Registry.pick_eq_error_iff.2 ⟨_, hr, map_eq_error_iff.2 hmade⟩⟩

theorem approaches_eq_error_iff {e : Element} {cause : PluginError} :
    (s.approaches e).outcome = .error cause ↔
      FirstFails (s.catalog.ApproachFails s.site) (heldItems e approachesTag approachTag) cause := by
  rw [outcome_approaches, map_eq_error_iff, mapM_eq_error_iff]
  exact FirstFails.congr fun d cause => approach?_eq_error_iff

/-- A reporter fails with the messages of its element, below the message of its scope. The default
panel has no part in it. -/
theorem chain_of_reporter?_iff {scope : String} {p : Panel} {d : Element} {chain : List String} :
    (∃ error, (s.reporter? scope p d).outcome = .error error ∧ error.chain = chain) ↔
      ∃ messages, s.catalog.ReporterFails s.site d messages ∧
        ("building reporters of scope '" ++ scope ++ "'") :: messages = chain := by
  simp only [outcome_reporter?, bind_eq_error_iff, mapError_eq_error_iff, mapError_eq_ok_iff,
    requiredName_eq_error_iff, requiredName_eq_ok_iff, Registry.pick_eq_error_iff,
    narrow_eq_error_iff, pure, Except.pure, reduceCtorEq, and_false, exists_false, or_false]
  constructor
  · rintro ⟨error, ⟨cause, ⟨hname, rfl⟩, rfl⟩ | ⟨name, hname, factory, hr, hfails⟩, rfl⟩
    · exact ⟨_, .nameless hname, rfl⟩
    · rcases hfails with ⟨cause, hmade, rfl⟩ | ⟨reporter, hmade, cause, hfirst, rfl⟩
      · exact ⟨_, .factory hname hr hmade, rfl⟩
      · exact ⟨_, .filtering hname hr hmade hfirst, rfl⟩
  · rintro ⟨messages, hname | ⟨hname, hr, hmade⟩ | ⟨hname, hr, hmade, hfirst⟩, rfl⟩
    · exact ⟨_, .inl ⟨_, ⟨hname, rfl⟩, rfl⟩, rfl⟩
    · exact ⟨_, .inr ⟨_, hname, _, hr, .inl ⟨_, hmade, rfl⟩⟩, rfl⟩
    · exact ⟨_, .inr ⟨_, hname, _, hr, .inr ⟨_, hmade, _, hfirst, rfl⟩⟩, rfl⟩

theorem chain_of_reporters_iff {name : String} {e : Element} {p : Panel} {chain : List String} :
    (∃ error, (s.reporters name e p).outcome = .error error ∧ error.chain = chain) ↔
      ∃ messages, FirstFails (s.catalog.ReporterFails s.site)
          (heldItems e reportingTag reporterTag) messages ∧
        ("building reporters of scope '" ++ name ++ "'") :: messages = chain := by
  simp only [outcome_reporters, map_eq_error_iff, mapM_eq_error_iff]
  rw [← FirstFails.map_iff, ← FirstFails.map_iff]
  exact FirstFails.congr fun d chain => chain_of_reporter?_iff

/-! ## The whole load -/

/-- A load fails with the chains that its element, the catalog and the site give, and no others. -/
theorem chain_of_load_iff {e : Element} {chain : List String} :
    (∃ error, (s.load e).outcome = .error error ∧ error.chain = chain) ↔
      s.catalog.FailsWith s.site e chain := by
  have happroaches : (∃ approaches, (s.approaches e).outcome = .ok approaches) ↔
      ∀ d ∈ heldItems e approachesTag approachTag, ∀ cause,
        ¬ s.catalog.ApproachFails s.site d cause := by
    simp only [exists_ok_iff, ne_eq, approaches_eq_error_iff, FirstFails.forall_not_iff]
  have hdefault : (∃ p, (s.defaultPanel e).outcome = .ok p) ↔
      ∀ d ∈ acceptorElements (e.find? defaultFilteringPath), ∀ cause,
        ¬ s.catalog.AcceptorFails s.site d cause := by
    simp only [exists_ok_iff, ne_eq, defaultPanel_eq_error_iff, FirstFails.forall_not_iff]
  constructor
  · rintro ⟨error, h, rfl⟩
    rcases load_eq_error_iff.1 h with ⟨cause, hcause, rfl⟩ | ⟨name, hname, hphase⟩
    · obtain ⟨hname, rfl⟩ := requiredName_eq_error_iff.1 hcause
      exact .nameless hname
    rcases hphase with ⟨cause, hcause, rfl⟩ | ⟨approaches, hok, hphase⟩
    · exact .approaches hname (approaches_eq_error_iff.1 hcause)
    have hok := happroaches.1 ⟨approaches, hok⟩
    rcases hphase with ⟨cause, hcause, rfl⟩ | ⟨p, hp, hreporters⟩
    · exact .filtering hname hok (defaultPanel_eq_error_iff.1 hcause)
    obtain ⟨messages, hfirst, hchain⟩ := chain_of_reporters_iff.1 ⟨error, hreporters, rfl⟩
    rw [← hchain]
    exact .reporters hname hok (hdefault.1 ⟨p, hp⟩) hfirst
  · intro h
    cases h with
    | nameless hname =>
      exact ⟨_, load_eq_error_iff.2 (.inl ⟨_, requiredName_eq_error_iff.2 ⟨hname, rfl⟩, rfl⟩), rfl⟩
    | approaches hname hfirst =>
      exact ⟨_, load_eq_error_iff.2 (.inr ⟨_, hname,
        .inl ⟨_, approaches_eq_error_iff.2 hfirst, rfl⟩⟩), rfl⟩
    | filtering hname hok hfirst =>
      obtain ⟨approaches, hok⟩ := happroaches.2 hok
      exact ⟨_, load_eq_error_iff.2 (.inr ⟨_, hname, .inr ⟨approaches, hok,
        .inl ⟨_, defaultPanel_eq_error_iff.2 hfirst, rfl⟩⟩⟩), rfl⟩
    | reporters hname hok hdefaults hfirst =>
      obtain ⟨approaches, hok⟩ := happroaches.2 hok
      obtain ⟨p, hp⟩ := hdefault.2 hdefaults
      obtain ⟨error, herror, hchain⟩ := chain_of_reporters_iff.2 ⟨_, hfirst, rfl⟩
      exact ⟨error, load_eq_error_iff.2 (.inr ⟨_, hname, .inr ⟨approaches, hok,
        .inr ⟨p, hp, herror⟩⟩⟩), hchain⟩

/-- **Loads that fail.** A load fails exactly if `FailsWith` gives it a chain of messages, and with
that chain. It fails in the same way whatever the caller overrides and whoever observes. The
acceptor elements that the built-in factories refuse are those of `RangesFail` and of
`ServicesFail`. -/
theorem failure_of_load (s : Setup α ρ ω) :
    (∀ e chain, (∃ error, (s.load e).outcome = .error error ∧ error.chain = chain) ↔
      s.catalog.FailsWith s.site e chain) ∧
    (∀ (ω' : Type) (overrides : Overrides) (observers : List (Observer ω')) e chain,
      (∃ error, ((Setup.mk s.catalog s.site overrides observers).load e).outcome = .error error ∧
          error.chain = chain) ↔
        ∃ error, (s.load e).outcome = .error error ∧ error.chain = chain) ∧
    ∀ d cause,
      ((Acceptor.rangeFactory d s.site).outcome = .error cause ↔ RangesFail d cause) ∧
      ((Acceptor.serviceFactory d s.site).outcome = .error cause ↔ ServicesFail d cause) := by
  refine ⟨fun e chain => chain_of_load_iff, ?_, ?_⟩
  · intro ω' overrides observers e chain
    rw [chain_of_load_iff, chain_of_load_iff]
  · intro d cause
    exact ⟨rangeFactory_eq_error_iff, serviceFactory_eq_error_iff⟩

end Setup

end DiscoveryFilter
