import DiscoveryFilter.Proofs.Element.Editing
import DiscoveryFilter.Proofs.Panel.Assembly
import DiscoveryFilter.Proofs.Scope.Roster
import DiscoveryFilter.Scope.Setup

/-!
# What loading a scope goes through

Each step of a load that succeeds, told by what it read: the elements whose plugins are there, the
values they gave, and the panels below a filtering element. `Setup.load_eq_ok_iff` puts the steps
together; nothing after it looks into the steps again.
-/

namespace DiscoveryFilter

/-! ## Elements that name plugins -/

namespace Registry

variable {kind : PluginKind} {α φ : Type}

/-- The element has a name, and something is registered under it. -/
def knows (r : Registry kind φ) (e : Element) : Bool :=
  e.name?.any fun name => (r.get? name).isSome

/-- The element has a name under which nothing is registered. -/
def Misses (r : Registry kind φ) (e : Element) : Prop :=
  ∃ name, e.name? = some name ∧ r.get? name = none

/-- The factory of the element's name makes the value of the entry, which bears that name. -/
def Makes (r : Registry kind (Factory α)) (site : Site) (e : Element) (entry : String × α) : Prop :=
  e.name? = some entry.1 ∧
    ∃ factory, r.get? entry.1 = some factory ∧ (factory e site).outcome = .ok entry.2

/-- What is made from the entry under a name; nothing where there is no entry. -/
def pick {ε β : Type} (r : Registry kind φ) (name : String) (make : φ → Except ε (Option β)) :
    Except ε (Option β) :=
  match r.get? name with
  | some factory => make factory
  | none => .ok none

theorem pick_eq_ok_iff {ε β : Type} {r : Registry kind φ} {name : String}
    {make : φ → Except ε (Option β)} {o : Option β} : r.pick name make = .ok o ↔
      r.get? name = none ∧ o = none ∨
        ∃ factory, r.get? name = some factory ∧ make factory = .ok o := by
  unfold pick
  cases r.get? name with
  | none => simp [eq_comm (a := o)]
  | some factory => simp

theorem pick_eq_error_iff {ε β : Type} {r : Registry kind φ} {name : String}
    {make : φ → Except ε (Option β)} {cause : ε} : r.pick name make = .error cause ↔
      ∃ factory, r.get? name = some factory ∧ make factory = .error cause := by
  unfold pick
  cases r.get? name <;> simp

theorem knows_of_misses {r : Registry kind φ} {e : Element} (h : r.Misses e) :
    r.knows e = false := by
  obtain ⟨name, hname, hr⟩ := h
  simp [knows, hname, hr]

theorem knows_of_makes {r : Registry kind (Factory α)} {site : Site} {e : Element}
    {entry : String × α} (h : r.Makes site e entry) : r.knows e = true := by
  obtain ⟨hname, factory, hr, -⟩ := h
  simp [knows, hname, hr]

end Registry

namespace Setup

variable {α ρ ω : Type} {s : Setup α ρ ω}

theorem reporterAcceptorName_injective (reporter : String) :
    Function.Injective (reporterAcceptorName reporter) := by
  intro t u h
  have h := congrArg String.toList h
  simp only [reporterAcceptorName, String.toList_append, List.append_cancel_left_eq] at h
  exact String.toList_inj.1 h

theorem requiredName_eq_ok_iff {e : Element} {tag name : String} :
    requiredName e tag = .ok name ↔ e.name? = some name := by
  unfold requiredName
  cases e.name? <;> simp

theorem requiredName_eq_error_iff {e : Element} {tag : String} {cause : PluginError} :
    requiredName e tag = .error cause ↔
      e.name? = none ∧ cause = .missingAttribute tag Element.nameAttribute := by
  unfold requiredName
  cases e.name? <;> simp [eq_comm]

/-! ## Where elements stand -/

/-- The items of a tag in the first element of a tag, those that count. -/
def heldItems (e : Element) (holderTag itemTag : String) : List Element :=
  ((e.tagged holderTag).head?.map fun holder => holder.tagged itemTag).getD []

/-- The element that holds the acceptors of a scope's default policy. -/
def defaultFiltering? (scope : Element) : Option Element := do
  let reporting ← (scope.tagged "reporting").head?
  let configuration ← (reporting.tagged "configuration").head?
  (configuration.tagged "filtering").head?

/-- The filtering element of a reporter with those children only below which something counts. -/
def ownFiltering (reporter : Element) : Option Element :=
  (reporter.tagged "filtering").head?.map fun filtering =>
    filtering.keeping fun e => e.children.any Element.counts

/-- The elements below a filtering element, those that count; none where there is no such
element. -/
def acceptorElements (filtering : Option Element) : List Element :=
  (filtering.map fun filtering => filtering.children.filter Element.counts).getD []

theorem heldItems_eq (e : Element) (holderTag itemTag : String) :
    heldItems e holderTag itemTag = sectionItems e holderTag itemTag := by
  rw [heldItems, ← Element.element?_eq_head?, sectionItems]
  cases e.element? holderTag with
  | none => rfl
  | some holder => exact (holder.elementsNamed_eq_tagged itemTag).symm

theorem acceptorElements_some (filtering : Element) :
    acceptorElements (some filtering) = filtering.elements :=
  filtering.elements_eq_filter.symm

theorem find?_defaultFilteringPath (scope : Element) : scope.find? defaultFilteringPath =
    (scope.element? reportingTag).bind fun reporting =>
      (reporting.element? "configuration").bind fun holder => holder.element? filteringTag := by
  have hsegments : Element.segments defaultFilteringPath =
      [reportingTag, "configuration", filteringTag] := by decide
  rw [Element.find?, hsegments]
  simp only [Element.descend?, List.foldlM_cons, List.foldlM_nil, bind_pure]
  rfl

theorem defaultFiltering?_eq (scope : Element) :
    defaultFiltering? scope = scope.find? defaultFilteringPath := by
  simp only [find?_defaultFilteringPath, Element.element?_eq_head?]
  rfl

theorem ownFiltering_eq (reporter : Element) : ownFiltering reporter =
    (reporter.element? filteringTag).map fun filtering =>
      filtering.keeping fun e => !e.isBare := by
  simp only [ownFiltering, Element.not_isBare_eq_any, Element.element?_eq_head?]
  rfl

/-! ## The steps -/

/-- The panel of the elements below a filtering element; no acceptor where there is none. -/
def panelOf (s : Setup α ρ ω) (filtering : Option Element) : Except PluginError Panel :=
  match filtering with
  | some filtering => (s.catalog.acceptors.buildPanel filtering s.site).outcome
  | none => .ok Panel.empty

/-- The reporter element makes the reporter of the entry, and its own acceptors, renamed, over the
default ones make the panel of the entry. -/
def MakesSlot (s : Setup α ρ ω) (p : Panel) (e : Element) (entry : String × Slot ρ) : Prop :=
  s.catalog.reporters.Makes s.site e (entry.1, entry.2.reporter) ∧
    ∃ own, s.panelOf (ownFiltering e) = .ok own ∧
      entry.2.acceptors = p.overlay (own.renamed (reporterAcceptorName entry.1))

theorem outcome_defaultPanel (s : Setup α ρ ω) (e : Element) : (s.defaultPanel e).outcome =
    (fun p => if p.isEmpty then s.managedOnly else p) <$>
      s.panelOf (e.find? defaultFilteringPath) := by
  have hfallback (p : Panel) :
      (if p.isEmpty = true then do
          Traced.tell [.managedOnly s.site.managed]
          pure s.managedOnly
        else pure p : Traced Event PluginError Panel).outcome =
        .ok (if p.isEmpty then s.managedOnly else p) := by
    cases p.isEmpty <;> rfl
  unfold defaultPanel
  cases e.find? defaultFilteringPath with
  | some filtering =>
    simp only [Traced.outcome_bind, hfallback, panelOf, map_eq_pure_bind]
    rfl
  | none =>
    simp only [pure_bind, hfallback, panelOf]
    rfl

theorem defaultPanel_eq_ok_iff {e : Element} {d : Panel} :
    (s.defaultPanel e).outcome = .ok d ↔
      ∃ p, s.panelOf (e.find? defaultFilteringPath) = .ok p ∧
        d = if p.isEmpty then s.managedOnly else p := by
  rw [outcome_defaultPanel, map_eq_ok_iff]
  simp only [eq_comm (b := d)]

theorem narrow_eq_ok_iff {reporter : String} {e : Element} {p q : Panel} :
    (s.narrow reporter (e.element? filteringTag) p).outcome = .ok q ↔
      ∃ own, s.panelOf (ownFiltering e) = .ok own ∧
        q = p.overlay (own.renamed (reporterAcceptorName reporter)) := by
  have hinj := reporterAcceptorName_injective reporter
  rw [ownFiltering_eq]
  unfold narrow
  cases e.element? filteringTag with
  | none =>
    have hnone : p.overlay (Panel.empty.renamed (reporterAcceptorName reporter)) = p :=
      (Panel.insertAll_map_rename hinj p []).symm
    simp [panelOf, hnone, eq_comm (a := q)]
  | some filtering =>
    simp only [Option.map_some, panelOf, ← filtering.elements_keeping fun e => !e.isBare]
    exact AcceptorRegistry.extend_eq_ok_iff_overlay hinj

theorem outcome_approach? (s : Setup α ρ ω) (e : Element) : (s.approach? e).outcome =
    (requiredName e approachTag >>= fun name =>
      s.catalog.approaches.pick name fun factory =>
        (fun approach => some (name, approach)) <$> (factory e s.site).outcome) := by
  rw [approach?, Traced.outcome_bind, Traced.outcome_ofExcept]
  refine congrArg _ (funext fun name => ?_)
  rw [Registry.find, Registry.pick]
  cases s.catalog.approaches.get? name with
  | none => rfl
  | some factory => exact Traced.outcome_bind _ _

theorem approach?_eq_ok_none_iff {e : Element} :
    (s.approach? e).outcome = .ok none ↔ s.catalog.approaches.Misses e := by
  rw [outcome_approach?, bind_eq_ok_iff]
  refine exists_congr fun name => and_congr requiredName_eq_ok_iff ?_
  rw [Registry.pick_eq_ok_iff]
  simp [map_eq_ok_iff]

theorem approach?_eq_ok_some_iff {e : Element} {entry : String × α} :
    (s.approach? e).outcome = .ok (some entry) ↔ s.catalog.approaches.Makes s.site e entry := by
  rw [outcome_approach?, bind_eq_ok_iff]
  constructor
  · rintro ⟨name, hname, hpick⟩
    rcases Registry.pick_eq_ok_iff.1 hpick with ⟨-, hnone⟩ | ⟨factory, hr, hmade⟩
    · cases hnone
    · obtain ⟨approach, happroach, hentry⟩ := map_eq_ok_iff.1 hmade
      obtain rfl := Option.some.inj hentry
      exact ⟨requiredName_eq_ok_iff.1 hname, factory, hr, happroach⟩
  · rintro ⟨hname, factory, hr, hmade⟩
    exact ⟨entry.1, requiredName_eq_ok_iff.2 hname, Registry.pick_eq_ok_iff.2
      (.inr ⟨factory, hr, map_eq_ok_iff.2 ⟨entry.2, hmade, rfl⟩⟩)⟩

theorem outcome_reporter? (s : Setup α ρ ω) (scope : String) (p : Panel) (e : Element) :
    (s.reporter? scope p e).outcome =
      ((requiredName e reporterTag).mapError (.reporterName scope) >>= fun name =>
        s.catalog.reporters.pick name fun factory => do
          let reporter ← (factory e s.site).outcome.mapError (.reporterBuild scope name)
          let acceptors ← (s.narrow name (e.element? filteringTag) p).outcome.mapError
            (.reporterFiltering scope name)
          return some (name, ⟨reporter, acceptors⟩)) := by
  rw [reporter?, Traced.outcome_bind, Traced.outcome_mapError, Traced.outcome_ofExcept]
  refine congrArg _ (funext fun name => ?_)
  rw [Registry.find, Registry.pick]
  cases s.catalog.reporters.get? name with
  | none => rfl
  | some factory =>
    simp only [Traced.outcome_bind, Traced.outcome_mapError, Traced.outcome_mapEvents]
    rfl

theorem reporter?_eq_ok_none_iff {scope : String} {p : Panel} {e : Element} :
    (s.reporter? scope p e).outcome = .ok none ↔ s.catalog.reporters.Misses e := by
  rw [outcome_reporter?, bind_eq_ok_iff]
  refine exists_congr fun name =>
    and_congr (mapError_eq_ok_iff.trans requiredName_eq_ok_iff) ?_
  rw [Registry.pick_eq_ok_iff]
  simp [bind_eq_ok_iff, pure, Except.pure]

theorem reporter?_eq_ok_some_iff {scope : String} {p : Panel} {e : Element}
    {entry : String × Slot ρ} :
    (s.reporter? scope p e).outcome = .ok (some entry) ↔ s.MakesSlot p e entry := by
  rw [outcome_reporter?, bind_eq_ok_iff]
  constructor
  · rintro ⟨name, hname, hpick⟩
    rcases Registry.pick_eq_ok_iff.1 hpick with ⟨-, hnone⟩ | ⟨factory, hr, hmade⟩
    · cases hnone
    · obtain ⟨reporter, hreporter, hmade⟩ := bind_eq_ok_iff.1 hmade
      obtain ⟨acceptors, hacceptors, hmade⟩ := bind_eq_ok_iff.1 hmade
      obtain rfl := Option.some.inj (Except.ok.inj hmade)
      exact ⟨⟨requiredName_eq_ok_iff.1 (mapError_eq_ok_iff.1 hname), factory, hr,
        mapError_eq_ok_iff.1 hreporter⟩, narrow_eq_ok_iff.1 (mapError_eq_ok_iff.1 hacceptors)⟩
  · rintro ⟨⟨hname, factory, hr, hreporter⟩, hacceptors⟩
    refine ⟨entry.1, mapError_eq_ok_iff.2 (requiredName_eq_ok_iff.2 hname),
      Registry.pick_eq_ok_iff.2 (.inr ⟨factory, hr, bind_eq_ok_iff.2 ⟨entry.2.reporter, ?_⟩⟩)⟩
    refine ⟨mapError_eq_ok_iff.2 hreporter, bind_eq_ok_iff.2 ⟨entry.2.acceptors, ?_⟩⟩
    exact ⟨mapError_eq_ok_iff.2 (narrow_eq_ok_iff.2 hacceptors), rfl⟩

theorem outcome_approaches (s : Setup α ρ ω) (e : Element) : (s.approaches e).outcome =
    (fun built => built.filterMap id) <$>
      (heldItems e approachesTag approachTag).mapM fun d => (s.approach? d).outcome := by
  rw [approaches, Traced.outcome_bind, Traced.outcome_mapM, map_eq_pure_bind, heldItems_eq]
  rfl

theorem approaches_eq_ok_iff {e : Element} {entries : List (String × α)} :
    (s.approaches e).outcome = .ok entries ↔
      Gathers s.catalog.approaches.Misses (s.catalog.approaches.Makes s.site)
        (heldItems e approachesTag approachTag) entries := by
  have hloop := @Gathers.iff_mapM _ _ _ (heldItems e approachesTag approachTag) entries
    fun d => (s.approach? d).outcome
  simp only [approach?_eq_ok_none_iff, approach?_eq_ok_some_iff] at hloop
  rw [hloop, outcome_approaches, map_eq_ok_iff]

theorem outcome_reporters (s : Setup α ρ ω) (name : String) (e : Element) (p : Panel) :
    (s.reporters name e p).outcome = (fun built => Roster.ofList (built.filterMap id)) <$>
      (heldItems e reportingTag reporterTag).mapM fun d => (s.reporter? name p d).outcome := by
  rw [reporters, Traced.outcome_bind, Traced.outcome_mapM, map_eq_pure_bind, heldItems_eq]
  rfl

theorem reporters_eq_ok_iff {name : String} {e : Element} {p : Panel} {built : Roster (Slot ρ)} :
    (s.reporters name e p).outcome = .ok built ↔
      ∃ entries, Gathers s.catalog.reporters.Misses (s.MakesSlot p)
        (heldItems e reportingTag reporterTag) entries ∧ built = Roster.ofList entries := by
  have hloop (entries : List (String × Slot ρ)) :=
    @Gathers.iff_mapM _ _ _ (heldItems e reportingTag reporterTag) entries
      fun d => (s.reporter? name p d).outcome
  simp only [reporter?_eq_ok_none_iff, reporter?_eq_ok_some_iff] at hloop
  simp only [hloop, outcome_reporters, map_eq_ok_iff]
  constructor
  · rintro ⟨marked, hmarked, rfl⟩
    exact ⟨_, ⟨marked, hmarked, rfl⟩, rfl⟩
  · rintro ⟨_, ⟨marked, hmarked, rfl⟩, rfl⟩
    exact ⟨marked, hmarked, rfl⟩

/-! ## The whole load -/

theorem insertAll_overrides (s : Setup α ρ ω) (d : Panel) :
    d.insertAll s.overrides.acceptors.toList = d.overlay ⟨s.overrides.acceptors⟩ :=
  d.insertAll_toList ⟨s.overrides.acceptors⟩

theorem load_eq_ok_iff {e : Element} {scope : Scope α ρ ω} :
    (s.load e).outcome = .ok scope ↔
      ∃ name approaches d built, e.name? = some name ∧ (s.approaches e).outcome = .ok approaches ∧
        (s.defaultPanel e).outcome = .ok d ∧
        (s.reporters name e (d.overlay ⟨s.overrides.acceptors⟩)).outcome = .ok built ∧
        scope =
          { name, approaches
            reporters := s.overrideReporters built
            acceptors := d.overlay ⟨s.overrides.acceptors⟩
            observers := s.observers } := by
  unfold load
  simp only [Traced.outcome_bind_eq_ok_iff, Traced.outcome_mapError, Traced.outcome_ofExcept,
    mapError_eq_ok_iff, requiredName_eq_ok_iff, Traced.outcome_tell, Traced.outcome_pure,
    Except.ok.injEq, insertAll_overrides]
  constructor
  · rintro ⟨name, hname, approaches, happroaches, d, hd, _, -, built, hbuilt, _, -, _, -, rfl⟩
    exact ⟨name, approaches, d, built, hname, happroaches, hd, hbuilt, rfl⟩
  · rintro ⟨name, approaches, d, built, hname, happroaches, hd, hbuilt, rfl⟩
    exact ⟨name, hname, approaches, happroaches, d, hd, (), trivial, built, hbuilt, (), trivial, (),
      trivial, rfl⟩

/-- A load that fails stops at one step after steps that succeed. -/
theorem load_eq_error_iff {e : Element} {error : LoadError} :
    (s.load e).outcome = .error error ↔
      (∃ cause, requiredName e scopeTag = .error cause ∧ LoadError.scopeName cause = error) ∨
      ∃ name, e.name? = some name ∧
        ((∃ cause, (s.approaches e).outcome = .error cause ∧ .approaches name cause = error) ∨
        ∃ approaches, (s.approaches e).outcome = .ok approaches ∧
          ((∃ cause, (s.defaultPanel e).outcome = .error cause ∧ .filtering name cause = error) ∨
          ∃ d, (s.defaultPanel e).outcome = .ok d ∧
            (s.reporters name e (d.overlay ⟨s.overrides.acceptors⟩)).outcome = .error error)) := by
  unfold load
  simp only [Traced.outcome_bind_eq_error_iff, Traced.outcome_mapError, Traced.outcome_ofExcept,
    mapError_eq_error_iff, mapError_eq_ok_iff, requiredName_eq_ok_iff, Traced.outcome_tell,
    Traced.outcome_pure, insertAll_overrides, reduceCtorEq, false_or, and_false, exists_const,
    exists_false, or_false, true_and]

end Setup

end DiscoveryFilter
