import DiscoveryFilter.Proofs.Scope.Likeness

/-!
# Elements of plugins that are not registered

`Setup.registeredPart` is a scope element without the approaches, reporters and acceptors whose
plugins nobody registered, and so without whatever stands below them. `Setup.load_registeredPart`
says that it loads to the same scope, or fails with the same error. Only the warnings about the
elements that were passed over are gone.
-/

namespace DiscoveryFilter

open Element

namespace Registry

variable {kind : PluginKind} {φ : Type} {r : Registry kind φ} {e : Element}

/-- The element has a name under which nothing is registered. -/
def lacks (r : Registry kind φ) (e : Element) : Bool :=
  e.name?.any fun name => (r.get? name).isNone

theorem lacks_iff : r.lacks e = true ↔ r.Misses e := by
  simp only [lacks, Misses, Option.any_eq_true, Option.isNone_iff_eq_none]

theorem get?_eq_none_of_contains {name : String} (h : r.contains name = false) :
    r.get? name = none := by
  rw [contains, Std.ExtTreeMap.contains_eq_isSome_getElem?, Option.isSome_eq_false_iff,
    Option.isNone_iff_eq_none] at h
  exact h

end Registry

namespace AcceptorRegistry

variable {r : AcceptorRegistry} {site : Site}

theorem skips_of_contains {e : Element} (h : r.contains e.tag = false) : r.Skips site e := by
  refine ⟨.unknownPlugin .acceptor e.tag, ?_, rfl⟩
  rw [build, Registry.find, Registry.get?_eq_none_of_contains h]
  rfl

/-- Elements whose plugins are not registered have no part in the panel. -/
theorem outcome_extend_filter (rename : String → String) (skipped : PluginError → String → Event)
    (p : Panel) (es : List Element) :
    (r.extend site rename skipped p (es.filter fun e => r.contains e.tag)).outcome =
      (r.extend site rename skipped p es).outcome := by
  rw [extend, extend, Traced.outcome_foldlM, Traced.outcome_foldlM]
  apply foldlM_filter_of_pure
  intro e he p
  exact extendBy_eq_ok_iff.2 (.inl ⟨skips_of_contains he, rfl⟩)

end AcceptorRegistry

namespace Setup

variable {α ρ ω : Type} {s : Setup α ρ ω}

/-! ## What is left out -/

/-- The element of acceptors without those that are not registered. -/
def registeredFiltering (s : Setup α ρ ω) (filtering : Element) : Element :=
  filtering.without fun e => !s.catalog.acceptors.contains e.tag

/-- The element of approaches without those that are not registered. -/
def registeredApproaches (s : Setup α ρ ω) (holder : Element) : Element :=
  holder.without fun e => e.tag == approachTag && s.catalog.approaches.lacks e

/-- The holder of a filtering element without the acceptors in it that are not registered. -/
def registeredHolder (s : Setup α ρ ω) (holder : Element) : Element :=
  holder.changingFirst filteringTag s.registeredFiltering

/-- The element of reporters and of the default policy, without the reporters that are not
registered, and with the registered acceptors only in the policies of the others and in the
default policy. -/
def registeredReporting (s : Setup α ρ ω) (reporting : Element) : Element :=
  ((reporting.without fun e => e.tag == reporterTag && s.catalog.reporters.lacks e).changing
    (fun e => e.tag == reporterTag && s.catalog.reporters.knows e) s.registeredHolder).changingFirst
      "configuration" s.registeredHolder

/-- The scope without the elements that name a plugin which is not registered. An approach or a
reporter without any name stays: it is an error. -/
def registeredPart (s : Setup α ρ ω) (scope : Element) : Element :=
  (scope.changingFirst approachesTag s.registeredApproaches).changingFirst reportingTag
    s.registeredReporting

theorem sameHead_registeredFiltering (e : Element) : SameHead e (s.registeredFiltering e) :=
  ⟨rfl, rfl⟩

theorem sameHead_registeredApproaches (e : Element) : SameHead e (s.registeredApproaches e) :=
  ⟨rfl, rfl⟩

theorem sameHead_registeredHolder (e : Element) : SameHead e (s.registeredHolder e) :=
  ⟨rfl, rfl⟩

theorem sameHead_registeredReporting (e : Element) : SameHead e (s.registeredReporting e) :=
  ⟨rfl, rfl⟩

/-! ## What is found afterwards -/

theorem elements_registeredFiltering (filtering : Element) :
    (s.registeredFiltering filtering).elements =
      filtering.elements.filter fun e => s.catalog.acceptors.contains e.tag := by
  rw [registeredFiltering, elements_without]
  simp only [Bool.not_not]

theorem element?_registeredHolder (holder : Element) :
    (s.registeredHolder holder).element? filteringTag =
      (holder.element? filteringTag).map s.registeredFiltering :=
  element?_changingFirst sameHead_registeredFiltering holder filteringTag

theorem heldItems_approaches (scope : Element) :
    heldItems (s.registeredPart scope) approachesTag approachTag =
      (heldItems scope approachesTag approachTag).filter
        fun e => !s.catalog.approaches.lacks e := by
  have hfind : (s.registeredPart scope).element? approachesTag =
      (scope.element? approachesTag).map s.registeredApproaches := by
    rw [registeredPart, element?_changingFirst_of_ne sameHead_registeredReporting _ (by decide),
      element?_changingFirst sameHead_registeredApproaches]
  rw [heldItems_eq, heldItems_eq, sectionItems, sectionItems, hfind]
  cases scope.element? approachesTag with
  | none => rfl
  | some holder => exact (elementsNamed_without ..).trans (if_pos rfl)

theorem element?_reporting (scope : Element) :
    (s.registeredPart scope).element? reportingTag =
      (scope.element? reportingTag).map s.registeredReporting := by
  rw [registeredPart, element?_changingFirst sameHead_registeredReporting,
    element?_changingFirst_of_ne sameHead_registeredApproaches _ (by decide)]

theorem heldItems_reporters (scope : Element) :
    heldItems (s.registeredPart scope) reportingTag reporterTag =
      ((heldItems scope reportingTag reporterTag).filter fun e => !s.catalog.reporters.lacks e).map
        fun e => if s.catalog.reporters.knows e then s.registeredHolder e else e := by
  rw [heldItems_eq, heldItems_eq, sectionItems, sectionItems, element?_reporting]
  cases scope.element? reportingTag with
  | none => rfl
  | some reporting =>
    simp only [Option.map_some, registeredReporting]
    rw [elementsNamed_changingFirst_of_ne sameHead_registeredHolder _ (by decide),
      elementsNamed_changing sameHead_registeredHolder, if_pos rfl, elementsNamed_without,
      if_pos rfl]

theorem find?_registeredPart (scope : Element) :
    (s.registeredPart scope).find? defaultFilteringPath =
      (scope.find? defaultFilteringPath).map s.registeredFiltering := by
  rw [find?_defaultFilteringPath, find?_defaultFilteringPath, element?_reporting]
  cases scope.element? reportingTag with
  | none => rfl
  | some reporting =>
    have hholder : (s.registeredReporting reporting).element? "configuration" =
        (reporting.element? "configuration").map s.registeredHolder := by
      rw [registeredReporting, element?_changingFirst sameHead_registeredHolder,
        ← head?_elementsNamed, elementsNamed_changing sameHead_registeredHolder,
        if_neg (by decide), elementsNamed_without, if_neg (by decide), head?_elementsNamed]
    simp only [Option.map_some, Option.bind_some, hholder]
    cases reporting.element? "configuration" with
    | none => rfl
    | some holder => exact element?_registeredHolder holder

/-! ## What is built from it -/

theorem outcome_approaches_registeredPart (scope : Element) :
    (s.approaches (s.registeredPart scope)).outcome = (s.approaches scope).outcome := by
  rw [outcome_approaches, outcome_approaches, heldItems_approaches]
  apply filterMap_mapM_filter
  intro e he
  exact approach?_eq_ok_none_iff.2 (Registry.lacks_iff.1 (by simpa using he))

theorem panelOf_registered (filtering : Option Element) :
    s.panelOf (filtering.map s.registeredFiltering) = s.panelOf filtering := by
  cases filtering with
  | none => rfl
  | some filtering =>
    simp only [Option.map_some, panelOf, AcceptorRegistry.buildPanel, Traced.outcome_bind,
      elements_registeredFiltering, AcceptorRegistry.outcome_extend_filter]

theorem outcome_defaultPanel_registeredPart (scope : Element) :
    (s.defaultPanel (s.registeredPart scope)).outcome = (s.defaultPanel scope).outcome := by
  rw [outcome_defaultPanel, outcome_defaultPanel, find?_registeredPart, panelOf_registered]

theorem outcome_narrow_registered (reporter : String) (filtering : Option Element) (p : Panel) :
    (s.narrow reporter (filtering.map s.registeredFiltering) p).outcome =
      (s.narrow reporter filtering p).outcome := by
  cases filtering with
  | none => rfl
  | some filtering =>
    simp only [Option.map_some, narrow, elements_registeredFiltering]
    rw [List.filter_comm, AcceptorRegistry.outcome_extend_filter]

theorem outcome_reporter?_registered (hr : s.catalog.reporters.ReadsHeads) (scope : String)
    (p : Panel) (e : Element) :
    (s.reporter? scope p (s.registeredHolder e)).outcome = (s.reporter? scope p e).outcome := by
  rw [outcome_reporter?, outcome_reporter?, ← requiredName_eq (sameHead_registeredHolder e)]
  refine congrArg _ (funext fun name => ?_)
  rw [Registry.pick, Registry.pick]
  cases hget : s.catalog.reporters.get? name with
  | none => rfl
  | some factory =>
    simp only [← hr name factory hget _ _ (sameHead_registeredHolder e), element?_registeredHolder,
      outcome_narrow_registered]

theorem outcome_reporters_registeredPart (hr : s.catalog.reporters.ReadsHeads) (name : String)
    (scope : Element) (p : Panel) :
    (s.reporters name (s.registeredPart scope) p).outcome =
      (s.reporters name scope p).outcome := by
  have hitem : (fun e => (s.reporter? name p e).outcome) ∘
      (fun e => if s.catalog.reporters.knows e then s.registeredHolder e else e) =
        fun e => (s.reporter? name p e).outcome := by
    funext e
    simp only [Function.comp]
    split
    · exact outcome_reporter?_registered hr name p e
    · rfl
  have hnone : ∀ e, (!s.catalog.reporters.lacks e) = false →
      (s.reporter? name p e).outcome = .ok none := by
    intro e he
    exact reporter?_eq_ok_none_iff.2 (Registry.lacks_iff.1 (by simpa using he))
  -- the roster is made from what the loop gives, so it suffices to compare what the loops give
  have hloop := filterMap_mapM_filter (m := Except LoadError) hnone
    (heldItems scope reportingTag reporterTag)
  have hroster := congrArg (Roster.ofList <$> ·) hloop
  rw [outcome_reporters, outcome_reporters, heldItems_reporters, List.mapM_map, hitem]
  simpa only [Functor.map_map] using hroster

/-- Loading depends on the outcomes of its steps alone. -/
theorem outcome_load_congr {e e' : Element} (hhead : SameHead e e')
    (happroaches : (s.approaches e).outcome = (s.approaches e').outcome)
    (hpanel : (s.defaultPanel e).outcome = (s.defaultPanel e').outcome)
    (hreporters : ∀ name p, (s.reporters name e p).outcome = (s.reporters name e' p).outcome) :
    (s.load e).outcome = (s.load e').outcome := by
  cases hload : (s.load e').outcome with
  | ok scope =>
    rw [load_eq_ok_iff] at hload ⊢
    simpa only [hhead.name?_eq, happroaches, hpanel, hreporters] using hload
  | error error =>
    rw [load_eq_error_iff] at hload ⊢
    simpa only [hhead.name?_eq, requiredName_eq hhead, happroaches, hpanel, hreporters] using hload

/-- **Unregistered plugins leave no trace.** If the factories of reporters read the heads of their
elements only, then a scope element loads as it does without the elements of plugins that are not
registered, however malformed these are: to the same scope or the same error. -/
theorem load_registeredPart (hr : s.catalog.reporters.ReadsHeads) (e : Element) :
    (s.load (s.registeredPart e)).outcome = (s.load e).outcome :=
  outcome_load_congr ⟨rfl, rfl⟩ (outcome_approaches_registeredPart e)
    (outcome_defaultPanel_registeredPart e) fun name => outcome_reporters_registeredPart hr name e

end Setup

namespace Sample

/-- A scope of some approaches, default acceptors and reporters. -/
def scopeOf (approaches acceptors reporters : List Element) : Element :=
  ((Element.ofTag "scope").withAttribute "name" "lab").withChildren
    [(Element.ofTag "serverDetectionApproach").withChildren approaches,
      (Element.ofTag "reporting").withChildren <|
        reporters ++ [(Element.ofTag "configuration").withChildren
          [(Element.ofTag "filtering").withChildren acceptors]]]

/-- The default policy and a reporter's policy name a plugin that nobody registered, and so do an
approach and a reporter, which has a refused range besides. -/
def littered : Element :=
  scopeOf [approach "ghost", approach "probe"] [including "vendor" "range" "300.0.0.1"]
    [reporter "nobody" [including "ranges" "range" "300.0.0.1"],
      reporter "audit" [Element.ofTag "vendor", including "services" "service" "80"]]

theorem registeredPart_littered : labeled.registeredPart littered =
    scopeOf [approach "probe"] [] [reporter "audit" [including "services" "service" "80"]] := rfl

theorem load_registeredPart_littered : labeled.catalog.reporters.ReadsHeads ∧
    (labeled.load littered).outcome.isOk = true ∧
    (labeled.load (scopeOf [approach "probe"] []
      [reporter "audit" [including "services" "service" "80"]])).outcome =
        (labeled.load littered).outcome := by
  refine ⟨plain_labeled.reporters, by decide +kernel, ?_⟩
  rw [← registeredPart_littered]
  exact Setup.load_registeredPart plain_labeled.reporters littered

end Sample

end DiscoveryFilter
