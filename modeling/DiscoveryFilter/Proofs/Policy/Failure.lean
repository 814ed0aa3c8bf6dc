import DiscoveryFilter.Proofs.Log.FirstFailure
import DiscoveryFilter.Proofs.Policy.Services

/-!
# Elements that no policy is built from

A range element is refused for an item without an identifier or for an identifier that is neither a
symbol nor a range set; a service element only for an item without an identifier. What is to be
included is read before what is to be excluded, wherever the lists stand in the element, and all
items are read before the first identifier is resolved.
-/

namespace DiscoveryFilter

open Text

namespace Element

/-- The items in the lists of a policy, those to include first. -/
def policyItems (e : Element) (itemTag : String) : List Element :=
  e.listedItems Identifiers.includeTag itemTag ++ e.listedItems Identifiers.excludeTag itemTag

/-- The identifiers in the lists of a policy, those to include first. -/
def policyIdentifiers (e : Element) (itemTag : String) : List String :=
  e.listed Identifiers.includeTag itemTag ++ e.listed Identifiers.excludeTag itemTag

end Element

/-- The identifier is none of the symbols, and its text is refused as that of a range set. -/
def RefusesIdentifier (identifier : String) (cause : RangeError) : Prop :=
  (∀ row ∈ RangeSymbol.table, trimmed identifier ≠ row.1) ∧
    RangeSet.parse (trimmed identifier) = .error cause

/-- The errors of a range element. -/
inductive RangesFail (e : Element) : PluginError → Prop
  | nameless : (∃ item ∈ e.policyItems "range", item.identifier? = none) →
      RangesFail e (.missingAttribute "range" "name or text")
  | refused {cause : RangeError} : (∀ item ∈ e.policyItems "range", item.identifier? ≠ none) →
      FirstFails RefusesIdentifier (e.policyIdentifiers "range") cause →
        RangesFail e (.range cause)

/-- The errors of a service element. -/
inductive ServicesFail (e : Element) : PluginError → Prop
  | nameless : (∃ item ∈ e.policyItems "service", item.identifier? = none) →
      ServicesFail e (.missingAttribute "service" "name or text")

/-! ## Reading the lists -/

theorem Element.identifiers_eq_error_iff {e : Element} {listTag itemTag : String}
    {cause : PluginError} : e.identifiers listTag itemTag = .error cause ↔
      (∃ item ∈ e.listedItems listTag itemTag, item.identifier? = none) ∧
        cause = .missingAttribute itemTag "name or text" := by
  refine mapM_eq_error_iff.trans
    ((FirstFails.congr fun item cause => ?_).trans FirstFails.and_eq_iff)
  cases item.identifier? with
  | none => simp [eq_comm]
  | some identifier => simp

namespace Identifiers

variable {e : Element} {itemTag : String}

theorem ofElement_eq_error_iff {cause : PluginError} : ofElement e itemTag = .error cause ↔
    (∃ item ∈ e.policyItems itemTag, item.identifier? = none) ∧
      cause = .missingAttribute itemTag "name or text" := by
  have hsplit : (∃ item ∈ e.policyItems itemTag, item.identifier? = none) ↔
      (∃ item ∈ e.listedItems includeTag itemTag, item.identifier? = none) ∨
        ∃ item ∈ e.listedItems excludeTag itemTag, item.identifier? = none := by
    simp only [Element.policyItems, List.mem_append, or_and_right, exists_or]
  have hincludes : (∃ ids, e.identifiers includeTag itemTag = .ok ids) ↔
      ¬ ∃ item ∈ e.listedItems includeTag itemTag, item.identifier? = none := by
    simp only [exists_ok_iff, ne_eq, Element.identifiers_eq_error_iff,
      FirstFails.forall_not_and_eq_iff]
  unfold ofElement
  rw [bind_eq_error_iff, hsplit]
  simp only [bind_eq_error_iff, Element.identifiers_eq_error_iff, pure, Except.pure, reduceCtorEq,
    and_false, exists_false, or_false, exists_and_right, hincludes]
  by_cases hnone : ∃ item ∈ e.listedItems includeTag itemTag, item.identifier? = none
  · simp only [hnone, true_and, not_true, false_and, or_false, true_or]
  · simp only [hnone, true_and, not_false_eq_true, false_and, false_or]

/-- The lists are read if every item has an identifier. -/
theorem ofElement_eq_ok_of_forall (h : ∀ item ∈ e.policyItems itemTag, item.identifier? ≠ none) :
    ofElement e itemTag = .ok ⟨e.listed includeTag itemTag, e.listed excludeTag itemTag⟩ := by
  have hok : ∃ ids, ofElement e itemTag = .ok ids := by
    rw [exists_ok_iff]
    intro cause hcause
    obtain ⟨⟨item, hitem, hnone⟩, -⟩ := ofElement_eq_error_iff.1 hcause
    exact h item hitem hnone
  obtain ⟨ids, hids⟩ := hok
  rw [hids, ofElement_eq_ok hids]

end Identifiers

/-! ## Resolving identifiers -/

theorem Criterion.ofIdentifier_eq_error_iff {site : Site} {identifier : String}
    {cause : RangeError} :
    ofIdentifier site identifier = .error cause ↔ RefusesIdentifier identifier cause := by
  unfold ofIdentifier RefusesIdentifier
  rw [← RangeSymbol.ofIdentifier?_eq_none_iff]
  cases RangeSymbol.ofIdentifier? identifier with
  | some symbol => simp
  | none => simp [map_eq_error_iff]

/-- The first identifier that is refused stops the build, one to include before any to exclude. -/
theorem RangePolicy.build_eq_error_iff {site : Site} {ids : Identifiers} {cause : RangeError} :
    (build site ids).outcome = .error cause ↔
      FirstFails RefusesIdentifier (ids.includes ++ ids.excludes) cause := by
  have hmapM (ids : List String) (cause : RangeError) :
      (ids.mapM (Criterion.resolve site)).outcome = .error cause ↔
        FirstFails RefusesIdentifier ids cause := by
    simp only [Traced.outcome_mapM, mapM_eq_error_iff, Criterion.resolve,
      Criterion.ofIdentifier_eq_error_iff]
  have hincludes (cause : RangeError) : (if ids.includes.isEmpty = true
        then pure [Criterion.within site.managed]
        else ids.includes.mapM (Criterion.resolve site) :
          Traced BuildEvent RangeError (List Criterion)).outcome = .error cause ↔
        FirstFails RefusesIdentifier ids.includes cause := by
    cases hids : ids.includes with
    | nil =>
      constructor
      · intro h
        cases h
      · rintro ⟨⟩
    | cons id rest =>
      rw [List.isEmpty_cons, if_neg Bool.false_ne_true]
      exact hmapM (id :: rest) cause
  rw [build_eq_bind, Traced.outcome_bind_eq_error_iff, hincludes, FirstFails.append_iff,
    ← FirstFails.forall_not_iff]
  simp only [← hincludes, ← ne_eq, ← exists_ok_iff]
  simp only [Traced.outcome_bind_eq_error_iff, hmapM, Traced.outcome_tell, Traced.outcome_pure,
    reduceCtorEq, and_false, exists_false, or_false, exists_and_right]

/-! ## The elements -/

/-- The errors of a range element do not depend on the site. -/
theorem rangeFactory_eq_error_iff {site : Site} {e : Element} {cause : PluginError} :
    (Acceptor.rangeFactory e site).outcome = .error cause ↔ RangesFail e cause := by
  unfold Acceptor.rangeFactory
  simp only [Traced.outcome_bind_eq_error_iff, Traced.outcome_ofExcept, Traced.outcome_map,
    Traced.outcome_mapError, map_eq_error_iff, mapError_eq_error_iff,
    RangePolicy.build_eq_error_iff]
  constructor
  · rintro (h | ⟨ids, hids, error, hbuild, rfl⟩)
    · obtain ⟨hitem, rfl⟩ := Identifiers.ofElement_eq_error_iff.1 h
      exact .nameless hitem
    · obtain rfl := Identifiers.ofElement_eq_ok hids
      refine .refused (fun item hitem hnone => ?_) hbuild
      have herror := Identifiers.ofElement_eq_error_iff.2 ⟨⟨item, hitem, hnone⟩, rfl⟩
      rw [RangePolicy.itemTag, herror] at hids
      cases hids
  · rintro (hitem | ⟨hitems, hfirst⟩)
    · exact .inl (Identifiers.ofElement_eq_error_iff.2 ⟨hitem, rfl⟩)
    · exact .inr ⟨_, Identifiers.ofElement_eq_ok_of_forall hitems, _, hfirst, rfl⟩

theorem serviceFactory_eq_error_iff {site : Site} {e : Element} {cause : PluginError} :
    (Acceptor.serviceFactory e site).outcome = .error cause ↔ ServicesFail e cause := by
  have hbuild (ids : Identifiers) (cause : PluginError) :
      (ServicePolicy.build site.ports ids).outcome ≠ .error cause := by
    intro h
    cases h
  unfold Acceptor.serviceFactory
  simp only [Traced.outcome_bind_eq_error_iff, Traced.outcome_ofExcept, Traced.outcome_map,
    map_eq_error_iff, hbuild, and_false, exists_false, or_false,
    Identifiers.ofElement_eq_error_iff]
  constructor
  · rintro ⟨hitem, rfl⟩
    exact .nameless hitem
  · rintro ⟨hitem⟩
    exact ⟨hitem, rfl⟩

end DiscoveryFilter
