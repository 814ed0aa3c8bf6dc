import DiscoveryFilter.Proofs.Scope.Likeness

/-!
# Comments and inactive elements

`Element.pruned` is an element without the comments and the inactive elements below it, at every
depth. `Setup.load_pruned` and what follows from it say that loading cannot tell the two apart:
scopes, errors and even the events on the way are the same.
-/

namespace DiscoveryFilter

namespace Element

mutual

/-- The element without what does not count below it, at every depth. -/
def pruned : Element → Element
  | mk tag attributes text children => mk tag attributes text (prunedAll children)

/-- The elements that count, each pruned. -/
def prunedAll : List Element → List Element
  | [] => []
  | e :: es => if e.counts then pruned e :: prunedAll es else prunedAll es

end

theorem prunedAll_eq_map (es : List Element) : prunedAll es = (es.filter counts).map pruned := by
  induction es with
  | nil => rfl
  | cons e es ih =>
    rw [prunedAll, List.filter_cons, ih]
    split <;> rfl

theorem sameHead_pruned (e : Element) : SameHead e e.pruned := by
  obtain ⟨tag, attributes, text, children⟩ := e
  exact ⟨rfl, rfl⟩

theorem children_pruned (e : Element) : e.pruned.children = e.elements.map pruned := by
  rw [elements_eq_filter]
  obtain ⟨tag, attributes, text, children⟩ := e
  exact prunedAll_eq_map children

/-- Everything that is left counts. -/
theorem elements_pruned (e : Element) : e.pruned.elements = e.elements.map pruned := by
  have hcounts : counts ∘ pruned = counts :=
    funext fun child => (sameHead_pruned child).counts_eq.symm
  rw [elements_eq_filter, children_pruned, List.filter_map, hcounts, elements_eq_filter,
    List.filter_filter]
  simp only [Bool.and_self]

/-- What pruning leaves is like what was there. -/
theorem likeness_pruned : Likeness fun e e' => e' = e.pruned where
  sameHead := by
    rintro e _ rfl
    exact sameHead_pruned e
  text := by
    rintro ⟨tag, attributes, text, children⟩ _ rfl
    rfl
  elementsNamed := by
    rintro e _ rfl tag
    have htag : (fun child : Element => child.tag == tag) ∘ pruned = fun child => child.tag == tag :=
      funext fun child => congrArg (· == tag) (sameHead_pruned child).tag.symm
    rw [elementsNamed, elementsNamed, elements_pruned, List.filter_map, htag,
      List.forall₂_map_right_iff]
    exact List.forall₂_same.2 fun child _ => rfl

end Element

open Element

/-! ## Panels -/

namespace AcceptorRegistry

variable {r : AcceptorRegistry} {site : Site}

theorem extend_pruned (hr : r.BuiltIn) (rename : String → String)
    (skipped : PluginError → String → Event) (p : Panel) (es : List Element) :
    r.extend site rename skipped p (es.map pruned) = r.extend site rename skipped p es := by
  have hstep (p : Panel) (e : Element) :
      r.extendBy site rename skipped p e.pruned = r.extendBy site rename skipped p e := by
    rw [extendBy, extendBy, ← hr.build_eq likeness_pruned rfl, ← (sameHead_pruned e).tag]
  simp only [extend, List.foldlM_map, hstep]

theorem buildPanel_pruned (hr : r.BuiltIn) (filtering : Element) :
    r.buildPanel filtering.pruned site = r.buildPanel filtering site := by
  rw [buildPanel, buildPanel, elements_pruned, extend_pruned hr]

end AcceptorRegistry

namespace Setup

variable {α ρ ω : Type} {s : Setup α ρ ω}

theorem defaultPanel_pruned (hr : s.catalog.acceptors.BuiltIn) (e : Element) :
    s.defaultPanel e.pruned = s.defaultPanel e := by
  have hfind := likeness_pruned.find? (e := e) rfl defaultFilteringPath
  unfold defaultPanel
  generalize e.find? defaultFilteringPath = filtering at hfind ⊢
  generalize e.pruned.find? defaultFilteringPath = filtering' at hfind ⊢
  cases hfind with
  | none => rfl
  | some h => simp only [h, AcceptorRegistry.buildPanel_pruned hr]

theorem narrow_pruned (hr : s.catalog.acceptors.BuiltIn) (reporter : String) (p : Panel)
    (e : Element) : s.narrow reporter (e.pruned.element? filteringTag) p =
      s.narrow reporter (e.element? filteringTag) p := by
  have hfind := likeness_pruned.element? (e := e) rfl filteringTag
  generalize e.element? filteringTag = filtering at hfind ⊢
  generalize e.pruned.element? filteringTag = filtering' at hfind ⊢
  cases hfind with
  | none => rfl
  | @some filtering _ h =>
    have hbare : (fun child : Element => !child.isBare) ∘ pruned = fun child => !child.isBare :=
      funext fun child => congrArg not (likeness_pruned.isBare_eq rfl).symm
    simp only [narrow, h, elements_pruned, List.filter_map, hbare,
      AcceptorRegistry.extend_pruned hr]

/-! ## Reporters and scopes -/

theorem reporter?_pruned (hc : s.catalog.Plain) (scope : String) (p : Panel) (e : Element) :
    s.reporter? scope p e.pruned = s.reporter? scope p e := by
  rw [reporter?, reporter?, ← requiredName_eq (sameHead_pruned e)]
  refine congrArg _ (funext fun name => ?_)
  rw [Registry.find]
  cases hget : s.catalog.reporters.get? name with
  | none => rfl
  | some factory =>
    simp only [hc.reporters name factory hget _ _ (sameHead_pruned e), narrow_pruned hc.acceptors]

theorem reporters_pruned (hc : s.catalog.Plain) (name : String) (e : Element) (p : Panel) :
    s.reporters name e.pruned p = s.reporters name e p := by
  have hitems : List.Forall₂ (fun d d' => s.reporter? name p d = s.reporter? name p d')
      (heldItems e reportingTag reporterTag) (heldItems e.pruned reportingTag reporterTag) := by
    refine (heldItems_like likeness_pruned rfl reportingTag reporterTag).imp ?_
    rintro d _ rfl
    exact (reporter?_pruned hc name p d).symm
  rw [reporters, reporters, ← heldItems_eq, ← heldItems_eq, mapM_eq_of_forall₂ hitems]

theorem load_pruned (hc : s.catalog.Plain) (e : Element) : s.load e.pruned = s.load e := by
  simp only [load, ← requiredName_eq (sameHead_pruned e),
    ← approaches_eq hc.approaches likeness_pruned rfl, defaultPanel_pruned hc.acceptors,
    reporters_pruned hc]

theorem loadAll_pruned (hc : s.catalog.Plain) (root : Element) :
    s.loadAll root.pruned = s.loadAll root := by
  have hholder := scopesElement?_like likeness_pruned (e := root) rfl
  unfold loadAll
  generalize scopesElement? root = holder at hholder ⊢
  generalize scopesElement? root.pruned = holder' at hholder ⊢
  cases hholder with
  | none => rfl
  | @some holder _ h =>
    subst h
    have hscopes : List.Forall₂ (fun d d' => ∀ loaded, s.loadNext loaded d = s.loadNext loaded d')
        (holder.elementsNamed scopeTag) (holder.pruned.elementsNamed scopeTag) := by
      refine (likeness_pruned.elementsNamed rfl scopeTag).imp ?_
      rintro d _ rfl loaded
      rw [loadNext, loadNext, load_pruned hc]
    simp only [foldlM_eq_of_forall₂ hscopes]

/-- **Comments and inactive elements are invisible.** If acceptors are built in and the factories of
approaches and reporters read the heads of their elements only, then documents and scopes load as
they do without what does not count at any depth: to the same scopes or the same error, and with
the same events. -/
theorem pruned_loads_alike (hc : s.catalog.Plain) :
    (∀ root, s.loadAll root.pruned = s.loadAll root) ∧ ∀ e, s.load e.pruned = s.load e :=
  ⟨loadAll_pruned hc, load_pruned hc⟩

end Setup

namespace Sample

/-- An element that is switched off. -/
def off (e : Element) : Element :=
  e.withAttribute "active" " No "

/-- The scope `lab` with comments and inactive elements in unusual places: inactive sections before
the active ones, a refused range in an inactive policy, an inactive reporter without a name, and an
element that holds nothing that counts. -/
def cluttered : Element :=
  ((Element.ofTag "scope").withAttribute "name" "lab").withChildren
    [Element.comment "approaches",
      off ((Element.ofTag "serverDetectionApproach").withChildren [Element.ofTag "approach"]),
      off (Element.ofTag "reporting"),
      (Element.ofTag "reporting").withChildren
        [off (Element.ofTag "configuration"),
          (Element.ofTag "configuration").withChildren
            [(Element.ofTag "filtering").withChildren
              [including "ranges" "range" "10.0.0.0/8",
                off (including "ranges" "range" "300.0.0.1"),
                (Element.ofTag "services").withChildren
                  [off ((Element.ofTag "include").withChildren [item "service" "80"]),
                    (Element.ofTag "include").withChildren
                      [Element.comment "every port", item "service" "*"]]]],
          reporter "audit" [including "ranges" "range" "10.0.7.0/24"],
          reporter "cmdb"
            [(Element.ofTag "ranges").withChildren
                [Element.comment "none", off (Element.ofTag "include")],
              including "services" "service" "80"],
          off (Element.ofTag "reporter"),
          reporter "audit" [including "ranges" "range" "*"]]]

example : cluttered.pruned = lab := rfl

theorem pruned_loads_alike_cluttered : labeled.catalog.Plain ∧
    labeled.loadAll (document [lab]) =
      labeled.loadAll (document [off lab, Element.comment "labs", cluttered]) ∧
    labeled.load lab = labeled.load cluttered := by
  obtain ⟨hdocuments, hscopes⟩ := Setup.pruned_loads_alike plain_labeled
  exact ⟨plain_labeled, hdocuments (document [off lab, Element.comment "labs", cluttered]),
    hscopes cluttered⟩

end Sample

end DiscoveryFilter
