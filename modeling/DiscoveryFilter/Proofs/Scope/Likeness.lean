import DiscoveryFilter.Proofs.Element.Likeness
import DiscoveryFilter.Proofs.Scope.Layers

/-!
# Catalogs that read little of an element

The built-in factories of acceptors look elements up by tag and read nothing else, and most
factories of approaches and reporters read the head of their element only. With such a catalog
like elements build the same acceptors and the same approaches.
-/

namespace DiscoveryFilter

open Element

/-- No factory reads more of an element than its head. -/
def Registry.ReadsHeads {kind : PluginKind} {α : Type} (r : Registry kind (Factory α)) : Prop :=
  ∀ name factory, r.get? name = some factory → ∀ e e' : Element, SameHead e e' →
    ∀ site, factory e site = factory e' site

/-- Every factory is a built-in one, under whatever name. -/
def AcceptorRegistry.BuiltIn (r : AcceptorRegistry) : Prop :=
  ∀ name factory, r.get? name = some factory →
    factory = Acceptor.rangeFactory ∨ factory = Acceptor.serviceFactory

/-- Acceptors are built in, and approaches and reporters depend on the heads of elements alone. -/
structure Catalog.Plain {α ρ : Type} (c : Catalog α ρ) : Prop where
  acceptors : c.acceptors.BuiltIn
  approaches : c.approaches.ReadsHeads
  reporters : c.reporters.ReadsHeads

namespace Registry

variable {kind : PluginKind} {α : Type} {r : Registry kind (Factory α)} {site : Site}
  {e e' : Element}

theorem misses_iff_of_sameHead (h : SameHead e e') : r.Misses e ↔ r.Misses e' := by
  rw [Misses, Misses, h.name?_eq]

theorem ReadsHeads.makes_iff (hr : r.ReadsHeads) (h : SameHead e e') {entry : String × α} :
    r.Makes site e entry ↔ r.Makes site e' entry := by
  rw [Makes, Makes, h.name?_eq]
  refine and_congr_right fun _ => exists_congr fun factory => and_congr_right fun hget => ?_
  rw [hr _ _ hget e e' h site]

theorem mem_of_get?_ofList {φ : Type} {entries : List (String × φ)} {name : String} {factory : φ}
    (h : (ofList entries : Registry kind φ).get? name = some factory) :
    (name, factory) ∈ entries := by
  have hlast := (get_foldl_put get?_register empty entries name).symm.trans h
  rw [get?_empty, Option.or_none] at hlast
  obtain ⟨entry, hentry, rfl⟩ := Option.map_eq_some_iff.1 hlast
  obtain ⟨hmem, hname⟩ := List.mem_filter.1 (List.mem_of_getLast? hentry)
  rwa [← beq_iff_eq.1 hname]

end Registry

namespace AcceptorRegistry

variable {R : Element → Element → Prop} {r : AcceptorRegistry} {site : Site} {e e' : Element}

theorem rangeFactory_eq (hR : Likeness R) (h : R e e') :
    Acceptor.rangeFactory e site = Acceptor.rangeFactory e' site := by
  simp only [Acceptor.rangeFactory, hR.ofElement_eq h]

theorem serviceFactory_eq (hR : Likeness R) (h : R e e') :
    Acceptor.serviceFactory e site = Acceptor.serviceFactory e' site := by
  simp only [Acceptor.serviceFactory, hR.ofElement_eq h]

theorem builtIn_standard : standard.BuiltIn := by
  intro name factory hget
  have hmem := Registry.mem_of_get?_ofList hget
  simp only [List.mem_cons, Prod.mk.injEq, List.not_mem_nil, or_false] at hmem
  exact hmem.imp And.right And.right

/-- Like elements build the same acceptor. -/
theorem BuiltIn.build_eq (hr : r.BuiltIn) (hR : Likeness R) (h : R e e') :
    r.build e site = r.build e' site := by
  simp only [build, Registry.find, (hR.sameHead h).tag]
  cases hget : r.get? e'.tag with
  | none => rfl
  | some factory =>
    rcases hr _ _ hget with rfl | rfl
    · exact rangeFactory_eq hR h
    · exact serviceFactory_eq hR h

end AcceptorRegistry

namespace Setup

variable {α ρ ω : Type} {s : Setup α ρ ω} {R : Element → Element → Prop} {e e' : Element}

theorem requiredName_eq (h : SameHead e e') (tag : String) :
    requiredName e tag = requiredName e' tag := by
  rw [requiredName, requiredName, h.name?_eq]

theorem heldItems_like (hR : Likeness R) (h : R e e') (holderTag itemTag : String) :
    List.Forall₂ R (heldItems e holderTag itemTag) (heldItems e' holderTag itemTag) := by
  have hholder := hR.element? h holderTag
  rw [heldItems_eq, heldItems_eq]
  unfold sectionItems
  generalize e.element? holderTag = holder at hholder ⊢
  generalize e'.element? holderTag = holder' at hholder ⊢
  cases hholder with
  | none => exact .nil
  | some hheld => exact hR.elementsNamed hheld itemTag

theorem approach?_eq (hr : s.catalog.approaches.ReadsHeads) (h : SameHead e e') :
    s.approach? e = s.approach? e' := by
  rw [approach?, approach?, requiredName_eq h]
  refine congrArg _ (funext fun name => ?_)
  rw [Registry.find]
  cases hget : s.catalog.approaches.get? name with
  | none => rfl
  | some factory => simp only [hr name factory hget e e' h]

/-- Like scopes have the same approaches. -/
theorem approaches_eq (hr : s.catalog.approaches.ReadsHeads) (hR : Likeness R) (h : R e e') :
    s.approaches e = s.approaches e' := by
  have hitems := (heldItems_like hR h approachesTag approachTag).imp fun d d' hd =>
    approach?_eq (s := s) hr (hR.sameHead hd)
  rw [approaches, approaches, ← heldItems_eq, ← heldItems_eq, mapM_eq_of_forall₂ hitems]

theorem scopesElement?_like (hR : Likeness R) (h : R e e') :
    Option.Rel R (scopesElement? e) (scopesElement? e') := by
  rw [scopesElement?, scopesElement?, (hR.sameHead h).tag]
  split
  · exact .some h
  · exact hR.element? h scopesTag

end Setup

namespace Sample

/-- A document of scopes. -/
def document (scopes : List Element) : Element :=
  (Element.ofTag "configuration").withChildren [(Element.ofTag "scopes").withChildren scopes]

/-- Makes a plugin that knows the label on its element. -/
def labelFactory : Factory (Option String) :=
  fun e _ => pure (e.attribute? "label")

/-- A setup whose approaches and reporters read a label, and whose caller gives no acceptors. -/
def labeled : Setup (Option String) (Option String) Unit where
  catalog :=
    { acceptors := .standard
      approaches := Registry.ofList [("probe", labelFactory)]
      reporters := Registry.ofList [("audit", labelFactory), ("cmdb", labelFactory)] }
  site := site
  overrides := Overrides.empty
  observers := []

theorem labelFactory_eq {e e' : Element} (h : SameHead e e') (site : Site) :
    labelFactory e site = labelFactory e' site := by
  simp only [labelFactory, attribute?, h.attributes]

theorem plain_labeled : labeled.catalog.Plain where
  acceptors := AcceptorRegistry.builtIn_standard
  approaches := by
    intro name factory hget e e' h site
    have hmem := Registry.mem_of_get?_ofList hget
    simp only [List.mem_singleton, Prod.mk.injEq] at hmem
    rw [hmem.2, labelFactory_eq h]
  reporters := by
    intro name factory hget e e' h site
    have hmem := Registry.mem_of_get?_ofList hget
    simp only [List.mem_cons, Prod.mk.injEq, List.not_mem_nil, or_false, ← or_and_right] at hmem
    rw [hmem.2, labelFactory_eq h]

end Sample

end DiscoveryFilter
