import DiscoveryFilter.Policy.Identifiers
import DiscoveryFilter.Proofs.Element.Lookup
import DiscoveryFilter.Proofs.Log.Outcome

/-!
# Like elements

Whoever reads a configuration looks elements up by their tags among those that count. A `Likeness`
is a relation between elements that such look-ups keep: like elements have the same head and text,
and under each tag they hold like elements in the same order. So they have like elements at the end
of every path, and the same identifiers.
-/

namespace DiscoveryFilter

namespace Element

/-- The elements have the same tag and the same attributes. -/
structure SameHead (e e' : Element) : Prop where
  tag : e.tag = e'.tag
  attributes : e.attributes = e'.attributes

namespace SameHead

variable {e e' : Element}

theorem name?_eq (h : SameHead e e') : e.name? = e'.name? := by
  rw [name?, attribute?, h.attributes]
  rfl

theorem counts_eq (h : SameHead e e') : e.counts = e'.counts := by
  rw [counts, counts, h.tag, h.attributes]

end SameHead

/-- Look-ups by tag keep the relation. -/
structure Likeness (R : Element → Element → Prop) : Prop where
  sameHead : ∀ {e e' : Element}, R e e' → SameHead e e'
  text : ∀ {e e' : Element}, R e e' → e.text = e'.text
  elementsNamed : ∀ {e e' : Element}, R e e' → ∀ tag,
    List.Forall₂ R (e.elementsNamed tag) (e'.elementsNamed tag)

theorem head?_elementsNamed (e : Element) (tag : String) :
    (e.elementsNamed tag).head? = e.element? tag :=
  List.head?_filter

/-- An element is bare if it holds no element of any tag. -/
theorem isBare_iff {e : Element} : e.isBare = true ↔ ∀ tag, e.elementsNamed tag = [] := by
  rw [isBare, List.isEmpty_iff]
  constructor
  · intro h tag
    rw [elementsNamed, h, List.filter_nil]
  · intro h
    apply List.eq_nil_iff_forall_not_mem.2
    intro child hchild
    have hmem : child ∈ e.elementsNamed child.tag :=
      List.mem_filter.2 ⟨hchild, beq_self_eq_true child.tag⟩
    rw [h child.tag] at hmem
    cases hmem

namespace Likeness

variable {R : Element → Element → Prop} (hR : Likeness R) {e e' : Element} (h : R e e')
include hR h

theorem identifier?_eq : e.identifier? = e'.identifier? := by
  rw [identifier?, identifier?, content?, content?, (hR.sameHead h).name?_eq, hR.text h]

theorem element? (tag : String) : Option.Rel R (e.element? tag) (e'.element? tag) := by
  rw [← head?_elementsNamed, ← head?_elementsNamed]
  exact head?_of_forall₂ (hR.elementsNamed h tag)

theorem descend? (tags : List String) : Option.Rel R (e.descend? tags) (e'.descend? tags) := by
  induction tags generalizing e e' with
  | nil => exact .some h
  | cons tag tags ih =>
    have hstep := hR.element? h tag
    simp only [Element.descend?, List.foldlM_cons] at ih ⊢
    generalize e.element? tag = child at hstep ⊢
    generalize e'.element? tag = child' at hstep ⊢
    cases hstep with
    | none => exact .none
    | some hchild => exact ih hchild

theorem find? (path : String) : Option.Rel R (e.find? path) (e'.find? path) :=
  hR.descend? h (segments path)

theorem isBare_eq : e.isBare = e'.isBare := by
  rw [Bool.eq_iff_iff, isBare_iff, isBare_iff]
  refine forall_congr' fun tag => ?_
  have hnamed := hR.elementsNamed h tag
  constructor
  · intro hnil
    rw [hnil] at hnamed
    exact List.forall₂_nil_left_iff.1 hnamed
  · intro hnil
    rw [hnil] at hnamed
    exact List.forall₂_nil_right_iff.1 hnamed

theorem listedItems (listTag itemTag : String) :
    List.Forall₂ R (e.listedItems listTag itemTag) (e'.listedItems listTag itemTag) :=
  List.rel_flatMap (hR.elementsNamed h listTag) fun _ _ hlist => hR.elementsNamed hlist itemTag

theorem identifiers_eq (listTag itemTag : String) :
    e.identifiers listTag itemTag = e'.identifiers listTag itemTag := by
  apply mapM_eq_of_forall₂
  refine (hR.listedItems h listTag itemTag).imp fun item item' hitem => ?_
  rw [hR.identifier?_eq hitem]

theorem ofElement_eq (itemTag : String) :
    Identifiers.ofElement e itemTag = Identifiers.ofElement e' itemTag := by
  simp only [Identifiers.ofElement, hR.identifiers_eq h]

end Likeness

end Element

end DiscoveryFilter
