import DiscoveryFilter.Element.Basic

/-!
# What look-ups find

Every look-up goes by the tags of the children that count. Here it is told by the children as they
are written: which of them count, those of one tag, and the first of these, which is the one that
is meant wherever a single element is asked for.
-/

namespace DiscoveryFilter

namespace Element

/-- The element is no comment, and no `active` attribute switches it off. -/
def counts (e : Element) : Bool :=
  e.tag != "#comment" && e.attributes["active"]?.all fun value =>
    String.ofList ((Text.trim value.toList).map Char.toLower) ∉ ["false", "0", "no", "off"]

/-- The children of a tag that count, in their order. -/
def tagged (e : Element) (tag : String) : List Element :=
  e.children.filter fun c => c.counts && c.tag == tag

theorem contains_offValues (value : List Char) : offValues.contains value =
    decide (String.ofList value ∈ ["false", "0", "no", "off"]) := by
  rw [Bool.eq_iff_iff, List.contains_iff_mem, decide_eq_true_iff, offValues, List.mem_map]
  constructor
  · rintro ⟨text, htext, rfl⟩
    rwa [String.ofList_toList]
  · intro htext
    exact ⟨_, htext, String.toList_ofList⟩

theorem counts_eq (e : Element) : e.counts = (!e.isComment && e.isActive) := by
  rw [counts, isComment, isActive, attribute?]
  congr 1
  cases h : e.attributes["active"]? with
  | none => simp [activeAttribute, h]
  | some value =>
    simp only [activeAttribute, h, contains_offValues, Option.all_some, decide_not]

theorem elements_eq_filter (e : Element) : e.elements = e.children.filter counts := by
  rw [elements]
  exact List.filter_congr fun c _ => c.counts_eq.symm

theorem elementsNamed_eq_tagged (e : Element) (tag : String) :
    e.elementsNamed tag = e.tagged tag := by
  rw [elementsNamed, elements_eq_filter, List.filter_filter]
  simp only [tagged, Bool.and_comm]

theorem element?_eq_head? (e : Element) (tag : String) :
    e.element? tag = (e.tagged tag).head? := by
  rw [← elementsNamed_eq_tagged]
  exact List.head?_filter.symm

/-- An element is bare unless one of its children counts. -/
theorem not_isBare_eq_any (e : Element) : (!e.isBare) = e.children.any counts := by
  rw [Bool.eq_iff_iff, List.any_eq_true]
  simp only [isBare, elements_eq_filter, Bool.not_eq_true', List.isEmpty_eq_false_iff_exists_mem,
    List.mem_filter]

end Element

end DiscoveryFilter
