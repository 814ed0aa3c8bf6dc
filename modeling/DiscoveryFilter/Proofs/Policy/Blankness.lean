import DiscoveryFilter.Proofs.Policy.Failure
import DiscoveryFilter.Proofs.Policy.Rewording

/-!
# Blank identifiers

A blank text identifies no item, and an item without a name is refused for it. A name is taken as
it was written, so a blank name is an identifier. For a range policy it stands for no address, and
for a service policy for the services whose name is empty.
-/

namespace DiscoveryFilter

open Text

namespace Element

/-- The item is identified by its name as it was written, or without a name by its trimmed text. -/
inductive Identifies (item : Element) : String → Prop
  | name {name : String} : item.name? = some name → Identifies item name
  | text {text : String} : item.name? = none → item.text = some text → ¬ Blank text.toList →
      Identifies item (trimmed text)

/-- The item has no name, and if it has a text, that is blank. -/
def Nameless (item : Element) : Prop :=
  item.name? = none ∧ ∀ text, item.text = some text → Blank text.toList

/-- The item has a name, and that is blank. -/
def BlankName (item : Element) : Prop :=
  ∃ name, item.name? = some name ∧ Blank name.toList

variable {item e : Element} {id listTag itemTag : String}

/-! ## The identifier of an item -/

theorem content?_eq_some_iff : item.content? = some id ↔
    ∃ text, item.text = some text ∧ ¬ Blank text.toList ∧ trimmed text = id := by
  unfold content?
  rw [Option.filter_eq_some_iff, Option.map_eq_some_iff]
  constructor
  · rintro ⟨⟨text, htext, rfl⟩, hne⟩
    exact ⟨text, htext, by simpa [trimmed_eq_empty_iff] using hne, rfl⟩
  · rintro ⟨text, htext, hblank, rfl⟩
    exact ⟨⟨text, htext, rfl⟩, by simpa [trimmed_eq_empty_iff] using hblank⟩

theorem identifier?_eq_some_iff : item.identifier? = some id ↔ item.Identifies id := by
  unfold identifier?
  constructor
  · intro h
    rcases Option.or_eq_some_iff.1 h with hname | ⟨hnone, hcontent⟩
    · exact .name hname
    · obtain ⟨text, htext, hblank, rfl⟩ := content?_eq_some_iff.1 hcontent
      exact .text hnone htext hblank
  · intro h
    cases h with
    | name hname => rw [hname, Option.some_or]
    | text hnone htext hblank =>
      rw [hnone, Option.none_or, content?_eq_some_iff]
      exact ⟨_, htext, hblank, rfl⟩

theorem identifier?_eq_none_iff : item.identifier? = none ↔ item.Nameless := by
  unfold identifier? Nameless
  rw [Option.or_eq_none_iff]
  refine and_congr Iff.rfl ?_
  rw [Option.eq_none_iff_forall_ne_some]
  simp only [ne_eq, content?_eq_some_iff]
  constructor
  · intro h text htext
    by_contra hblank
    exact h _ ⟨text, htext, hblank, rfl⟩
  · rintro h - ⟨text, htext, hblank, -⟩
    exact hblank (h text htext)

/-- A text that identifies an item is not blank, so a blank identifier is a name. -/
theorem blank_iff_of_identifies (h : item.Identifies id) : Blank id.toList ↔ item.BlankName := by
  cases h with
  | name hname =>
    constructor
    · intro hblank
      exact ⟨_, hname, hblank⟩
    · rintro ⟨name, hname', hblank⟩
      rw [hname] at hname'
      exact Option.some.inj hname' ▸ hblank
  | text hnone htext hblank =>
    constructor
    · intro htrimmed
      rw [toList_trimmed, blank_trim_iff] at htrimmed
      exact absurd htrimmed hblank
    · rintro ⟨name, hname, -⟩
      rw [hnone] at hname
      cases hname

/-! ## The identifiers of the lists -/

theorem identifiers_eq_ok_iff {ids : List String} : e.identifiers listTag itemTag = .ok ids ↔
    List.Forall₂ Identifies (e.listedItems listTag itemTag) ids := by
  refine mapM_eq_ok_iff.trans ⟨fun h => h.imp ?_, fun h => h.imp ?_⟩
  · intro item id hid
    cases hitem : item.identifier? with
    | none =>
      rw [hitem] at hid
      cases hid
    | some identifier =>
      rw [hitem] at hid
      rw [← Except.ok.inj hid]
      exact identifier?_eq_some_iff.1 hitem
  · intro item id hid
    rw [identifier?_eq_some_iff.2 hid]

/-- Of the identifiers of some items, only blank names are blank. -/
theorem exists_blank_iff {items : List Element} {ids : List String}
    (h : List.Forall₂ Identifies items ids) :
    (∃ id ∈ ids, Blank id.toList) ↔ ∃ item ∈ items, item.BlankName := by
  have hblank (item : Element) (id : String) (hid : item.Identifies id) :
      id.toList.all isBlank = true ↔ item.BlankName := by
    rw [List.all_eq_true]
    exact blank_iff_of_identifies hid
  rw [← any_iff_of_forall₂ h hblank, List.any_eq_true]
  simp only [List.all_eq_true, Blank]

theorem mem_listedItems_iff : item ∈ e.listedItems listTag itemTag ↔
    ∃ list ∈ e.elementsNamed listTag, item ∈ list.elementsNamed itemTag :=
  List.mem_flatMap

end Element

/-- The identifiers of a policy are those of its items. -/
theorem Identifiers.forall₂_of_ofElement {e : Element} {itemTag : String} {ids : Identifiers}
    (h : ofElement e itemTag = .ok ids) :
    List.Forall₂ Element.Identifies (e.policyItems itemTag) (ids.includes ++ ids.excludes) := by
  obtain ⟨includes, hincludes, h⟩ := bind_eq_ok_iff.1 h
  obtain ⟨excludes, hexcludes, h⟩ := bind_eq_ok_iff.1 h
  obtain rfl := Except.ok.inj h
  exact List.rel_append (Element.identifiers_eq_ok_iff.1 hincludes)
    (Element.identifiers_eq_ok_iff.1 hexcludes)

/-! ## What a blank identifier stands for -/

section BlankIdentifiers

variable {id : String}

theorem RangeSet.parse_of_blank (h : Blank id.toList) : RangeSet.parse id = .ok RangeSet.empty := by
  rw [← parse_trimmed, trimmed_eq_empty_iff.2 h]
  rfl

theorem not_refusesIdentifier_of_blank (h : Blank id.toList) (cause : RangeError) :
    ¬ RefusesIdentifier id cause := by
  rintro ⟨-, hparse⟩
  rw [RangeSet.parse_trimmed, RangeSet.parse_of_blank h] at hparse
  cases hparse

theorem not_namesNode_of_blank (h : Blank id.toList) (site : Site) (n : Node) :
    ¬ NamesNode site n (trimmed id) := by
  rw [trimmed_eq_empty_iff.2 h]
  rintro ⟨ranges, hparse, hcontains⟩
  obtain rfl := Except.ok.inj hparse
  cases hn : n.address <;> rw [hn] at hcontains <;> cases hcontains

theorem namesPort_iff_of_blank (h : Blank id.toList) (directory : PortDirectory) (port : Port) :
    NamesPort directory port (trimmed id) ↔ port ∈ directory.portsFor "" := by
  rw [trimmed_eq_empty_iff.2 h, namesPort_iff_of_ne (by decide) (by decide)]
  rfl

end BlankIdentifiers

/-- **Blank texts are refused, blank names are not.** The items in the lists of an element are read
unless one has neither a name nor a text beyond blanks. Their identifiers then stand in document
order, and a blank one among them, which a policy may be built from, is a blank name. As a range
identifier it is never refused and names no node. As a service identifier it names the ports of the
services whose name is empty. -/
theorem Element.identifiers_blank_as_names (e : Element) (listTag itemTag : String) :
    (∀ cause, e.identifiers listTag itemTag = .error cause ↔
      (∃ list ∈ e.elementsNamed listTag, ∃ item ∈ list.elementsNamed itemTag, item.Nameless) ∧
        cause = .missingAttribute itemTag "name or text") ∧
    (∀ ids, e.identifiers listTag itemTag = .ok ids ↔
      List.Forall₂ Identifies
        ((e.elementsNamed listTag).flatMap fun list => list.elementsNamed itemTag) ids) ∧
    (∀ ids, e.identifiers listTag itemTag = .ok ids →
      ((∃ id ∈ ids, Blank id.toList) ↔
        ∃ list ∈ e.elementsNamed listTag, ∃ item ∈ list.elementsNamed itemTag, item.BlankName)) ∧
    (∀ ids, Identifiers.ofElement e itemTag = .ok ids →
      ((∃ id ∈ ids.includes ++ ids.excludes, Blank id.toList) ↔
        ∃ item ∈ e.policyItems itemTag, item.BlankName)) ∧
    ∀ id : String, Blank id.toList →
      (∀ cause, ¬ RefusesIdentifier id cause) ∧ (∀ site n, ¬ NamesNode site n (trimmed id)) ∧
        ∀ directory port,
          NamesPort directory port (trimmed id) ↔ port ∈ directory.portsFor "" := by
  have hitems (P : Element → Prop) : (∃ item ∈ e.listedItems listTag itemTag, P item) ↔
      ∃ list ∈ e.elementsNamed listTag, ∃ item ∈ list.elementsNamed itemTag, P item := by
    simp only [mem_listedItems_iff]
    tauto
  refine ⟨fun cause => ?_, fun ids => identifiers_eq_ok_iff, fun ids hids => ?_, fun ids hids => ?_,
    fun id hid => ⟨not_refusesIdentifier_of_blank hid, not_namesNode_of_blank hid,
      namesPort_iff_of_blank hid⟩⟩
  · rw [identifiers_eq_error_iff, ← hitems]
    simp only [identifier?_eq_none_iff]
  · rw [← hitems]
    exact exists_blank_iff (identifiers_eq_ok_iff.1 hids)
  · exact exists_blank_iff (Identifiers.forall₂_of_ofElement hids)

namespace Sample

/-- A range element with a blank name to include. -/
def blankRanges : Element :=
  (Element.ofTag "ranges").withChildren
    [(Element.ofTag "include").withChildren
      [(Element.ofTag "range").withAttribute "name" "   "]]

theorem identifiers_blank_as_names_ranges :
    blankRanges.identifiers "include" "range" = .ok ["   "] ∧
      (∃ list ∈ blankRanges.elementsNamed "include", ∃ item ∈ list.elementsNamed "range",
        item.BlankName) ∧
      ∃ item ∈ blankRanges.policyItems "range", item.BlankName := by
  obtain ⟨-, -, hlist, hpolicy, -⟩ :=
    Element.identifiers_blank_as_names blankRanges "include" "range"
  have hids : blankRanges.identifiers "include" "range" = .ok ["   "] := rfl
  have hboth : Identifiers.ofElement blankRanges "range" = .ok ⟨["   "], []⟩ := rfl
  have hblank : ∃ id ∈ ["   "], Blank id.toList := ⟨_, List.mem_singleton_self _, by decide⟩
  exact ⟨hids, (hlist _ hids).1 hblank, (hpolicy _ hboth).1 hblank⟩

/-- A blank name is taken, and the range policy that is built from it rejects every node. -/
theorem blank_name_taken :
    Blank "   ".toList ∧ blankRanges.identifiers "include" "range" = .ok ["   "] ∧
      ∃ acceptor, (Acceptor.rangeFactory blankRanges branch).outcome = .ok acceptor ∧
        ∀ n, acceptor.rejects (.node n) = true := by
  refine ⟨by decide, rfl, .range ⟨[.within RangeSet.empty], []⟩, rfl, fun n => ?_⟩
  have hholds : (Criterion.within RangeSet.empty).holds n = false := by
    show RangeSet.empty.contains n.address = false
    cases n.address <;> rfl
  simp [RangePolicy.acceptsNode, RangePolicy.isRoleSensitive, Criterion.isRoleSensitive, hholds]

end Sample

end DiscoveryFilter
