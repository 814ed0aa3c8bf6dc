import DiscoveryFilter.Element.Json
import Mathlib.Data.List.Basic
import Mathlib.Data.List.Nodup

/-!
# What packages for JSON are relied on for

`Serde.Lawful` lists what is known of the packages that write and read elements: values of the
types of the fields come back as they were written, and a structure is an object whose members are
as the fields declare them. `Element.serde` is lawful: reading member by member comes to looking
each field up.
-/

namespace DiscoveryFilter

open Std

/-- The members for the fields of an element, in their order, without those that are left out. -/
def Serde.members (S : Serde) (e : Element) : List (String × Json) :=
  Element.tagField.member e.tag (S.string.write e.tag) ++
    Element.attributesField.member e.attributes (S.map.write e.attributes) ++
    Element.textField.member e.text (S.option.write e.text) ++
    Element.childrenField.member e.children ((S.list S.element).write e.children)

/-- What is relied on of the packages that write and read JSON. -/
structure Serde.Lawful (S : Serde) : Prop where
  /-- Texts, maps of texts and optional texts are read as they were written. -/
  read_string : ∀ s, S.string.read (S.string.write s) = some s
  read_map : ∀ m, S.map.read (S.map.write m) = some m
  read_option : ∀ o, S.option.read (S.option.write o) = some o
  /-- A list is an array of what its items are written as. -/
  write_list : ∀ coder es, (S.list coder).write es = .array (es.map coder.write)
  read_list : ∀ coder js, (S.list coder).read (.array js) = js.mapM coder.read
  /-- An element is an object with the members for its fields. -/
  write_element : ∀ e, S.element.write e = .object (S.members e)
  /-- An object without repeated members is read field by field. Missing fields have their defaults,
  and members that stand for no field are ignored. -/
  read_element : ∀ ms, (ms.map Prod.fst).Nodup → S.element.read (.object ms) = do
    let tag ← Element.tagField.of? S.string.read ms
    let attributes ← Element.attributesField.of? S.map.read ms
    let text ← Element.textField.of? S.option.read ms
    let children ← Element.childrenField.of? (S.list S.element).read ms
    return Element.mk tag attributes text children
  /-- A text is refused if 128 arrays and objects or more stand inside one another in it. -/
  read_text : ∀ e, S.readText (S.element.write e) =
    if (S.element.write e).nesting < 128 then S.element.read (S.element.write e) else none

namespace Element

/-! ## Writing -/

theorem toJsonAll_eq_map (es : List Element) : toJsonAll es = es.map toJson := by
  induction es with
  | nil => rfl
  | cons e es ih => rw [toJsonAll, List.map_cons, ih]

theorem toJson_eq (e : Element) : e.toJson = .object (serde.members e) := by
  obtain ⟨tag, attributes, text, children⟩ := e
  rw [toJson, toJsonAll_eq_map]
  rfl

/-! ## Attributes, texts and lists -/

theorem ofList_toList (attributes : ExtTreeMap String String) :
    ExtTreeMap.ofList attributes.toList = attributes := by
  refine ExtTreeMap.ext_getElem? fun key => ?_
  cases h : attributes[key]? with
  | none =>
    have hkey : (attributes.toList.map Prod.fst).contains key = false := by
      rw [ExtTreeMap.map_fst_toList_eq_keys]
      simpa using h
    exact ExtTreeMap.getElem?_ofList_of_contains_eq_false hkey
  | some value =>
    exact ExtTreeMap.getElem?_ofList_of_mem compare_self ExtTreeMap.distinct_keys_toList
      (ExtTreeMap.mem_toList_iff_getElem?_eq_some.2 h)

theorem attributesOfJson_attributesToJson (attributes : ExtTreeMap String String) :
    attributesOfJson (attributesToJson attributes) = some attributes := by
  have hmembers : ((attributes.toList.map fun a => (a.1, Json.string a.2)).mapM fun m =>
      m.2.string?.map fun value => (m.1, value)) = some attributes.toList := by
    rw [List.mapM_map]
    -- A member that stands for an attribute is always read, as the pair it was made from.
    change attributes.toList.mapM (fun a => pure (id a)) = pure attributes.toList
    rw [List.mapM_pure, List.map_id]
  rw [attributesToJson, attributesOfJson, hmembers]
  exact congrArg some (ofList_toList attributes)

theorem textOfJson_textToJson (text : Option String) :
    textOfJson (textToJson text) = some text := by
  cases text <;> rfl

theorem ofJsonAll_eq_mapM (js : List Json) : ofJsonAll js = js.mapM ofJson := by
  induction js with
  | nil => rfl
  | cons j js ih =>
    rw [ofJsonAll, List.mapM_cons, ih]
    cases ofJson j with
    | none => rfl
    | some e => cases js.mapM ofJson <;> rfl

/-! ## Reading member by member -/

/-- What a member makes of a place in a draft: it fills the place of its own field, if nothing is
there yet, and leaves every other one. -/
def placed {α : Type} (f : Field α) (read : Json → Option α) (place : Option α)
    (m : String × Json) : Option (Option α) :=
  if m.1 = f.name then Draft.fill place (read m.2) else some place

section Places

variable {α : Type} {place : Option α} {f : Field α} {read : Json → Option α}
  {ms : List (String × Json)} {name : String} {j : Json}

theorem fill_none : Draft.fill place none = none := by
  cases place <;> rfl

theorem placed_self : placed f read place (f.name, j) = Draft.fill place (read j) :=
  if_pos rfl

theorem placed_of_ne (h : name ≠ f.name) : placed f read place (name, j) = some place :=
  if_neg h

theorem foldlM_placed_of_not_mem (h : f.name ∉ ms.map Prod.fst) :
    ms.foldlM (placed f read) place = some place := by
  induction ms with
  | nil => rfl
  | cons m ms ih =>
    rw [List.map_cons, List.mem_cons, not_or] at h
    rw [List.foldlM_cons, placed_of_ne (Ne.symm h.1)]
    exact ih h.2

/-- If no member is repeated, a place is filled by the member of its field or by none. -/
theorem foldlM_placed (hnodup : (ms.map Prod.fst).Nodup) :
    ms.foldlM (placed f read) none =
      match ms.lookup f.name with
      | some j => (read j).map some
      | none => some none := by
  induction ms with
  | nil => rfl
  | cons m ms ih =>
    obtain ⟨name, j⟩ := m
    obtain ⟨hnew, hnodup'⟩ := List.nodup_cons.1 hnodup
    rw [List.foldlM_cons]
    by_cases hname : name = f.name
    · subst hname
      rw [placed_self, List.lookup_cons_self]
      show ((read j).map some).bind _ = (read j).map some
      cases read j with
      | none => rfl
      | some a => exact foldlM_placed_of_not_mem hnew
    · rw [placed_of_ne hname, List.lookup_cons, beq_false_of_ne (Ne.symm hname)]
      exact ih hnodup'

/-- The field itself, with its default, is what an empty place comes to. -/
theorem of?_eq_bind_foldlM (hnodup : (ms.map Prod.fst).Nodup) :
    f.of? read ms = (ms.foldlM (placed f read) none).bind fun place => place.or f.default? := by
  rw [Field.of?, foldlM_placed hnodup]
  cases ms.lookup f.name with
  | none => rfl
  | some j =>
    show read j = ((read j).map some).bind _
    cases read j <;> rfl

end Places

/-- The draft whose places are given, if they all are. -/
def draftOf (tag : Option (Option String)) (attributes : Option (Option (ExtTreeMap String String)))
    (text : Option (Option (Option String))) (children : Option (Option (List Element))) :
    Option Draft := do
  return { tag := ← tag, attributes := ← attributes, text := ← text, children := ← children }

section Drafts

variable {tag : Option (Option String)} {attributes : Option (Option (ExtTreeMap String String))}
  {text : Option (Option (Option String))} {children : Option (Option (List Element))}

theorem draftOf_none_attributes : draftOf tag none text children = none := by
  cases tag <;> rfl

theorem draftOf_none_text : draftOf tag attributes none children = none := by
  cases tag <;> cases attributes <;> rfl

theorem draftOf_none_children : draftOf tag attributes text none = none := by
  cases tag <;> cases attributes <;> cases text <;> rfl

/-- Places that do not depend on one another can be filled one after the other. -/
theorem draftOf_bind (tag' : Option String → Option (Option String))
    (attributes' : Option (ExtTreeMap String String) → Option (Option (ExtTreeMap String String)))
    (text' : Option (Option String) → Option (Option (Option String)))
    (children' : Option (List Element) → Option (Option (List Element))) :
    ((draftOf tag attributes text children).bind fun d =>
      draftOf (tag' d.tag) (attributes' d.attributes) (text' d.text) (children' d.children)) =
    draftOf (tag.bind tag') (attributes.bind attributes') (text.bind text')
      (children.bind children') := by
  cases tag with
  | none => rfl
  | some _ =>
  cases attributes with
  | none => exact draftOf_none_attributes.symm
  | some _ =>
  cases text with
  | none => exact draftOf_none_text.symm
  | some _ =>
  cases children with
  | none => exact draftOf_none_children.symm
  | some _ => rfl

end Drafts

section Members

variable {d : Draft} {ms : List (String × Json)} {name : String} {j : Json}

/-- A member is read by each of the four places on its own. -/
theorem readMember_eq : readMember d name j =
    draftOf (placed tagField Json.string? d.tag (name, j))
      (placed attributesField attributesOfJson d.attributes (name, j))
      (placed textField textOfJson d.text (name, j))
      (placed childrenField (serde.list serde.element).read d.children (name, j)) := by
  rw [readMember.eq_def]
  by_cases htag : name = tagField.name
  · subst htag
    rw [if_pos rfl, placed_self, placed_of_ne (by decide), placed_of_ne (by decide),
      placed_of_ne (by decide)]
    cases Draft.fill d.tag j.string? <;> rfl
  by_cases hattributes : name = attributesField.name
  · subst hattributes
    rw [if_neg htag, if_pos rfl, placed_self, placed_of_ne htag, placed_of_ne (by decide),
      placed_of_ne (by decide)]
    cases Draft.fill d.attributes (attributesOfJson j) <;> rfl
  by_cases htext : name = textField.name
  · subst htext
    rw [if_neg htag, if_neg hattributes, if_pos rfl, placed_self, placed_of_ne htag,
      placed_of_ne hattributes, placed_of_ne (by decide)]
    cases Draft.fill d.text (textOfJson j) <;> rfl
  rw [if_neg htag, if_neg hattributes, if_neg htext, placed_of_ne htag, placed_of_ne hattributes,
    placed_of_ne htext]
  by_cases hchildren : name = childrenField.name
  · subst hchildren
    rw [if_pos rfl, placed_self]
    cases j with
    | array items =>
      simp only [ofJsonAll_eq_mapM]
      show _ = draftOf _ _ _ (Draft.fill d.children (items.mapM ofJson))
      cases Draft.fill d.children (items.mapM ofJson) <;> rfl
    | _ =>
      show none = draftOf _ _ _ (Draft.fill d.children none)
      rw [fill_none, draftOf_none_children]
  · rw [if_neg hchildren, placed_of_ne hchildren]
    rfl

theorem readMembers_eq : readMembers d ms =
    draftOf (ms.foldlM (placed tagField Json.string?) d.tag)
      (ms.foldlM (placed attributesField attributesOfJson) d.attributes)
      (ms.foldlM (placed textField textOfJson) d.text)
      (ms.foldlM (placed childrenField (serde.list serde.element).read) d.children) := by
  induction ms generalizing d with
  | nil => rfl
  | cons m ms ih =>
    rw [readMembers, readMember_eq]
    simp only [ih, List.foldlM_cons]
    exact draftOf_bind (ms.foldlM (placed tagField Json.string?) ·)
      (ms.foldlM (placed attributesField attributesOfJson) ·)
      (ms.foldlM (placed textField textOfJson) ·)
      (ms.foldlM (placed childrenField (serde.list serde.element).read) ·)

end Members

/-- An object without repeated members is read field by field. -/
theorem ofJson_object {ms : List (String × Json)} (hnodup : (ms.map Prod.fst).Nodup) :
    ofJson (.object ms) = do
      let tag ← tagField.of? Json.string? ms
      let attributes ← attributesField.of? attributesOfJson ms
      let text ← textField.of? textOfJson ms
      let children ← childrenField.of? (serde.list serde.element).read ms
      return mk tag attributes text children := by
  rw [ofJson, readMembers_eq]
  simp only [of?_eq_bind_foldlM hnodup]
  generalize ms.foldlM (placed tagField Json.string?) none = tag
  generalize ms.foldlM (placed attributesField attributesOfJson) none = attributes
  generalize ms.foldlM (placed textField textOfJson) none = text
  generalize ms.foldlM (placed childrenField (serde.list serde.element).read) none = children
  -- A place that is wrong or required and empty gives nothing, whichever of them it is.
  rcases tag with _ | _ | _ <;> rcases attributes with _ | _ | _ <;>
    rcases text with _ | _ | _ <;> rcases children with _ | _ | _ <;> rfl

/-- What is relied on holds of `toJson` and `ofJson`. -/
theorem lawful_serde : serde.Lawful where
  read_string _ := rfl
  read_map := attributesOfJson_attributesToJson
  read_option := textOfJson_textToJson
  write_list _ _ := rfl
  read_list _ _ := rfl
  write_element := toJson_eq
  read_element _ := ofJson_object
  read_text _ := rfl

end Element

end DiscoveryFilter
