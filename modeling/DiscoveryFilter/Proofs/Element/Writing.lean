import DiscoveryFilter.Proofs.Element.Serde

/-!
# Elements written as JSON

Whoever writes and reads elements as their fields declare them reads back what was written: a field
is left out just where its default is its value. `SpelledBy` says which members are written: at
every depth of the tree those that have their default are left out, and a text that is present but
empty is not. Only a text that is nested too deeply is refused.
-/

namespace DiscoveryFilter

open Std

/-! ## Places in a tree -/

namespace Json

/-- The value of a member of an object. -/
def member? : Json → String → Option Json
  | .object ms, name => ms.lookup name
  | _, _ => none

/-- The value that is reached by the places to take in one member `children` after the other. -/
def at? (j : Json) : List Nat → Option Json
  | [] => some j
  | place :: path =>
    match j.member? "children" with
    | some (.array items) => items[place]?.bind fun item => item.at? path
    | _ => none

end Json

namespace Element

/-- The element that is reached by the places to take among one element's children after the
other. -/
def at? (e : Element) : List Nat → Option Element
  | [] => some e
  | place :: path => e.children[place]?.bind fun child => child.at? path

/-- The value is an object with the members of an element, but without those that have their
default. -/
structure SpelledBy (e : Element) (j : Json) : Prop where
  /-- There are no members but the known ones, none is repeated and they stand in their order. -/
  names : ∃ ms, j = .object ms ∧
    (ms.map Prod.fst).Sublist ["tag", "attributes", "text", "children"]
  tag : j.member? "tag" ≠ none
  attributes : j.member? "attributes" = none ↔ e.attributes = ∅
  /-- An empty text is a text. -/
  text : j.member? "text" = none ↔ e.text = none
  children : j.member? "children" = none ↔ e.children = []

end Element

/-! ## Fields -/

namespace Field

variable {α : Type} {f : Field α}

/-- The values that are left out are those that a missing member stands for. -/
def Faithful (f : Field α) : Prop :=
  ∀ a, f.skips a = true → f.default? = some a

theorem lookup_member (f : Field α) (a : α) (j : Json) (name : String) :
    (f.member a j).lookup name =
      if name = f.name then (if f.skips a then none else some j) else none := by
  unfold member
  cases f.skips a with
  | true => simp
  | false => by_cases h : name = f.name <;> simp [List.lookup_cons, h, beq_false_of_ne]

theorem names_member (f : Field α) (a : α) (j : Json) :
    ((f.member a j).map Prod.fst).Sublist [f.name] := by
  unfold member
  split
  · exact List.nil_sublist _
  · exact List.Sublist.refl _

/-- A value that was written, or left out, is read back. -/
theorem of?_of_lookup {ms : List (String × Json)} {a : α} {write : α → Json}
    {read : Json → Option α} (hf : f.Faithful)
    (hlookup : ms.lookup f.name = if f.skips a then none else some (write a))
    (hread : read (write a) = some a) : f.of? read ms = some a := by
  rw [of?, hlookup]
  cases hskips : f.skips a with
  | true => exact hf a hskips
  | false => exact hread

end Field

namespace Element

theorem faithful_tagField : tagField.Faithful := by
  intro tag h
  cases h

theorem faithful_attributesField : attributesField.Faithful := by
  intro attributes h
  exact congrArg some (ExtTreeMap.isEmpty_iff.1 h).symm

theorem faithful_textField : textField.Faithful := by
  intro text h
  exact congrArg some (Option.isNone_iff_eq_none.1 h).symm

theorem faithful_childrenField : childrenField.Faithful := by
  intro children h
  exact congrArg some (List.isEmpty_iff.1 h).symm

end Element

/-! ## What is written -/

namespace Serde

open Element

section

variable (S : Serde) (e : Element)

theorem names_members : ((S.members e).map Prod.fst).Sublist memberNames := by
  simp only [members, List.map_append]
  exact (((tagField.names_member _ _).append (attributesField.names_member _ _)).append
    (textField.names_member _ _)).append (childrenField.names_member _ _)

theorem nodup_members : ((S.members e).map Prod.fst).Nodup :=
  (S.names_members e).nodup (by decide)

theorem lookup_tag_members :
    (S.members e).lookup tagField.name = some (S.string.write e.tag) := by
  simp [members, List.lookup_append, Field.lookup_member, tagField, attributesField, textField,
    childrenField]

theorem lookup_attributes_members : (S.members e).lookup attributesField.name =
    if e.attributes.isEmpty then none else some (S.map.write e.attributes) := by
  simp [members, List.lookup_append, Field.lookup_member, tagField, attributesField, textField,
    childrenField]

theorem lookup_text_members : (S.members e).lookup textField.name =
    if e.text.isNone then none else some (S.option.write e.text) := by
  simp [members, List.lookup_append, Field.lookup_member, tagField, attributesField, textField,
    childrenField]

theorem lookup_children_members : (S.members e).lookup childrenField.name =
    if e.children.isEmpty then none else some ((S.list S.element).write e.children) := by
  simp [members, List.lookup_append, Field.lookup_member, tagField, attributesField, textField,
    childrenField]

end

namespace Lawful

variable {S : Serde} (hS : S.Lawful)
include hS

theorem spelledBy_write (e : Element) : e.SpelledBy (S.element.write e) := by
  have hmember (name : String) :
      (S.element.write e).member? name = (S.members e).lookup name := by
    rw [hS.write_element]
    rfl
  have htag := (hmember "tag").trans (S.lookup_tag_members e)
  have hattributes := (hmember "attributes").trans (S.lookup_attributes_members e)
  have htext := (hmember "text").trans (S.lookup_text_members e)
  have hchildren := (hmember "children").trans (S.lookup_children_members e)
  refine ⟨⟨S.members e, hS.write_element e, S.names_members e⟩, ?_, ?_, ?_, ?_⟩
  · rw [htag]
    exact Option.some_ne_none _
  · simp [hattributes]
  · simp [htext]
  · simp [hchildren]

/-- The same places lead to an element and to what is written for it. -/
theorem at?_write (e : Element) (path : List Nat) :
    (S.element.write e).at? path = (e.at? path).map S.element.write := by
  induction path generalizing e with
  | nil => rfl
  | cons place path ih =>
    have hchildren : (S.element.write e).member? "children" =
        if e.children.isEmpty then none else some (.array (e.children.map S.element.write)) := by
      rw [hS.write_element, ← hS.write_list]
      exact S.lookup_children_members e
    rw [Json.at?, Element.at?, hchildren]
    by_cases hnil : e.children.isEmpty
    · simp [List.isEmpty_iff.1 hnil]
    · rw [if_neg hnil]
      simp only [List.getElem?_map, Option.bind_map, Option.map_bind, Function.comp_def, ih]

/-! ## What is read back -/

theorem read_list_write {es : List Element}
    (h : ∀ e ∈ es, S.element.read (S.element.write e) = some e) :
    (S.list S.element).read ((S.list S.element).write es) = some es := by
  rw [hS.write_list, hS.read_list]
  induction es with
  | nil => rfl
  | cons e es ih =>
    have hrest := ih fun e he => h e (.tail _ he)
    rw [List.map_cons, List.mapM_cons, h e (.head _), hrest]
    rfl

/-- What is written for an element is read back as that element. -/
theorem read_write (e : Element) : S.element.read (S.element.write e) = some e := by
  induction e with
  | mk tag attributes text children ih =>
    have htag := Field.of?_of_lookup faithful_tagField
      (S.lookup_tag_members (.mk tag attributes text children)) (hS.read_string tag)
    have hattributes := Field.of?_of_lookup faithful_attributesField
      (S.lookup_attributes_members (.mk tag attributes text children)) (hS.read_map attributes)
    have htext := Field.of?_of_lookup faithful_textField
      (S.lookup_text_members (.mk tag attributes text children)) (hS.read_option text)
    have hchildren := Field.of?_of_lookup faithful_childrenField
      (S.lookup_children_members (.mk tag attributes text children)) (hS.read_list_write ih)
    rw [hS.write_element, hS.read_element _ (S.nodup_members _), htag, hattributes, htext, hchildren]
    rfl

end Lawful

end Serde

namespace Element

/-- **What is written for an element is read back.** Let elements be written and read as their fields
declare. The JSON of an element is read as that element, and its text too unless 128 arrays and
objects stand inside one another in it. Everywhere in the tree the JSON leaves out just the
attributes, the text and the children that are not there. An element that was read from some JSON
can therefore be written and read again without a change. -/
theorem read_of_written {S : Serde} (hS : S.Lawful) :
    (∀ e, S.element.read (S.element.write e) = some e ∧
      S.readText (S.element.write e) =
        (if (S.element.write e).nesting < 128 then some e else none) ∧
      ∀ path, Option.Rel SpelledBy (e.at? path) ((S.element.write e).at? path)) ∧
    ∀ j, ((S.element.read j).bind fun e => S.element.read (S.element.write e)) =
      S.element.read j := by
  refine ⟨fun e => ⟨hS.read_write e, ?_, fun path => ?_⟩, fun j => ?_⟩
  · rw [hS.read_text, hS.read_write]
  · rw [hS.at?_write]
    cases e.at? path with
    | none => exact .none
    | some child => exact .some (hS.spelledBy_write child)
  · simp only [hS.read_write, Option.bind_fun_some]

end Element

namespace Sample

/-- Elements inside one another, the innermost with an empty text. -/
def nested : Nat → Element
  | 0 => (Element.ofTag "leaf").withText ""
  | depth + 1 => ((Element.ofTag "branch").withAttribute "name" "a").withChildren [nested depth]

/-- Any depth is written and read back; a text that is one element too deep is refused. -/
theorem read_of_written_nested : Element.serde.Lawful ∧
    Element.serde.element.read (Element.serde.element.write (nested 64)) = some (nested 64) ∧
    Element.serde.readText (Element.serde.element.write (nested 63)) = some (nested 63) ∧
    Element.serde.readText (Element.serde.element.write (nested 64)) = none ∧
    Option.Rel Element.SpelledBy ((nested 64).at? [0, 0])
      ((Element.serde.element.write (nested 64)).at? [0, 0]) := by
  have hwritten := Element.read_of_written Element.lawful_serde
  obtain ⟨hread, hdeep, hspelled⟩ := hwritten.1 (nested 64)
  obtain ⟨-, hshallow, -⟩ := hwritten.1 (nested 63)
  rw [if_neg (by decide +kernel)] at hdeep
  rw [if_pos (by decide +kernel)] at hshallow
  exact ⟨Element.lawful_serde, hread, hshallow, hdeep, hspelled [0, 0]⟩

end Sample

namespace Element

/-- An empty text is written, no text is not. -/
example : ((ofTag "a").withChildren [(ofTag "b").withText "", ofTag "b"]).toJson =
    .object [("tag", .string "a"), ("children", .array
      [.object [("tag", .string "b"), ("text", .string "")], .object [("tag", .string "b")]])] :=
  rfl

end Element

end DiscoveryFilter
