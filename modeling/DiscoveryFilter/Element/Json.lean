import DiscoveryFilter.Element.Basic
import DiscoveryFilter.Json

/-!
# Elements as JSON

An element is written as an object with the members `tag`, `attributes`, `text` and `children`. Each
member is declared as a `Field`: the last three are left out when they are empty, absent and empty,
and have these values where they are not there; a text that is present but empty is kept.

How declared fields are written and read is for other packages to say: a `Serde` is what they give.
`toJson` and `ofJson` are one of these. `ofJson` reads the members in any order, ignores those it
does not know, takes a `null` text for an absent one and refuses a known member that is repeated. It
also reads an array of the values of the members in the order above, of which the last ones may be
missing.
-/

namespace DiscoveryFilter

open Std

/-- A member of the object that stands for a structure. -/
structure Field (α : Type) where
  name : String
  /-- The values for which the member is left out. -/
  skips : α → Bool
  /-- The value where there is no such member; a member without a default is required. -/
  default? : Option α

namespace Field

variable {α : Type}

/-- The member for a value that is written, unless it is left out. -/
def member (f : Field α) (a : α) (written : Json) : List (String × Json) :=
  if f.skips a then [] else [(f.name, written)]

/-- The value among the members of an object, or the default where there is none. -/
def of? (f : Field α) (read : Json → Option α) (ms : List (String × Json)) : Option α :=
  match ms.lookup f.name with
  | some j => read j
  | none => f.default?

end Field

/-- How the values of a type are written as JSON and read from it. -/
structure Coder (α : Type) where
  write : α → Json
  read : Json → Option α

/-- What packages for JSON give for the types that elements are made of. -/
structure Serde where
  string : Coder String
  map : Coder (ExtTreeMap String String)
  option : Coder (Option String)
  list : Coder Element → Coder (List Element)
  element : Coder Element
  /-- Reads the text of a JSON value. -/
  readText : Json → Option Element

namespace Element

def tagField : Field String where
  name := "tag"
  skips _ := false
  default? := none

def attributesField : Field (ExtTreeMap String String) where
  name := "attributes"
  skips := ExtTreeMap.isEmpty
  default? := some ∅

def textField : Field (Option String) where
  name := "text"
  skips := Option.isNone
  default? := some none

def childrenField : Field (List Element) where
  name := "children"
  skips := List.isEmpty
  default? := some []

/-- The known members, in the order in which they are declared. -/
def memberNames : List String :=
  [tagField.name, attributesField.name, textField.name, childrenField.name]

/-! ## Writing -/

/-- Attributes are written as an object of strings. -/
def attributesToJson (attributes : ExtTreeMap String String) : Json :=
  .object (attributes.toList.map fun a => (a.1, .string a.2))

/-- An absent text would be written as null. -/
def textToJson : Option String → Json
  | some text => .string text
  | none => .null

mutual

/-- Writes an element, leaving out what is empty or absent. -/
def toJson : Element → Json
  | mk tag attributes text children =>
    .object <|
      tagField.member tag (.string tag) ++
      attributesField.member attributes (attributesToJson attributes) ++
      textField.member text (textToJson text) ++
      childrenField.member children (.array (toJsonAll children))

/-- Writes elements one after the other. -/
def toJsonAll : List Element → List Json
  | [] => []
  | e :: es => toJson e :: toJsonAll es

end

/-! ## Reading -/

/-- Reads attributes: an object of strings, in which the last value of a repeated name counts. -/
def attributesOfJson : Json → Option (ExtTreeMap String String)
  | .object ms => do
    let pairs ← ms.mapM fun m => m.2.string?.map fun value => (m.1, value)
    return ExtTreeMap.ofList pairs
  | _ => none

/-- Reads a text, which may be null. -/
def textOfJson : Json → Option (Option String)
  | .null => some none
  | .string s => some (some s)
  | _ => none

/-- The known members met so far while an element is read. -/
structure Draft where
  tag : Option String := none
  attributes : Option (ExtTreeMap String String) := none
  text : Option (Option String) := none
  children : Option (List Element) := none

namespace Draft

/-- Puts a value into a member that has none yet. -/
def fill {α : Type} (slot value : Option α) : Option (Option α) :=
  if slot.isSome then none else value.map some

/-- The element of the members read, with defaults for those that are missing. -/
def finish (d : Draft) : Option Element := do
  let tag ← d.tag.or tagField.default?
  let attributes ← d.attributes.or attributesField.default?
  let text ← d.text.or textField.default?
  let children ← d.children.or childrenField.default?
  return Element.mk tag attributes text children

end Draft

mutual

/-- Reads an element; nothing when some member has a wrong form. -/
def ofJson : Json → Option Element
  | .object ms => (readMembers {} ms).bind Draft.finish
  | .array values => (readPlaces {} memberNames values).bind Draft.finish
  | _ => none

/-- Reads the members of an object into a draft. -/
def readMembers (d : Draft) : List (String × Json) → Option Draft
  | [] => some d
  | (name, value) :: ms => (readMember d name value).bind fun d => readMembers d ms

/-- Reads the values of an array into a draft, each as the member whose turn it is. -/
def readPlaces (d : Draft) (names : List String) : List Json → Option Draft
  | [] => some d
  | value :: values =>
    match names with
    | name :: names => (readMember d name value).bind fun d => readPlaces d names values
    | [] => none

/-- Reads one member into a draft. -/
def readMember (d : Draft) (name : String) (value : Json) : Option Draft :=
  if name = tagField.name then
    (Draft.fill d.tag value.string?).map fun tag => { d with tag }
  else if name = attributesField.name then
    (Draft.fill d.attributes (attributesOfJson value)).map fun attributes => { d with attributes }
  else if name = textField.name then
    (Draft.fill d.text (textOfJson value)).map fun text => { d with text }
  else if name = childrenField.name then
    match value with
    | .array items =>
      (Draft.fill d.children (ofJsonAll items)).map fun children => { d with children }
    | _ => none
  else some d

/-- Reads elements one after the other. -/
def ofJsonAll : List Json → Option (List Element)
  | [] => some []
  | j :: js => (ofJson j).bind fun e => (ofJsonAll js).map fun es => e :: es

end

/-! ## Both -/

/-- The nesting from which on a text is refused. -/
def nestingLimit : Nat := 128

/-- Elements are written by `toJson` and read by `ofJson`. -/
def serde : Serde where
  string := ⟨.string, Json.string?⟩
  map := ⟨attributesToJson, attributesOfJson⟩
  option := ⟨textToJson, textOfJson⟩
  list coder :=
    { write := fun es => .array (es.map coder.write)
      read := fun j =>
        match j with
        | .array items => items.mapM coder.read
        | _ => none }
  element := ⟨toJson, ofJson⟩
  readText j := if j.nesting < nestingLimit then ofJson j else none

end Element

end DiscoveryFilter
