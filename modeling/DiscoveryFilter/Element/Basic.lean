import DiscoveryFilter.Text.Blank
import Std.Data.ExtTreeMap

/-!
# Configuration elements

An `Element` has a tag, attributes, perhaps a text, and children. A child that is a comment or is
switched off by its `active` attribute counts for nothing: `elements` leaves it out, and every
look-up below goes through `elements`.
-/

namespace DiscoveryFilter

open Std Text

/-- One element of a configuration tree. -/
inductive Element where
  | mk (tag : String) (attributes : ExtTreeMap String String) (text : Option String)
    (children : List Element)

namespace Element

/-- What holds of every element whose children it holds of holds of all elements. -/
@[induction_eliminator]
theorem induction {motive : Element → Prop}
    (mk : ∀ tag attributes text children, (∀ child ∈ children, motive child) →
      motive (mk tag attributes text children)) : ∀ e, motive e
  | .mk tag attributes text children =>
    mk tag attributes text children fun child (_ : child ∈ children) => induction mk child
termination_by e => sizeOf e
decreasing_by
  have hlt := List.sizeOf_lt_of_mem ‹child ∈ children›
  simp only [Element.mk.sizeOf_spec]
  omega

def tag : Element → String
  | mk tag _ _ _ => tag

def attributes : Element → ExtTreeMap String String
  | mk _ attributes _ _ => attributes

/-- The text as it was written, blanks included. -/
def text : Element → Option String
  | mk _ _ text _ => text

/-- All children, comments and inactive ones included. -/
def children : Element → List Element
  | mk _ _ _ children => children

/-- The tag of comments. -/
def commentTag : String := "#comment"

/-- The attribute that switches an element off. -/
def activeAttribute : String := "active"

/-- The attribute that names an element. -/
def nameAttribute : String := "name"

/-- An element without attributes, text and children. -/
def ofTag (tag : String) : Element :=
  mk tag ∅ none []

def withAttribute (e : Element) (key value : String) : Element :=
  mk e.tag (e.attributes.insert key value) e.text e.children

def withText (e : Element) (text : String) : Element :=
  mk e.tag e.attributes (some text) e.children

/-- Adds children after those that are there. -/
def withChildren (e : Element) (children : List Element) : Element :=
  mk e.tag e.attributes e.text (e.children ++ children)

def comment (text : String) : Element :=
  (ofTag commentTag).withText text

def attribute? (e : Element) (key : String) : Option String :=
  e.attributes[key]?

/-- The `name` attribute, as it was written. -/
def name? (e : Element) : Option String :=
  e.attribute? nameAttribute

/-- The trimmed text; nothing when it is blank. -/
def content? (e : Element) : Option String :=
  (e.text.map trimmed).filter fun s => !s.isEmpty

/-- The `name` attribute if there is one, else the trimmed text. -/
def identifier? (e : Element) : Option String :=
  e.name?.or e.content?

def isComment (e : Element) : Bool :=
  e.tag == commentTag

/-- The values of `active` that switch an element off. -/
def offValues : List (List Char) :=
  ["false", "0", "no", "off"].map String.toList

/-- An element is active unless its `active` attribute, trimmed and in lower case, turns it off. -/
def isActive (e : Element) : Bool :=
  match e.attribute? activeAttribute with
  | some value => !offValues.contains ((trim value.toList).map Char.toLower)
  | none => true

/-- The children that count: neither comments nor switched off. -/
def elements (e : Element) : List Element :=
  e.children.filter fun child => !child.isComment && child.isActive

/-- The children that count and have a given tag. -/
def elementsNamed (e : Element) (tag : String) : List Element :=
  e.elements.filter fun child => child.tag == tag

/-- The first child that counts and has a given tag. -/
def element? (e : Element) (tag : String) : Option Element :=
  e.elements.find? fun child => child.tag == tag

/-- Follows tags downwards, taking the first child that counts at each step. -/
def descend? (e : Element) (tags : List String) : Option Element :=
  tags.foldlM element? e

/-- The tags of a path; empty segments are skipped. -/
def segments (path : String) : List String :=
  ((path.toList.splitOn '/').filter fun segment => !segment.isEmpty).map String.ofList

/-- Follows a path of tags separated by slashes. -/
def find? (e : Element) (path : String) : Option Element :=
  e.descend? (segments path)

/-- No child counts. -/
def isBare (e : Element) : Bool :=
  e.elements.isEmpty

end Element

end DiscoveryFilter
