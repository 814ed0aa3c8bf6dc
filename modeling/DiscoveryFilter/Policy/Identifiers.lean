import DiscoveryFilter.Element.Basic
import DiscoveryFilter.Policy.Error

/-!
# Identifiers of a policy

A policy is configured by lists of identifiers to include and to exclude. Each list element holds
items, and each item is identified by its `name` attribute or by its text.
-/

namespace DiscoveryFilter

namespace Element

/-- The items of a tag in every list of a tag, in document order. -/
def listedItems (e : Element) (listTag itemTag : String) : List Element :=
  (e.elementsNamed listTag).flatMap fun list => list.elementsNamed itemTag

/-- The identifiers of the items; an item without one is refused. -/
def identifiers (e : Element) (listTag itemTag : String) : Except PluginError (List String) :=
  (e.listedItems listTag itemTag).mapM fun item =>
    match item.identifier? with
    | some identifier => .ok identifier
    | none => .error (.missingAttribute itemTag "name or text")

end Element

/-- Identifiers to include and identifiers to exclude. -/
structure Identifiers where
  includes : List String
  excludes : List String
deriving DecidableEq

namespace Identifiers

/-- The tag of lists of what to include. -/
def includeTag : String := "include"

/-- The tag of lists of what to exclude. -/
def excludeTag : String := "exclude"

/-- Reads the lists of an element, those to include first. -/
def ofElement (e : Element) (itemTag : String) : Except PluginError Identifiers := do
  let includes ← e.identifiers includeTag itemTag
  let excludes ← e.identifiers excludeTag itemTag
  return ⟨includes, excludes⟩

end Identifiers

end DiscoveryFilter
