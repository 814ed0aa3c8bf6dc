import DiscoveryFilter.Panel
import DiscoveryFilter.Policy.RangeIdentifier
import DiscoveryFilter.Policy.ServiceIdentifier

/-!
# Registries

A `Registry` holds the factories of one kind of plugin by name. The registry of acceptors builds an
acceptor from an element whose tag names its factory, and a panel from the elements below one.
-/

namespace DiscoveryFilter

open Std

/-- Builds a plugin from its element and the site. -/
abbrev Factory (α : Type) := Element → Site → Traced BuildEvent PluginError α

/-- Factories, or whatever else is registered, by name. -/
@[ext] structure Registry (kind : PluginKind) (φ : Type) where
  factories : ExtTreeMap String φ

namespace Registry

variable {kind : PluginKind} {φ : Type}

def empty : Registry kind φ :=
  ⟨∅⟩

/-- Registers under a name, in place of what was registered there. -/
def register (r : Registry kind φ) (name : String) (factory : φ) : Registry kind φ :=
  ⟨r.factories.insert name factory⟩

/-- Registers entries one after the other. -/
def ofList (entries : List (String × φ)) : Registry kind φ :=
  entries.foldl (fun r entry => r.register entry.1 entry.2) empty

def get? (r : Registry kind φ) (name : String) : Option φ :=
  r.factories[name]?

/-- What is registered under a name, or the error that nothing is. -/
def find (r : Registry kind φ) (name : String) : Except PluginError φ :=
  match r.get? name with
  | some factory => .ok factory
  | none => .error (.unknownPlugin kind name)

def contains (r : Registry kind φ) (name : String) : Bool :=
  r.factories.contains name

def names (r : Registry kind φ) : List String :=
  r.factories.keys

def size (r : Registry kind φ) : Nat :=
  r.factories.size

def isEmpty (r : Registry kind φ) : Bool :=
  r.factories.isEmpty

@[simp] theorem get?_empty (name : String) : (empty : Registry kind φ).get? name = none := by
  simp [empty, get?]

@[simp] theorem get?_register (r : Registry kind φ) (name other : String) (factory : φ) :
    (r.register name factory).get? other = if name = other then some factory else r.get? other := by
  simp [register, get?, ExtTreeMap.getElem?_insert]

end Registry

/-- The name of the plugin for range policies. -/
def RangePolicy.pluginName : String := "ranges"

/-- The tag of items in the lists of a range policy. -/
def RangePolicy.itemTag : String := "range"

/-- The name of the plugin for service policies. -/
def ServicePolicy.pluginName : String := "services"

/-- The tag of items in the lists of a service policy. -/
def ServicePolicy.itemTag : String := "service"

namespace Acceptor

/-- Builds a range policy from an element. -/
def rangeFactory : Factory Acceptor := fun e site => do
  let ids ← Traced.ofExcept (Identifiers.ofElement e RangePolicy.itemTag)
  Acceptor.range <$> (RangePolicy.build site ids).mapError PluginError.range

/-- Builds a service policy from an element. -/
def serviceFactory : Factory Acceptor := fun e site => do
  let ids ← Traced.ofExcept (Identifiers.ofElement e ServicePolicy.itemTag)
  Acceptor.service <$> ServicePolicy.build site.ports ids

end Acceptor

/-- The factories of acceptors. -/
abbrev AcceptorRegistry := Registry .acceptor (Factory Acceptor)

namespace AcceptorRegistry

/-- The registry of the two built-in policies. -/
def standard : AcceptorRegistry :=
  Registry.ofList
    [(RangePolicy.pluginName, Acceptor.rangeFactory),
      (ServicePolicy.pluginName, Acceptor.serviceFactory)]

/-- Builds the acceptor that an element's tag names. -/
def build (r : AcceptorRegistry) (e : Element) (site : Site) :
    Traced BuildEvent PluginError Acceptor := do
  let factory ← Traced.ofExcept (r.find e.tag)
  factory e site

/-- Builds one acceptor and puts it into a panel under a name made from the tag. An element that
turns out to name no plugin is reported and passed over; any other error stops. -/
def extendBy (r : AcceptorRegistry) (site : Site) (rename : String → String)
    (skipped : PluginError → String → Event) (p : Panel) (e : Element) :
    Traced Event PluginError Panel := do
  match ← ((r.build e site).mapEvents Event.building).attempt with
  | .ok acceptor => return p.insert (rename e.tag) acceptor
  | .error cause =>
    if cause.isUnknownPlugin then
      Traced.tell [skipped cause e.tag]
      return p
    else throw cause

/-- Extends a panel by the acceptors of some elements, one after the other. -/
def extend (r : AcceptorRegistry) (site : Site) (rename : String → String)
    (skipped : PluginError → String → Event) (p : Panel) (es : List Element) :
    Traced Event PluginError Panel :=
  es.foldlM (r.extendBy site rename skipped) p

/-- Builds the panel of the elements below `filtering`, each acceptor under its tag. -/
def buildPanel (r : AcceptorRegistry) (filtering : Element) (site : Site) :
    Traced Event PluginError Panel := do
  let p ← r.extend site id (fun _ tag => .skippedAcceptor tag) Panel.empty filtering.elements
  Traced.tell [.builtPanel p.size]
  return p

end AcceptorRegistry

end DiscoveryFilter
