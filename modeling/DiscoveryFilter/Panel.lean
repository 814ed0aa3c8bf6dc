import DiscoveryFilter.Log.Event
import DiscoveryFilter.Policy.Acceptor

/-!
# Acceptor panels

A `Panel` holds acceptors by name and admits an entity unless an acceptor rejects it. Acceptors
are asked in the order of their names, and the first that rejects settles the matter.
-/

namespace DiscoveryFilter

open Std

/-- Acceptors by name. -/
@[ext] structure Panel where
  acceptors : ExtTreeMap String Acceptor

namespace Panel

/-- No acceptor: every entity is admitted. -/
def empty : Panel :=
  ⟨∅⟩

def get? (p : Panel) (name : String) : Option Acceptor :=
  p.acceptors[name]?

/-- Puts an acceptor under a name, in place of the one that was there. -/
def insert (p : Panel) (name : String) (acceptor : Acceptor) : Panel :=
  ⟨p.acceptors.insert name acceptor⟩

/-- Puts acceptors under their names one after the other. -/
def insertAll (p : Panel) (entries : List (String × Acceptor)) : Panel :=
  entries.foldl (fun p entry => p.insert entry.1 entry.2) p

def ofList (entries : List (String × Acceptor)) : Panel :=
  empty.insertAll entries

/-- The acceptors with their names, in the order of the names. -/
def toList (p : Panel) : List (String × Acceptor) :=
  p.acceptors.toList

def names (p : Panel) : List String :=
  p.acceptors.keys

def size (p : Panel) : Nat :=
  p.acceptors.size

def isEmpty (p : Panel) : Bool :=
  p.acceptors.isEmpty

/-- The name of the first acceptor that rejects an entity. -/
def rejecter? (p : Panel) (e : Entity) : Option String :=
  (p.toList.find? fun entry => entry.2.rejects e).map (·.1)

/-- No acceptor rejects the entity. -/
def accepts (p : Panel) (e : Entity) : Bool :=
  (p.rejecter? e).isNone

/-- What judging an entity reports: the rejection, if there is one. -/
def events (p : Panel) (e : Entity) : List Event :=
  (p.rejecter? e).toList.map fun name => .rejected name e

/-- The acceptors under the given names; names that are not there are passed over. -/
def subset (p : Panel) (names : List String) : Panel :=
  ofList (names.filterMap fun name => (p.get? name).map fun acceptor => (name, acceptor))

/-- The names under which some service policy that an acceptor shows includes a port. -/
def portNames (p : Panel) (port : Port) : ExtTreeSet String :=
  ExtTreeSet.ofList <|
    (p.toList.filterMap fun entry => entry.2.service?.bind (·.portNames? port)).flatMap
      ExtTreeSet.toList

@[simp] theorem get?_empty (name : String) : empty.get? name = none := by
  simp [empty, get?]

@[simp] theorem get?_insert (p : Panel) (name other : String) (acceptor : Acceptor) :
    (p.insert name acceptor).get? other = if name = other then some acceptor else p.get? other := by
  simp [insert, get?, ExtTreeMap.getElem?_insert]

/-- Panels that hold the same acceptor under every name are equal. -/
theorem ext_get? {p q : Panel} (h : ∀ name, p.get? name = q.get? name) : p = q :=
  Panel.ext (ExtTreeMap.ext_getElem? h)

theorem mem_toList_iff {p : Panel} {name : String} {acceptor : Acceptor} :
    (name, acceptor) ∈ p.toList ↔ p.get? name = some acceptor :=
  ExtTreeMap.mem_toList_iff_getElem?_eq_some

/-- An entity is admitted exactly when no acceptor rejects it, whatever the order of asking. -/
theorem accepts_iff {p : Panel} {e : Entity} :
    p.accepts e = true ↔
      ∀ name acceptor, p.get? name = some acceptor → acceptor.rejects e = false := by
  simp only [accepts, rejecter?, Option.isNone_map, Option.isNone_iff_eq_none, List.find?_eq_none,
    Bool.not_eq_true, Prod.forall, mem_toList_iff]

end Panel

end DiscoveryFilter
