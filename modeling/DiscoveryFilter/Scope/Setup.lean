import DiscoveryFilter.Scope.Basic
import DiscoveryFilter.Scope.Catalog
import DiscoveryFilter.Scope.Error
import DiscoveryFilter.Scope.Overrides

/-!
# Loading scopes

A scope is put together in this order: its approaches; its default panel, which without any
acceptor falls back to the ranges that the agent manages; the caller's acceptors; its reporters,
each with a panel that adds acceptors of its own to the default ones; and the caller's acceptors
for reporters. Names that no plugin has are reported and passed over; any other error stops.
-/

namespace DiscoveryFilter

/-- Whatever loading a scope depends on besides its element. -/
structure Setup (α ρ ω : Type) where
  catalog : Catalog α ρ
  site : Site
  overrides : Overrides
  observers : List (Observer ω)

namespace Setup

/-- The tag of the element that holds scopes. -/
def scopesTag : String := "scopes"

/-- The tag of a scope. -/
def scopeTag : String := "scope"

/-- The tag of the element that holds the approaches of a scope. -/
def approachesTag : String := "serverDetectionApproach"

/-- The tag of an approach. -/
def approachTag : String := "approach"

/-- The tag of the element that holds the reporters of a scope. -/
def reportingTag : String := "reporting"

/-- The tag of a reporter. -/
def reporterTag : String := "reporter"

/-- The tag of the element below a reporter that holds acceptors. -/
def filteringTag : String := "filtering"

/-- Where a scope holds the acceptors of its default policy. -/
def defaultFilteringPath : String := "reporting/configuration/filtering"

/-- The name under which an acceptor of a reporter joins the default ones. -/
def reporterAcceptorName (reporter plugin : String) : String :=
  reporter ++ ":" ++ plugin

/-- The name of an element, or the error that it has none. -/
def requiredName (e : Element) (tag : String) : Except PluginError String :=
  match e.name? with
  | some name => .ok name
  | none => .error (.missingAttribute tag Element.nameAttribute)

/-- The items of a tag in the section that the first element of a tag is. -/
def sectionItems (e : Element) (sectionTag itemTag : String) : List Element :=
  match e.element? sectionTag with
  | some holder => holder.elementsNamed itemTag
  | none => []

variable {α ρ ω : Type}

/-- Builds one approach; nothing when no plugin has its name. -/
def approach? (s : Setup α ρ ω) (e : Element) :
    Traced Event PluginError (Option (String × α)) := do
  let name ← Traced.ofExcept (requiredName e approachTag)
  match s.catalog.approaches.find name with
  | .ok factory =>
    let approach ← (factory e s.site).mapEvents Event.building
    return some (name, approach)
  | .error cause =>
    Traced.tell [.skippedApproach cause name]
    return none

/-- Builds the approaches of a scope, in configuration order. -/
def approaches (s : Setup α ρ ω) (scope : Element) :
    Traced Event PluginError (List (String × α)) := do
  let built ← (sectionItems scope approachesTag approachTag).mapM s.approach?
  return built.filterMap id

/-- The panel of a scope without any acceptor of its own. -/
def managedOnly (s : Setup α ρ ω) : Panel :=
  Panel.empty.insert RangePolicy.pluginName (.range (RangePolicy.managedOnly s.site))

/-- Builds the default panel of a scope. -/
def defaultPanel (s : Setup α ρ ω) (scope : Element) : Traced Event PluginError Panel := do
  let p ←
    match scope.find? defaultFilteringPath with
    | some filtering => s.catalog.acceptors.buildPanel filtering s.site
    | none => pure Panel.empty
  if p.isEmpty then
    Traced.tell [.managedOnly s.site.managed]
    return s.managedOnly
  else return p

/-- Adds the acceptors of a reporter to the default ones, each under a name made from the reporter's
name and its tag. Elements without content add nothing. -/
def narrow (s : Setup α ρ ω) (reporter : String) (filtering : Option Element) (p : Panel) :
    Traced Event PluginError Panel :=
  match filtering with
  | none => pure p
  | some filtering =>
    s.catalog.acceptors.extend s.site (reporterAcceptorName reporter) .skippedDescriptor p
      (filtering.elements.filter fun e => !e.isBare)

/-- Builds one reporter of a scope; nothing when no plugin has its name. -/
def reporter? (s : Setup α ρ ω) (scope : String) (p : Panel) (e : Element) :
    Traced Event LoadError (Option (String × Slot ρ)) := do
  let name ← (Traced.ofExcept (requiredName e reporterTag)).mapError (.reporterName scope)
  match s.catalog.reporters.find name with
  | .ok factory =>
    let reporter ←
      ((factory e s.site).mapEvents Event.building).mapError (.reporterBuild scope name)
    let acceptors ←
      (s.narrow name (e.element? filteringTag) p).mapError (.reporterFiltering scope name)
    Traced.tell [.builtReporter name acceptors.size]
    return some (name, ⟨reporter, acceptors⟩)
  | .error cause =>
    Traced.tell [.skippedReporter cause name]
    return none

/-- Builds the reporters of a scope. A later reporter takes the place of an earlier one of the same
name. -/
def reporters (s : Setup α ρ ω) (name : String) (scope : Element) (p : Panel) :
    Traced Event LoadError (Roster (Slot ρ)) := do
  let built ← (sectionItems scope reportingTag reporterTag).mapM (s.reporter? name p)
  return Roster.ofList (built.filterMap id)

/-- Puts the caller's acceptors into the panels of the reporters that are there. -/
def overrideReporters (s : Setup α ρ ω) (reporters : Roster (Slot ρ)) : Roster (Slot ρ) :=
  reporters.map fun name slot =>
    match s.overrides.reporters[name]? with
    | some acceptors => { slot with acceptors := slot.acceptors.insertAll acceptors.toList }
    | none => slot

/-- The reporters for which the caller gave acceptors and which are not there. -/
def missingReporters (s : Setup α ρ ω) (reporters : Roster (Slot ρ)) : List String :=
  s.overrides.reporters.keys.filter fun name => !reporters.names.contains name

/-- Loads the scope of an element. -/
def load (s : Setup α ρ ω) (e : Element) : Traced Event LoadError (Scope α ρ ω) := do
  let name ← (Traced.ofExcept (requiredName e scopeTag)).mapError LoadError.scopeName
  let approaches ← (s.approaches e).mapError (.approaches name)
  let p ← (s.defaultPanel e).mapError (.filtering name)
  let acceptors := p.insertAll s.overrides.acceptors.toList
  Traced.tell (s.overrides.acceptors.keys.map (.overrodeAcceptor name))
  let built ← s.reporters name e acceptors
  let reporters := s.overrideReporters built
  Traced.tell ((s.missingReporters built).map (.missingReporter name))
  Traced.tell [.loadedScope name approaches.length acceptors.size reporters.size]
  return { name, approaches, reporters, acceptors, observers := s.observers }

/-- Loads one more scope; its name must be new. -/
def loadNext (s : Setup α ρ ω) (loaded : List (Scope α ρ ω)) (e : Element) :
    Traced Event LoadError (List (Scope α ρ ω)) := do
  let scope ← s.load e
  if scope.name ∈ loaded.map Scope.name then throw (.duplicateScope scope.name)
  return loaded ++ [scope]

/-- The element that holds the scopes of a document: the document itself or its first such child. -/
def scopesElement? (root : Element) : Option Element :=
  if root.tag = scopesTag then some root else root.element? scopesTag

/-- Loads the scopes of a document, in configuration order. -/
def loadAll (s : Setup α ρ ω) (root : Element) :
    Traced Event LoadError (List (Scope α ρ ω)) := do
  match scopesElement? root with
  | none => throw .noScopes
  | some holder =>
    let scopes ← (holder.elementsNamed scopeTag).foldlM s.loadNext []
    Traced.tell [.loadedScopes scopes.length]
    return scopes

end Setup

end DiscoveryFilter
