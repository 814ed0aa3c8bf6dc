import DiscoveryFilter.Panel
import DiscoveryFilter.Scope.Notice
import DiscoveryFilter.Scope.Roster

/-!
# Discovery scopes

A `Scope` binds the approaches that detect servers and the reporters that publish results to the
panels that decide what each of them gets to see. Approaches and reporters keep state during a
run, which a reset clears; everything else about a scope stays as it was put together.
-/

namespace DiscoveryFilter

/-- State of a run that can be cleared. -/
class Resettable (σ : Type) where
  reset : σ → σ

/-- A reporter and the acceptors it reports under. -/
structure Slot (ρ : Type) where
  reporter : ρ
  acceptors : Panel

/-- Approaches in configuration order, reporters, the default policy, and who watches. -/
structure Scope (α ρ ω : Type) where
  name : String
  approaches : List (String × α)
  reporters : Roster (Slot ρ)
  acceptors : Panel
  observers : List (Observer ω)

namespace Scope

variable {α ρ ω : Type}

/-- The first approach of a name. -/
def approach? (s : Scope α ρ ω) (name : String) : Option α :=
  (s.approaches.find? fun approach => approach.1 == name).map (·.2)

/-- The panel that a reporter reports under. -/
def reporterPanel? (s : Scope α ρ ω) (reporter : String) : Option Panel :=
  (s.reporters.get? reporter).map Slot.acceptors

/-- The default policy admits the entity. -/
def accepts (s : Scope α ρ ω) (e : Entity) : Bool :=
  s.acceptors.accepts e

/-- The policy of a reporter admits the entity; no verdict when there is no such reporter. -/
def acceptsFor? (s : Scope α ρ ω) (reporter : String) (e : Entity) : Option Bool :=
  (s.reporterPanel? reporter).map fun p => p.accepts e

/-- Clears the state of every approach and every reporter. -/
def reset [Resettable α] [Resettable ρ] (s : Scope α ρ ω) : Scope α ρ ω :=
  { s with
    approaches := s.approaches.map fun approach => (approach.1, Resettable.reset approach.2)
    reporters := s.reporters.map fun _ slot =>
      { slot with reporter := Resettable.reset slot.reporter } }

end Scope

end DiscoveryFilter
