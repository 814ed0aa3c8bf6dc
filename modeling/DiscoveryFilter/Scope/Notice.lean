import DiscoveryFilter.Entity

/-!
# Observers

A scope tells its observers every decision it makes and every reset. A notice is delivered to each
observer in turn; what a host does with the notices delivered to its own observers is its affair.
-/

namespace DiscoveryFilter

/-- One decision of a scope. -/
structure Decision where
  scope : String
  /-- The reporter that was asked for; nothing for the scope's default policy. -/
  reporter : Option String
  entity : Entity
  accepted : Bool
deriving DecidableEq

/-- What observers are told. -/
inductive Notice where
  | decided (decision : Decision)
  | reset (scope : String)
deriving DecidableEq

/-- An observer that writes to the log, or one that the host knows by a handle. -/
inductive Observer (ω : Type) where
  | log
  | host (handle : ω)
deriving DecidableEq

/-- A notice on its way to one observer. -/
structure Delivery (ω : Type) where
  observer : Observer ω
  notice : Notice
deriving DecidableEq

namespace Delivery

variable {ω : Type}

/-- One notice for each of the observers, in their order. -/
def toAll (observers : List (Observer ω)) (notice : Notice) : List (Delivery ω) :=
  observers.map fun observer => ⟨observer, notice⟩

/-- The notices delivered to one observer. -/
def received [DecidableEq ω] (deliveries : List (Delivery ω)) (observer : Observer ω) :
    List Notice :=
  (deliveries.filter fun d => d.observer = observer).map Delivery.notice

end Delivery

end DiscoveryFilter
