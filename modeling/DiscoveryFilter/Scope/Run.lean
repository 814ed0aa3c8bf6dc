import DiscoveryFilter.Scope.Basic

/-!
# Runs of a scope

An `Operation` asks a scope for a verdict or resets it. Its `Response` holds the verdict, the
rejection that was reported and the notices for the observers, each in order. A run performs
operations one after the other and collects their responses.
-/

namespace DiscoveryFilter

/-- What a host can ask of a scope. -/
inductive Operation where
  /-- The verdict of the default policy. -/
  | judge (entity : Entity)
  /-- The verdict of a reporter's policy. -/
  | judgeFor (reporter : String) (entity : Entity)
  | reset
deriving DecidableEq

/-- What an operation brings about besides changing the scope. -/
structure Response (ω : Type) where
  /-- Nothing for a reset, and when there is no such reporter. -/
  verdict : Option Bool
  /-- What the panel reported. -/
  events : List Event
  deliveries : List (Delivery ω)
deriving DecidableEq

namespace Response

variable {ω : Type}

/-- No verdict, and nobody was told. -/
def silent : Response ω :=
  ⟨none, [], []⟩

/-- All events in order: those of the panel, then those of observers that write to the log. -/
def log (r : Response ω) : List Event :=
  r.events ++ r.deliveries.filterMap fun d =>
    match d.observer with
    | .log => some (.observed d.notice)
    | .host _ => none

end Response

namespace Scope

variable {α ρ ω : Type} [Resettable α] [Resettable ρ]

/-- The response to a verdict of a panel. -/
def announce (s : Scope α ρ ω) (p : Panel) (reporter : Option String) (e : Entity) :
    Response ω where
  verdict := some (p.accepts e)
  events := p.events e
  deliveries :=
    Delivery.toAll s.observers
      (.decided { scope := s.name, reporter, entity := e, accepted := p.accepts e })

/-- Performs one operation. -/
def perform (s : Scope α ρ ω) : Operation → Scope α ρ ω × Response ω
  | .judge e => (s, s.announce s.acceptors none e)
  | .judgeFor reporter e =>
    match s.reporterPanel? reporter with
    | some p => (s, s.announce p (some reporter) e)
    | none => (s, .silent)
  | .reset => (s.reset, ⟨none, [], Delivery.toAll s.observers (.reset s.name)⟩)

/-- Performs operations one after the other. -/
def run (s : Scope α ρ ω) : List Operation → Scope α ρ ω × List (Response ω)
  | [] => (s, [])
  | op :: ops =>
    let (s, response) := s.perform op
    let (s, responses) := s.run ops
    (s, response :: responses)

end Scope

end DiscoveryFilter
