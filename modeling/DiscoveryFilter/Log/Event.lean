import DiscoveryFilter.Policy.BuildEvent
import DiscoveryFilter.Policy.Error
import DiscoveryFilter.Scope.Notice

/-!
# Events

Everything that is reported while scopes are loaded and entities are judged, and the log line of
each event. The events of the factories are a layer of their own below those of loading.
-/

namespace DiscoveryFilter

/-- An event of building panels, loading scopes or judging entities. -/
inductive Event where
  /-- An event of reading ranges or of building one policy. -/
  | building (event : BuildEvent)
  /-- A panel passed over an element that names no plugin. -/
  | skippedAcceptor (tag : String)
  /-- A panel with so many acceptors was built. -/
  | builtPanel (acceptors : Nat)
  /-- An acceptor rejected an entity. -/
  | rejected (acceptor : String) (entity : Entity)
  /-- So many scopes were loaded. -/
  | loadedScopes (scopes : Nat)
  /-- An acceptor given by the caller was put into the default panel of a scope. -/
  | overrodeAcceptor (scope acceptor : String)
  /-- A scope was loaded. -/
  | loadedScope (scope : String) (approaches acceptors reporters : Nat)
  /-- A scope passed over an approach. -/
  | skippedApproach (cause : PluginError) (approach : String)
  /-- A scope passed over a reporter. -/
  | skippedReporter (cause : PluginError) (reporter : String)
  /-- The panel of a reporter passed over an element. -/
  | skippedDescriptor (cause : PluginError) (tag : String)
  /-- A scope without filtering accepts what the agent manages. -/
  | managedOnly (managed : RangeSet)
  /-- A reporter with so many acceptors was built. -/
  | builtReporter (reporter : String) (acceptors : Nat)
  /-- The caller overrides acceptors of a reporter that is not there. -/
  | missingReporter (scope reporter : String)
  /-- The logging observer received a notice. -/
  | observed (notice : Notice)
deriving DecidableEq

namespace Event

/-- The message about a plugin that is passed over. -/
def skipping (cause : PluginError) : String :=
  cause.message ++ ", skipping it"

/-- The log line of a notice. -/
def noticeLine : Notice → Log.Line
  | .decided d =>
    { level := .debug
      target := "scopr_core::observer"
      message := "filtering decision"
      fields :=
        [("scope", .quoted d.scope), ("reporter", .quoted (d.reporter.getD "-")),
          ("entity", .plain (toString d.entity)), ("accepted", .ofBool d.accepted)] }
  | .reset scope =>
    { level := .debug
      target := "scopr_core::observer"
      message := "scope reset"
      fields := [("scope", .quoted scope)] }

/-- The target of lines about loading. -/
def loadingTarget : String := "scopr_core::discovery::loader"

/-- The log line of an event. -/
def line : Event → Log.Line
  | .building event => event.line
  | .skippedAcceptor tag =>
    { level := .warn
      target := "scopr_plugins::builder"
      message := "skipping unknown acceptor plugin"
      fields := [("plugin", .plain tag)] }
  | .builtPanel acceptors =>
    { level := .debug
      target := "scopr_plugins::builder"
      message := "built acceptor engine"
      fields := [("acceptors", .ofNat acceptors)] }
  | .rejected acceptor entity =>
    { level := .trace
      target := "scopr_plugins::engine"
      message := "entity rejected"
      fields := [("acceptor", .plain acceptor), ("entity", .plain (toString entity))] }
  | .loadedScopes scopes =>
    { level := .debug
      target := loadingTarget
      message := "loaded discovery scopes"
      fields := [("scopes", .ofNat scopes)] }
  | .overrodeAcceptor scope acceptor =>
    { level := .debug
      target := loadingTarget
      message := "overriding acceptor"
      fields := [("scope", .quoted scope), ("acceptor", .plain acceptor)] }
  | .loadedScope scope approaches acceptors reporters =>
    { level := .info
      target := loadingTarget
      message := "scope loaded"
      fields :=
        [("scope", .quoted scope), ("approaches", .ofNat approaches),
          ("acceptors", .ofNat acceptors), ("reporters", .ofNat reporters)] }
  | .skippedApproach cause approach =>
    { level := .warn
      target := loadingTarget
      message := skipping cause
      fields := [("approach", .quoted approach)] }
  | .skippedReporter cause reporter =>
    { level := .warn
      target := loadingTarget
      message := skipping cause
      fields := [("reporter", .quoted reporter)] }
  | .skippedDescriptor cause tag =>
    { level := .warn
      target := loadingTarget
      message := skipping cause
      fields := [("plugin", .plain tag)] }
  | .managedOnly managed =>
    { level := .debug
      target := loadingTarget
      message := "no filtering configured, accepting the agent's own ranges only"
      fields := [("managed", .plain (toString managed))] }
  | .builtReporter reporter acceptors =>
    { level := .debug
      target := loadingTarget
      message := "built reporter"
      fields := [("reporter", .quoted reporter), ("acceptors", .ofNat acceptors)] }
  | .missingReporter scope reporter =>
    { level := .warn
      target := loadingTarget
      message := "override names a reporter this scope does not have"
      fields := [("scope", .quoted scope), ("reporter", .plain reporter)] }
  | .observed notice => noticeLine notice

end Event

end DiscoveryFilter
