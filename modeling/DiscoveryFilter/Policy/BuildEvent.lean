import DiscoveryFilter.Log.Line
import DiscoveryFilter.Log.Traced
import DiscoveryFilter.RangeSet

/-!
# Events of building policies

What reading ranges and resolving identifiers reports.
-/

namespace DiscoveryFilter

/-- An event of reading ranges or of building one policy. -/
inductive BuildEvent where
  /-- A span starts above its end. -/
  | invertedSpan (span : Span)
  /-- A range policy was built from so many criteria. -/
  | builtRanges (includes excludes : Nat)
  /-- A service policy was built that names so many ports. -/
  | builtServices (includes : Nat) (includesAny : Bool) (excludes : Nat)
  /-- A service identifier stands for no port. -/
  | unresolvedService (identifier : String)
deriving DecidableEq

/-- The log line of an event. -/
def BuildEvent.line : BuildEvent → Log.Line
  | .invertedSpan span =>
    { level := .warn
      target := "scopr_common::network::grammar"
      message := "range span starts above its end and will match nothing"
      fields := [("range", .plain (toString span))] }
  | .builtRanges includes excludes =>
    { level := .debug
      target := "scopr_plugins::builder::ranges"
      message := "built range acceptor"
      fields := [("include", .ofNat includes), ("exclude", .ofNat excludes)] }
  | .builtServices includes includesAny excludes =>
    { level := .debug
      target := "scopr_plugins::builder::services"
      message := "built services acceptor"
      fields :=
        [("include", .ofNat includes), ("include_any", .ofBool includesAny),
          ("exclude", .ofNat excludes)] }
  | .unresolvedService identifier =>
    { level := .warn
      target := "scopr_plugins::builder::services"
      message := "service identifier resolved to no ports, dropping it"
      fields := [("service", .quoted identifier)] }

/-- What reading a single range reports. -/
def Range.buildEvents (token : String) : List BuildEvent :=
  ((Range.parse token).toOption.bind Range.invertedSpan?).toList.map .invertedSpan

/-- Reads a range and reports a span that is upside down. -/
def Range.parseTraced (token : String) : Traced BuildEvent RangeError Range :=
  ⟨Range.buildEvents token, Range.parse token⟩

/-- Reads a range set and reports the spans that are upside down. -/
def RangeSet.parseTraced (spec : String) : Traced BuildEvent RangeError RangeSet :=
  ⟨(RangeSet.invertedSpans spec).map .invertedSpan, RangeSet.parse spec⟩

end DiscoveryFilter
