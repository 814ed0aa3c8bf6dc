import DiscoveryFilter.Policy.BuildEvent
import DiscoveryFilter.Policy.Identifiers
import DiscoveryFilter.Policy.ServicePolicy
import DiscoveryFilter.Port.Directory

/-!
# Service identifiers

An identifier of a service policy is, in this order of precedence, `*` for every port,
`known_services` for the discoverable ports of the directory, a numeral for that port, or a service
name. A numeral that is no port is taken for a name. Blanks around an identifier do not count.
-/

namespace DiscoveryFilter

open Std Text

/-- What an identifier asks for. -/
inductive ServiceSelector where
  | any
  | known
  | number (port : Port)
  | named (name : String)
deriving DecidableEq

/-- What an identifier stands for: every port, or one port, perhaps under a name. -/
inductive ServiceTarget where
  | every
  | one (port : Port) (name : Option String)
deriving DecidableEq

namespace ServiceSelector

/-- Reads an identifier. -/
def ofIdentifier (identifier : String) : ServiceSelector :=
  let text := trim identifier.toList
  if text = "*".toList then .any
  else if text = "known_services".toList then .known
  else if isNumeral text ∧ numeralValue text ≤ 65535 then .number (UInt16.ofNat (numeralValue text))
  else .named (String.ofList text)

/-- Looks up what is asked for. -/
def targets (directory : PortDirectory) : ServiceSelector → List ServiceTarget
  | .any => [.every]
  | .known =>
    (directory.listed.filter KnownPort.discoverable).map fun k => .one k.port (some k.name)
  | .number port => [.one port none]
  | .named name => (directory.portsFor name).map fun port => .one port (some name)

end ServiceSelector

namespace ServiceTarget

/-- What an identifier stands for in a directory. -/
def ofIdentifier (directory : PortDirectory) (identifier : String) : List ServiceTarget :=
  (ServiceSelector.ofIdentifier identifier).targets directory

/-- Selects what a target stands for. -/
def select (s : PortSelection) : ServiceTarget → PortSelection
  | .every => s.insertAll
  | .one port _ => s.insert port

/-- Records the name under which a target stands for its port. -/
def record (names : PortNames) : ServiceTarget → PortNames
  | .one port (some name) => names.insert port ((names[port]?.getD ∅).insert name)
  | _ => names

end ServiceTarget

namespace ServicePolicy

/-- The policy of some identifiers. Names are recorded for included ports only. -/
def ofIdentifiers (directory : PortDirectory) (ids : Identifiers) : ServicePolicy :=
  let included := ids.includes.flatMap (ServiceTarget.ofIdentifier directory)
  let excluded := ids.excludes.flatMap (ServiceTarget.ofIdentifier directory)
  { includes := included.foldl ServiceTarget.select PortSelection.empty
    excludes := excluded.foldl ServiceTarget.select PortSelection.empty
    names := included.foldl ServiceTarget.record ∅ }

/-- The identifiers that stand for no port, each as often as it is listed. -/
def unresolved (directory : PortDirectory) (ids : Identifiers) : List String :=
  (ids.includes ++ ids.excludes).filter fun id => (ServiceTarget.ofIdentifier directory id).isEmpty

/-- Resolves the identifiers; one that stands for no port is reported and dropped. -/
def build {ε : Type} (directory : PortDirectory) (ids : Identifiers) :
    Traced BuildEvent ε ServicePolicy := do
  let policy := ofIdentifiers directory ids
  Traced.tell ((unresolved directory ids).map fun id => .unresolvedService (trimmed id))
  Traced.tell
    [.builtServices policy.includes.ports.size policy.includes.any policy.excludes.ports.size]
  return policy

end ServicePolicy

end DiscoveryFilter
