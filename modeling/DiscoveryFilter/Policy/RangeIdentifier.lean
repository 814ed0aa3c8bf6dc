import DiscoveryFilter.Policy.BuildEvent
import DiscoveryFilter.Policy.Identifiers
import DiscoveryFilter.Policy.RangePolicy

/-!
# Range identifiers

An identifier of a range policy is one of five symbols that stand for facts of the site, or the
text of a range set. Blanks around it do not count.
-/

namespace DiscoveryFilter

open Text

/-- Identifiers with a meaning of their own. -/
inductive RangeSymbol where
  | any
  | managed
  | agent
  | outscopeClients
  | outscopeServers
deriving DecidableEq

namespace RangeSymbol

/-- The spelling of the symbols. -/
def table : List (String × RangeSymbol) :=
  [("probe_ranges", .managed), ("ddm_related_connections", .agent),
   ("outscope_clients", .outscopeClients), ("outscope_servers", .outscopeServers), ("*", .any)]

/-- The symbol that an identifier spells, blanks around it aside. -/
def ofIdentifier? (identifier : String) : Option RangeSymbol :=
  table.lookup (trimmed identifier)

/-- What a symbol stands for in a site. -/
def criterion (site : Site) : RangeSymbol → Criterion
  | .any => .any
  | .managed => .within site.managed
  | .agent => .within (.single site.agent)
  | .outscopeClients => .outscopeClients site.outOfScope
  | .outscopeServers => .outscopeServers site.outOfScope

end RangeSymbol

namespace Criterion

/-- The criterion that an identifier stands for. -/
def ofIdentifier (site : Site) (identifier : String) : Except RangeError Criterion :=
  match RangeSymbol.ofIdentifier? identifier with
  | some symbol => .ok (symbol.criterion site)
  | none => Criterion.within <$> RangeSet.parse (trimmed identifier)

/-- What resolving an identifier reports: the spans of its text that are upside down. -/
def buildEvents (identifier : String) : List BuildEvent :=
  match RangeSymbol.ofIdentifier? identifier with
  | some _ => []
  | none => (RangeSet.invertedSpans (trimmed identifier)).map .invertedSpan

/-- Resolves an identifier. -/
def resolve (site : Site) (identifier : String) : Traced BuildEvent RangeError Criterion :=
  ⟨buildEvents identifier, ofIdentifier site identifier⟩

end Criterion

namespace RangePolicy

/-- Resolves the identifiers, those to include first. With none to include, the managed ranges are
included. -/
def build (site : Site) (ids : Identifiers) : Traced BuildEvent RangeError RangePolicy := do
  let includes ←
    if ids.includes.isEmpty then pure [.within site.managed]
    else ids.includes.mapM (Criterion.resolve site)
  let excludes ← ids.excludes.mapM (Criterion.resolve site)
  Traced.tell [.builtRanges includes.length excludes.length]
  return ⟨includes, excludes⟩

end RangePolicy

end DiscoveryFilter
