import DiscoveryFilter.Range.Error

/-!
# Why a plugin is not built

A plugin that nobody registered is a cause of its own, because callers skip it and go on, whereas
they give up on every other cause.
-/

namespace DiscoveryFilter

/-- The kinds of plugins. -/
inductive PluginKind where
  | acceptor
  | approach
  | reporter
deriving DecidableEq

def PluginKind.noun : PluginKind → String
  | .acceptor => "acceptor"
  | .approach => "approach"
  | .reporter => "reporter"

/-- The causes for which a plugin is not built. -/
inductive PluginError where
  /-- No plugin of that kind has that name. -/
  | unknownPlugin (kind : PluginKind) (name : String)
  /-- A range in the plugin's configuration is refused. -/
  | range (cause : RangeError)
  /-- An element lacks something it needs. -/
  | missingAttribute (tag missing : String)
deriving DecidableEq

namespace PluginError

/-- The wording of a cause. -/
def message : PluginError → String
  | .unknownPlugin kind name =>
    "no " ++ kind.noun ++ " plugin registered under '" ++ name ++ "'"
  | .range cause => cause.message
  | .missingAttribute tag missing => "<" ++ tag ++ "> element has no " ++ missing

/-- Callers skip the plugin and go on. -/
def isUnknownPlugin : PluginError → Bool
  | .unknownPlugin _ _ => true
  | _ => false

end PluginError

end DiscoveryFilter
