import DiscoveryFilter.Policy.Error

/-!
# Why a scope is not loaded

Each cause names the scope and, where there is one, the reporter that was being built. `chain` tells
the causes from the outermost one to the error of the plugin.
-/

namespace DiscoveryFilter

/-- The causes for which scopes are not loaded. -/
inductive LoadError where
  /-- There is no element that holds scopes. -/
  | noScopes
  /-- Two scopes have the same name. -/
  | duplicateScope (name : String)
  /-- A scope has no name. -/
  | scopeName (cause : PluginError)
  | approaches (scope : String) (cause : PluginError)
  | filtering (scope : String) (cause : PluginError)
  /-- A reporter has no name. -/
  | reporterName (scope : String) (cause : PluginError)
  | reporterBuild (scope reporter : String) (cause : PluginError)
  | reporterFiltering (scope reporter : String) (cause : PluginError)
deriving DecidableEq

namespace LoadError

/-- The error of a plugin that the load failed with. -/
def cause? : LoadError → Option PluginError
  | .noScopes | .duplicateScope _ => none
  | .scopeName cause | .approaches _ cause | .filtering _ cause | .reporterName _ cause
  | .reporterBuild _ _ cause | .reporterFiltering _ _ cause => some cause

/-- What was being done, outermost first; for an error without a plugin's cause, what is wrong. -/
def contexts : LoadError → List String
  | .noScopes => ["configuration has no <scopes> element"]
  | .duplicateScope name => ["scope '" ++ name ++ "' is defined more than once"]
  | .scopeName _ => ["loading discovery scope"]
  | .approaches scope _ => ["building approaches of scope '" ++ scope ++ "'"]
  | .filtering scope _ => ["building filtering of scope '" ++ scope ++ "'"]
  | .reporterName scope _ => ["building reporters of scope '" ++ scope ++ "'"]
  | .reporterBuild scope reporter _ =>
    ["building reporters of scope '" ++ scope ++ "'", "building reporter '" ++ reporter ++ "'"]
  | .reporterFiltering scope reporter _ =>
    ["building reporters of scope '" ++ scope ++ "'",
      "building filtering of reporter '" ++ reporter ++ "'"]

/-- All messages, outermost first, the root cause last. -/
def chain (e : LoadError) : List String :=
  e.contexts ++ e.cause?.toList.map PluginError.message

/-- The outermost message. -/
def message (e : LoadError) : String :=
  e.chain.headD ""

end LoadError

end DiscoveryFilter
