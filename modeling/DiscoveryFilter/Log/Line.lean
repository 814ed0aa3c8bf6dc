import DiscoveryFilter.Text.Numeral
import DiscoveryFilter.Text.Quoted

/-!
# Log lines

A `Line` is rendered as its level symbol, its target, its message and its fields, separated by
single spaces. A field value is shown plainly or between quotes, and control characters that a
terminal would act on are kept out of messages.
-/

namespace DiscoveryFilter.Log

/-- How much a line matters. -/
inductive Level where
  | error
  | warn
  | info
  | debug
  | trace
deriving DecidableEq

/-- What a line of a level starts with. -/
def Level.symbol : Level → String
  | .error => "[-]"
  | .warn => "[*]"
  | .info => "[+]"
  | .debug => "[?]"
  | .trace => "[ ]"

/-- The value of a field. -/
inductive Value where
  | plain (text : String)
  | quoted (text : String)
deriving DecidableEq

def Value.render : Value → String
  | .plain text => text
  | .quoted text => Text.quoted text

def Value.ofNat (n : Nat) : Value :=
  .plain (String.ofList (Text.numeral n))

def Value.ofBool (b : Bool) : Value :=
  .plain (if b then "true" else "false")

/-- One line of a log. -/
structure Line where
  level : Level
  target : String
  message : String
  fields : List (String × Value)
deriving DecidableEq

def Line.render (l : Line) : String :=
  let fields := l.fields.map fun field => field.1 ++ "=" ++ field.2.render
  " ".intercalate ([l.level.symbol, l.target ++ ":", Text.disarm l.message] ++ fields)

end DiscoveryFilter.Log
