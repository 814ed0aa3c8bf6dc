/-!
# Why a range text is refused

Each cause carries the part of the text it blames, so that the author of a configuration finds it.
-/

namespace DiscoveryFilter

/-- The causes for which a range text is refused. -/
inductive RangeError where
  /-- The text is blank. -/
  | emptyToken
  /-- The text has both a `-` and a `/`. -/
  | mixedNotation (token : String)
  /-- A dotted text does not have four parts. -/
  | octetCount (token : String) (count : Nat)
  /-- An octet is in none of the notations. -/
  | invalidOctet (octet : String)
  /-- A numeral inside `token` exceeds 255. -/
  | octetOutOfRange (token : String) (value : Nat)
  /-- The bounds of a span of octet values are upside down. -/
  | invertedOctetSpan (octet : String)
  /-- An address is needed and one of its four parts is no numeral. -/
  | notLiteralAddress (token : String)
  /-- A block length is neither a number up to 32 nor a dotted text. -/
  | invalidLength (text : String)
  /-- A dotted block length is no netmask. -/
  | unknownNetmask (text : String)
  /-- A span has several dashes, or nothing on one side of its dash. -/
  | malformedSpan (token : String)
deriving DecidableEq

/-- The wording of a cause. -/
def RangeError.message : RangeError → String
  | .emptyToken => "range token is empty"
  | .mixedNotation token => "'" ++ token ++ "' mixes span ('-') and prefix ('/') notation"
  | .octetCount token count => "'" ++ token ++ "' has " ++ toString count ++ " octets, expected 4"
  | .invalidOctet octet => "invalid octet '" ++ octet ++ "'"
  | .octetOutOfRange token value =>
    "octet value " ++ toString value ++ " in '" ++ token ++ "' is out of range 0-255"
  | .invertedOctetSpan octet =>
    "octet span '" ++ octet ++ "' has its lower bound above its upper bound"
  | .notLiteralAddress token => "'" ++ token ++ "' must be a literal dotted-quad address"
  | .invalidLength text =>
    "invalid prefix length '" ++ text ++ "', expected 0-32 or a dotted netmask"
  | .unknownNetmask text => "'" ++ text ++ "' is not a standard netmask"
  | .malformedSpan token =>
    "span '" ++ token ++ "' must have exactly one '-' between two addresses"

end DiscoveryFilter
