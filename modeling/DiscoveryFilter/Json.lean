/-!
# JSON values

A `Json` value as it is read from a document. The members of an object keep their order and may
repeat a name; what a repeated name means is decided where an object is decoded.
-/

namespace DiscoveryFilter

/-- A value of a JSON document. -/
inductive Json where
  | null
  | bool (value : Bool)
  /-- The number `mantissa / 10 ^ places`. -/
  | number (mantissa : Int) (places : Nat)
  | string (value : String)
  | array (items : List Json)
  | object (members : List (String × Json))
deriving Inhabited

namespace Json

mutual

/-- How many arrays and objects stand inside one another. -/
def nesting : Json → Nat
  | .array items => nestingAll items + 1
  | .object members => nestingMembers members + 1
  | _ => 0

/-- The deepest nesting among some values. -/
def nestingAll : List Json → Nat
  | [] => 0
  | j :: js => max (nesting j) (nestingAll js)

/-- The deepest nesting among the values of some members. -/
def nestingMembers : List (String × Json) → Nat
  | [] => 0
  | (_, j) :: ms => max (nesting j) (nestingMembers ms)

end

/-- The text of a string value. -/
def string? : Json → Option String
  | .string s => some s
  | _ => none

end Json

end DiscoveryFilter
