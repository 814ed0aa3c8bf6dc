import DiscoveryFilter.Range.Reader

/-!
# Range sets

A `RangeSet` is the union of the ranges of one comma-separated text. Commas inside braces separate
octet values and not ranges; pieces that are blank are dropped, so the blank text is the empty set.
-/

namespace DiscoveryFilter

open Text

/-- The union of some ranges, in the order they were written. -/
structure RangeSet where
  ranges : List Range
deriving DecidableEq

namespace RangeSet

/-- No range, hence no address. -/
def empty : RangeSet :=
  ⟨[]⟩

/-- The set of one address. -/
def single (address : Ipv4) : RangeSet :=
  ⟨[.block (Block.host address)]⟩

/-- Adds a range at the end. -/
def push (s : RangeSet) (range : Range) : RangeSet :=
  ⟨s.ranges ++ [range]⟩

def size (s : RangeSet) : Nat :=
  s.ranges.length

def isEmpty (s : RangeSet) : Bool :=
  s.ranges.isEmpty

def containsV4 (s : RangeSet) (x : Ipv4) : Bool :=
  s.ranges.any fun range => range.contains x

/-- Addresses of version 6 are never members. -/
def contains (s : RangeSet) : IpAddress → Bool
  | .v4 x => s.containsV4 x
  | .v6 _ => false

/-- The ranges joined by commas. -/
def write (s : RangeSet) : List Char :=
  [','].intercalate (s.ranges.map Range.write)

instance : ToString RangeSet := ⟨fun s => String.ofList s.write⟩

/-- The brackets inside which a comma does not separate ranges. -/
def braces : Nesting :=
  ⟨['{'], ['}']⟩

/-- The trimmed texts between the separating commas, without the blank ones. -/
def split (spec : List Char) : List (List Char) :=
  ((braces.split ',' spec).map trim).filter fun piece => !piece.isEmpty

/-- The pieces of a text, each of which is read as one range. -/
def pieces (spec : String) : List String :=
  (split spec.toList).map String.ofList

/-- Reads every piece; the first piece that is refused refuses the whole text. -/
def parse (spec : String) : Except RangeError RangeSet :=
  RangeSet.mk <$> (pieces spec).mapM Range.parse

/-- The spans written upside down among the ranges that are read, up to the first refused piece. -/
def invertedSpans (spec : String) : List Span :=
  let readable := ((pieces spec).map Range.parse).takeWhile fun r => r.toOption.isSome
  readable.filterMap fun r => r.toOption.bind Range.invertedSpan?

end RangeSet

end DiscoveryFilter
