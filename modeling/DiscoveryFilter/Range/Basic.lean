import DiscoveryFilter.Range.Block
import DiscoveryFilter.Range.Pattern
import DiscoveryFilter.Range.Span

/-!
# Address ranges

A `Range` is a set of addresses in one of three notations. Equality is that of the notation: two
ranges that hold the same addresses may differ.
-/

namespace DiscoveryFilter

/-- A block, a span or a pattern. -/
inductive Range where
  | block (block : Block)
  | span (span : Span)
  | pattern (pattern : Pattern)
deriving DecidableEq

namespace Range

def contains : Range → Ipv4 → Bool
  | .block b, x => b.contains x
  | .span s, x => s.contains x
  | .pattern p, x => p.contains x

def write : Range → List Char
  | .block b => b.write
  | .span s => s.write
  | .pattern p => p.write

instance : ToString Range := ⟨fun r => String.ofList r.write⟩

/-- The span of a range that starts above its end. -/
def invertedSpan? : Range → Option Span
  | .span s => if s.isInverted then some s else none
  | _ => none

end Range

end DiscoveryFilter
