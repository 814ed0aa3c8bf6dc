/-!
# Blank characters and trimming

`isBlank` is Unicode's White_Space property. `trim` drops blank characters from both ends of a
text and touches nothing between them, so a text is blank exactly when trimming leaves nothing.
-/

namespace DiscoveryFilter.Text

/-- Closed ranges of code points, tested one after the other. -/
def inRanges (ranges : List (Nat × Nat)) (n : Nat) : Bool :=
  ranges.any fun r => decide (r.1 ≤ n) && decide (n ≤ r.2)

/-- The code points with the White_Space property, in ascending order. -/
def blankRanges : List (Nat × Nat) :=
  [(0x9, 0xD), (0x20, 0x20), (0x85, 0x85), (0xA0, 0xA0), (0x1680, 0x1680), (0x2000, 0x200A),
   (0x2028, 0x2029), (0x202F, 0x202F), (0x205F, 0x205F), (0x3000, 0x3000)]

/-- White space of any script: tabs, line ends, spaces of every width. -/
def isBlank (c : Char) : Bool :=
  inRanges blankRanges c.toNat

/-- Drops the blank characters a text starts with. -/
def trimStart (cs : List Char) : List Char :=
  cs.dropWhile isBlank

/-- Drops the blank characters a text ends with. -/
def trimEnd (cs : List Char) : List Char :=
  (cs.reverse.dropWhile isBlank).reverse

/-- Drops the blank characters at both ends. -/
def trim (cs : List Char) : List Char :=
  trimEnd (trimStart cs)

/-- `trim` on strings. -/
def trimmed (s : String) : String :=
  String.ofList (trim s.toList)

@[simp] theorem toList_trimmed (s : String) : (trimmed s).toList = trim s.toList :=
  String.toList_ofList

end DiscoveryFilter.Text
