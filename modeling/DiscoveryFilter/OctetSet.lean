import DiscoveryFilter.Text.Numeral

/-!
# Sets of octet values

An `OctetSet` holds the values allowed at one position of a dotted quad. The values keep the order
they were written in, the first occurrence of each counting; two words of 128 bits beside them
answer membership. `write` picks the shortest notation: `*`, a numeral, `[a-b]` or a list in braces.
-/

namespace DiscoveryFilter

/-- Octet values in the order they were added, and the same values as bits of two words. -/
structure OctetSet where
  values : List UInt8
  /-- Bit `v` stands for the value `v`. -/
  low : BitVec 128
  /-- Bit `v` stands for the value `128 + v`. -/
  high : BitVec 128
deriving DecidableEq

namespace OctetSet

/-- No value at all. -/
def empty : OctetSet :=
  ⟨[], 0, 0⟩

/-- The bit of a value. -/
def contains (s : OctetSet) (v : UInt8) : Bool :=
  if v < 128 then s.low.getLsbD v.toNat else s.high.getLsbD (v.toNat - 128)

/-- Adds a value at the end, unless it is there already. -/
def push (s : OctetSet) (v : UInt8) : OctetSet :=
  if s.contains v then s
  else if v < 128 then
    { s with values := s.values ++ [v], low := s.low ||| BitVec.twoPow 128 v.toNat }
  else
    { s with values := s.values ++ [v], high := s.high ||| BitVec.twoPow 128 (v.toNat - 128) }

@[simp] theorem contains_empty (v : UInt8) : empty.contains v = false := by
  simp [contains, empty]

/-- Setting one bit of a word makes that bit true and no other. -/
theorem getLsbD_or_twoPow (word : BitVec 128) {i k : Nat} (hk : k < 128) :
    (word ||| BitVec.twoPow 128 k).getLsbD i = (decide (i = k) || word.getLsbD i) := by
  rw [BitVec.getLsbD_or, BitVec.getLsbD_twoPow, decide_eq_true hk, Bool.true_and, Bool.or_comm]
  simp only [eq_comm]

/-- A value that is added is a member, and no other membership changes. -/
@[simp] theorem contains_push (s : OctetSet) (v w : UInt8) :
    (s.push v).contains w = (decide (w = v) || s.contains w) := by
  have hv := v.toNat_lt
  have hw := w.toNat_lt
  have lt_iff (x : UInt8) : x < 128 ↔ x.toNat < 128 := UInt8.lt_iff_toNat_lt
  unfold push
  split
  · next hs =>
    by_cases h : w = v
    · simp [h, hs]
    · simp [h]
  · split
    · next hlow =>
      have hlow := (lt_iff v).1 hlow
      by_cases hwl : w < 128
      · simp only [contains, hwl, if_true, getLsbD_or_twoPow _ hlow, UInt8.toNat_inj]
      · have : w ≠ v := fun h => hwl (h ▸ (lt_iff v).2 hlow)
        simp [contains, hwl, this]
    · next hhigh =>
      have hk : v.toNat - 128 < 128 := by omega
      have hv128 : ¬ v.toNat < 128 := fun h => hhigh ((lt_iff v).2 h)
      by_cases hwl : w < 128
      · have : w ≠ v := fun h => hhigh (h ▸ hwl)
        simp [contains, hwl, this]
      · have hw128 : ¬ w.toNat < 128 := fun h => hwl ((lt_iff w).2 h)
        have heq : (w.toNat - 128 = v.toNat - 128) ↔ w = v := by
          rw [← UInt8.toNat_inj]
          omega
        simp only [contains, hwl, if_false, getLsbD_or_twoPow _ hk, heq]

/-- Adds values one after the other. -/
def pushAll (s : OctetSet) (vs : List UInt8) : OctetSet :=
  vs.foldl push s

/-- Adds the values of another set in their order. -/
def extend (s t : OctetSet) : OctetSet :=
  s.pushAll t.values

/-- One value. -/
def single (v : UInt8) : OctetSet :=
  empty.push v

/-- The values from `first` up to and including `last`, in ascending order. -/
def interval (first last : UInt8) : List UInt8 :=
  (List.range' first.toNat (last.toNat + 1 - first.toNat)).map UInt8.ofNat

/-- The values from `first` up to and including `last`. -/
def span (first last : UInt8) : OctetSet :=
  empty.pushAll (interval first last)

/-- Every value. -/
def full : OctetSet :=
  span 0 255

def size (s : OctetSet) : Nat :=
  s.values.length

def isEmpty (s : OctetSet) : Bool :=
  s.values.isEmpty

/-- All 256 values are there. -/
def isFull (s : OctetSet) : Bool :=
  s.size == 256

/-- Each value is the one before it plus one, where `0` follows `255`. -/
def isRun : List UInt8 → Bool
  | v :: w :: rest => w == v + 1 && isRun (w :: rest)
  | _ => true

/-- The shortest notation of a set. -/
def write (s : OctetSet) : List Char :=
  if s.isFull then ['*']
  else
    match s.values with
    | [v] => Text.numeral v.toNat
    | vs =>
      let first := vs.headD 0
      let last := vs.getLastD 0
      if isRun vs && decide (first < last) then
        '[' :: Text.numeral first.toNat ++ '-' :: Text.numeral last.toNat ++ [']']
      else
        '{' :: [','].intercalate (vs.map fun v => Text.numeral v.toNat) ++ ['}']

instance : ToString OctetSet := ⟨fun s => String.ofList s.write⟩

end OctetSet

end DiscoveryFilter
