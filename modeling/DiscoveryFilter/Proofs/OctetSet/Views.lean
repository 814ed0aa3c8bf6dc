import DiscoveryFilter.Proofs.RangeSet.Writing

/-!
# The two views of an octet set

An octet set is kept twice: as the list of its values, which is what gets written and counted, and
as bits, which answer membership. `Coherent` says that the two agree. Adding values and whole sets
to the empty set keeps it, and every set that is made or read comes about in this way. A list in
braces denotes the values of its entries one entry after the other.
-/

namespace DiscoveryFilter

open Text

namespace OctetSet

/-- The sets that adding values and whole sets makes of the empty set. -/
inductive Reachable : OctetSet → Prop
  | empty : Reachable empty
  | push {s : OctetSet} (v : UInt8) : Reachable s → Reachable (s.push v)
  | extend {s t : OctetSet} : Reachable s → Reachable t → Reachable (s.extend t)

/-- The list and the bits of a set say the same. -/
structure Coherent (s : OctetSet) : Prop where
  nodup : s.values.Nodup
  /-- The bit of a value is set if the value is listed. -/
  contains_iff : ∀ v, s.contains v = true ↔ v ∈ s.values
  /-- The length of the list tells whether every bit is set. -/
  isFull_iff : s.isFull = true ↔ ∀ v, s.contains v = true

variable {s t : OctetSet}

theorem Lists.coherent {vs : List UInt8} (h : s.Lists vs) : s.Coherent where
  nodup := h.nodup
  contains_iff v := by rw [h.contains, h.mem_values_iff]
  isFull_iff := by
    rw [h.isFull_iff]
    exact forall_congr' fun v => by rw [h.contains, h.mem_values_iff]

/-! ## What is reachable -/

namespace Reachable

/-- Each step keeps that the set lists something: a value goes to the end of what is listed, and so
do the values of a whole set. -/
theorem exists_lists (h : s.Reachable) : ∃ vs, s.Lists vs := by
  induction h with
  | empty => exact ⟨[], lists_empty⟩
  | push v _ ih =>
    obtain ⟨vs, hvs⟩ := ih
    exact ⟨vs ++ [v], hvs.push v⟩
  | @extend s t _ _ ihs _ =>
    obtain ⟨vs, hvs⟩ := ihs
    exact ⟨vs ++ t.values, hvs.pushAll t.values⟩

theorem pushAll (h : s.Reachable) (vs : List UInt8) : (s.pushAll vs).Reachable := by
  induction vs generalizing s with
  | nil => exact h
  | cons v vs ih => exact ih (h.push v)

theorem coherent (h : s.Reachable) : s.Coherent := by
  obtain ⟨vs, hvs⟩ := h.exists_lists
  exact hvs.coherent

/-- The list alone determines a set, as it determines the bits. -/
theorem eq_of_values_eq (hs : s.Reachable) (ht : t.Reachable) (h : s.values = t.values) : s = t := by
  obtain ⟨vs, hvs⟩ := hs.exists_lists
  obtain ⟨ws, hws⟩ := ht.exists_lists
  have hself := hvs.self
  rw [h] at hself
  exact hself.unique hws.self

end Reachable

theorem Lists.reachable {vs : List UInt8} (h : s.Lists vs) : s.Reachable := by
  rw [lists_iff.1 h]
  exact Reachable.empty.pushAll vs

theorem Filled.reachable (h : s.Filled) : s.Reachable :=
  h.lists.reachable

/-! ## What is read -/

theorem filled_of_read {octet : List Char} (h : OctetSet.read octet = .ok s) : s.Filled := by
  obtain ⟨vs, htext, hs⟩ := exists_octetText_of_read h
  exact ⟨vs, htext.values_ne_nil, hs⟩

/-- The octets of a pattern, those included that stand for missing ones. -/
theorem filled_of_parse {token : String} {p : Pattern} (h : Range.parse token = .ok (.pattern p)) :
    ∀ s ∈ p.octets, s.Filled :=
  (Range.Made.parsed h).filled

/-- A list in braces is read entry by entry. -/
theorem read_braces_eq_ok_iff {inner : List Char} :
    OctetSet.read ('{' :: (inner ++ ['}'])) = .ok s ↔
      ∃ vss, List.Forall₂ ItemText (inner.splitOn ',') vss ∧ s.Lists vss.flatten := by
  rw [read_braces, readItems_eq_ok_iff]
  simp only [separated_iff fun p vs hp => ItemText.comma_not_mem hp]

/-- **The list and the bits of an octet set agree.** A set that is made by adding values and whole
sets is coherent, and its list determines it. Single values, spans and the full set are made so, and
so is every octet that is read, alone or in a pattern; such an octet has a first value to write. A
list in braces is read exactly if each entry between its commas is a numeral or an interval, and it
then lists the values of the entries in turn, each where it comes first. -/
theorem list_and_bits_agree :
    (∀ s, Reachable s → Coherent s) ∧
      (∀ s t, Reachable s → Reachable t → s.values = t.values → s = t) ∧
      ((∀ v, Reachable (single v)) ∧ (∀ a b, Reachable (span a b)) ∧ Reachable full) ∧
      (∀ octet s, OctetSet.read octet = .ok s → Reachable s ∧ s.values ≠ []) ∧
      (∀ token p, Range.parse token = .ok (.pattern p) →
        ∀ s ∈ p.octets, Reachable s ∧ s.values ≠ []) ∧
      ∀ inner s, OctetSet.read ('{' :: (inner ++ ['}'])) = .ok s ↔
        ∃ vss, List.Forall₂ ItemText (inner.splitOn ',') vss ∧ s.Lists vss.flatten := by
  refine ⟨fun s hs => hs.coherent, fun s t hs ht => hs.eq_of_values_eq ht, ⟨?_, ?_, ?_⟩, ?_, ?_, ?_⟩
  · intro v
    exact Reachable.empty.push v
  · intro a b
    exact Reachable.empty.pushAll (interval a b)
  · exact Reachable.empty.pushAll (interval 0 255)
  · intro octet s hs
    have hfilled := filled_of_read hs
    exact ⟨hfilled.reachable, hfilled.values_ne_nil⟩
  · intro token p hp s hs
    have hfilled := filled_of_parse hp s hs
    exact ⟨hfilled.reachable, hfilled.values_ne_nil⟩
  · intro inner s
    exact read_braces_eq_ok_iff

/-- An entry adds what the entries before it have not named. -/
example : (OctetSet.read "{7, 3,7,2-4}".toList).toOption.map values = some [7, 3, 2, 4] := by
  decide +kernel

end OctetSet

end DiscoveryFilter
