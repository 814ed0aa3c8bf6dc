import DiscoveryFilter.Proofs.Range.Writing
import DiscoveryFilter.Proofs.RangeSet.Listing

/-!
# Range sets and their text

A range set that is written and read again holds the same addresses in ranges of the same kinds. It
is the same set, unless an octet holds every value in an order of its own, which `*` does not tell.
-/

namespace DiscoveryFilter

open Text

/-! ## Where ranges come from -/

namespace OctetSet

/-- The octet sets that are made without a text. -/
inductive Made : OctetSet → Prop
  | single (v : UInt8) : Made (single v)
  | full : Made full
  | span {a b : UInt8} : a ≤ b → Made (span a b)

theorem Made.filled {s : OctetSet} (h : s.Made) : s.Filled := by
  cases h with
  | single v => exact filled_single v
  | full => exact filled_full
  | span hle => exact filled_span hle

end OctetSet

theorem IntervalText.values_ne_nil {t : List Char} {vs : List UInt8} (h : IntervalText t vs) :
    vs ≠ [] := by
  obtain ⟨_, _, _, _, a, b, _, _, _, _, hle, _, rfl⟩ := h
  exact List.ne_nil_of_mem (OctetSet.mem_interval.2 ⟨UInt8.le_refl a, hle⟩)

/-- An octet denotes at least one value. -/
theorem OctetText.values_ne_nil {t : List Char} {vs : List UInt8} (h : OctetText t vs) :
    vs ≠ [] := by
  cases h with
  | any => exact List.ne_nil_of_mem (OctetSet.mem_interval_full 0)
  | value _ => exact List.cons_ne_nil _ _
  | interval hinterval => exact hinterval.values_ne_nil
  | list hlist =>
    obtain ⟨pieces, hne, -, hpieces⟩ := hlist
    cases hpieces with
    | nil => exact absurd rfl hne
    | cons hitem _ =>
      intro hflatten
      rw [List.flatten_cons, List.append_eq_nil_iff] at hflatten
      cases hitem with
      | value _ _ => exact List.cons_ne_nil _ _ hflatten.1
      | interval hinterval => exact hinterval.values_ne_nil hflatten.1

theorem Pattern.filled_of_patternText {t : List Char} {p : Pattern} {vss : List (List UInt8)}
    (htext : PatternText t vss) (hlists : List.Forall₂ OctetSet.Lists p.octets vss) :
    p.Filled := by
  obtain ⟨-, hparts⟩ := patternText_iff.1 htext
  intro s hs
  clear htext
  generalize parts t = parts at hparts
  generalize p.octets = octets at hlists hs
  induction hlists generalizing parts with
  | nil => cases hs
  | cons hs' _ ih =>
    cases hparts with
    | cons hoctet hparts =>
      rcases List.mem_cons.1 hs with rfl | hs
      · exact ⟨_, hoctet.values_ne_nil, hs'⟩
      · exact ih _ hparts hs

namespace Range

/-- The ranges that are read, and those that are made of addresses and octet sets. -/
inductive Made : Range → Prop
  | parsed {token : String} {r : Range} : Range.parse token = .ok r → Made r
  | block (b : Block) : Made (.block b)
  | span (s : Span) : Made (.span s)
  | pattern {p : Pattern} : (∀ s ∈ p.octets, s.Made) → Made (.pattern p)

theorem Made.filled {r : Range} (h : r.Made) : r.Filled := by
  cases h with
  | @parsed token r hr =>
    have htext := rangeText_of_read (tight_trim token.toList) hr
    cases htext with
    | block _ _ => trivial
    | span _ _ => trivial
    | pattern _ hpattern hlists => exact Pattern.filled_of_patternText hpattern hlists
  | block b => trivial
  | span s => trivial
  | pattern hp =>
    intro s hs
    exact (hp s hs).filled

/-- Both are blocks, both are spans or both are patterns. -/
def SameKind : Range → Range → Prop
  | .block _, .block _ => True
  | .span _, .span _ => True
  | .pattern _, .pattern _ => True
  | _, _ => False

theorem sameKind_normal (r : Range) : SameKind r r.normal := by
  cases r <;> trivial

end Range

/-! ## Sets of all values -/

/-- Every value is there, but the values are not in ascending order. -/
def OctetSet.IsShuffled (s : OctetSet) : Prop :=
  (∀ v, v ∈ s.values) ∧ s.values ≠ OctetSet.interval 0 255

theorem Range.normal_eq_self_iff {r : Range} (h : r.Filled) :
    r.normal = r ↔ ∀ p, r = .pattern p → ∀ s ∈ p.octets, ¬ s.IsShuffled := by
  cases r with
  | block b => simp [normal]
  | span s => simp [normal]
  | pattern p =>
    have hoctet : ∀ s ∈ p.octets, (s.normal = s ↔ ¬ s.IsShuffled) := by
      intro s hs
      rw [OctetSet.normal_eq_self_iff (h s hs), OctetSet.IsShuffled, not_and_not_right]
    rw [normal, Range.pattern.injEq, Pattern.normal_eq_self_iff]
    constructor
    · rintro hall q heq s hs
      obtain rfl := Range.pattern.inj heq
      exact (hoctet s hs).1 (hall s hs)
    · intro hall s hs
      exact (hoctet s hs).2 (hall p rfl s hs)

namespace RangeSet

/-- What is read back from the text of a set. -/
def normal (R : RangeSet) : RangeSet :=
  ⟨R.ranges.map Range.normal⟩

variable {R : RangeSet}

/-- The text of a set is cut into the texts of its ranges. -/
theorem split_write (h : ∀ r ∈ R.ranges, r.Filled) : split R.write = R.ranges.map Range.write := by
  have hpieces : ∀ q ∈ R.ranges.map Range.write, trim q = q ∧ q ≠ [] ∧ Readable q := by
    intro q hq
    obtain ⟨r, hr, rfl⟩ := List.mem_map.1 hq
    have htrim := trim_of_tight r.tight_write
    refine ⟨htrim, Range.ne_nil_of_rangeText (Range.rangeText_write (h r hr)), .inr ⟨r.normal, ?_⟩⟩
    rw [htrim]
    exact Range.read_write (h r hr)
  have htrims : (R.ranges.map Range.write).map trim = R.ranges.map Range.write := by
    refine (List.map_congr_left ?_).trans (List.map_id _)
    intro q hq
    exact (hpieces q hq).1
  rw [write, split_intercalate_comma fun q hq => (hpieces q hq).2.2, htrims, List.filter_eq_self]
  intro q hq
  simpa using (hpieces q hq).2.1

theorem parse_write (h : ∀ r ∈ R.ranges, r.Filled) :
    RangeSet.parse (toString R) = .ok R.normal := by
  have htext : (toString R).toList = R.write := String.toList_ofList
  rw [parse_eq_ok_iff_forall₂, htext, split_write h, normal, List.forall₂_map_left_iff,
    List.forall₂_map_right_iff, List.forall₂_same]
  intro r hr
  rw [trim_of_tight r.tight_write]
  exact Range.read_write (h r hr)

theorem write_normal (R : RangeSet) : R.normal.write = R.write := by
  rw [write, write, normal, List.map_map]
  refine congrArg _ (List.map_congr_left ?_)
  intro r _
  exact r.write_normal

theorem contains_normal (h : ∀ r ∈ R.ranges, r.Filled) (x : IpAddress) :
    R.normal.contains x = R.contains x := by
  cases x with
  | v6 text => rfl
  | v4 x =>
    rw [Bool.eq_iff_iff, contains, contains, containsV4, containsV4, normal, List.any_map,
      List.any_eq_true, List.any_eq_true]
    refine exists_congr fun r => and_congr_right ?_
    intro hr
    rw [Function.comp_apply, Range.contains_normal (h r hr)]

theorem normal_eq_self_iff (h : ∀ r ∈ R.ranges, r.Filled) :
    R.normal = R ↔ ∀ p, .pattern p ∈ R.ranges → ∀ s ∈ p.octets, ¬ s.IsShuffled := by
  obtain ⟨ranges⟩ := R
  have hself : ranges.map Range.normal = ranges ↔ ∀ r ∈ ranges, r.normal = r := by
    have hmap := List.map_inj_left (f := Range.normal) (g := id) (l := ranges)
    rw [List.map_id] at hmap
    exact hmap
  rw [normal, mk.injEq, hself]
  constructor
  · intro hall p hp
    exact (Range.normal_eq_self_iff (h _ hp)).1 (hall _ hp) p rfl
  · intro hall r hr
    rw [Range.normal_eq_self_iff (h r hr)]
    rintro p rfl
    exact hall p hr

/-- **A written range set is read back.** Reading the text of a set of ranges, wherever these come
from, gives ranges of the same kinds in the same order, with the same text and the same addresses.
They are the same ranges exactly if no octet lists all values out of order. -/
theorem exists_parse_toString (h : ∀ r ∈ R.ranges, r.Made) :
    ∃ R', RangeSet.parse (toString R) = .ok R' ∧
      List.Forall₂ Range.SameKind R.ranges R'.ranges ∧
      toString R' = toString R ∧
      (∀ x, R'.contains x = R.contains x) ∧
      (R' = R ↔ ∀ p, .pattern p ∈ R.ranges → ∀ s ∈ p.octets, ¬ s.IsShuffled) := by
  have hfilled : ∀ r ∈ R.ranges, r.Filled := fun r hr => (h r hr).filled
  refine ⟨R.normal, parse_write hfilled, ?_, ?_, contains_normal hfilled,
    normal_eq_self_iff hfilled⟩
  · rw [normal, List.forall₂_map_right_iff, List.forall₂_same]
    intro r _
    exact r.sameKind_normal
  · exact congrArg String.ofList R.write_normal

/-- A block, a span, a pattern and one more range. -/
def mixed (r : Range) : RangeSet :=
  ⟨[.block (Block.host ⟨10, 0, 0, 5⟩), .span ⟨⟨10, 0, 3, 15⟩, ⟨10, 0, 6, 42⟩⟩,
    .pattern ⟨.single 10, .full, .span 1 5, .single 0⟩, r]⟩

theorem exists_parse_toString_mixed : ∃ r, Range.parse "10.0.\x7b3,1\x7d.\x7b1-255,0\x7d" = .ok r ∧
    (∀ r' ∈ (mixed r).ranges, r'.Made) ∧
    ∃ R', RangeSet.parse (toString (mixed r)) = .ok R' ∧
      List.Forall₂ Range.SameKind (mixed r).ranges R'.ranges ∧
      toString R' = toString (mixed r) ∧
      (∀ x, R'.contains x = (mixed r).contains x) ∧
      (R' = mixed r ↔ ∀ p, .pattern p ∈ (mixed r).ranges → ∀ s ∈ p.octets, ¬ s.IsShuffled) := by
  obtain ⟨r, hr⟩ : ∃ r, Range.parse "10.0.\x7b3,1\x7d.\x7b1-255,0\x7d" = .ok r :=
    exists_ok_of_isOk (by decide +kernel)
  have hpattern : (Range.pattern ⟨.single 10, .full, .span 1 5, .single 0⟩).Made := by
    refine .pattern ?_
    dsimp only [Pattern.octets]
    rw [List.forall_mem_cons, List.forall_mem_cons, List.forall_mem_cons,
      List.forall_mem_singleton]
    exact ⟨.single 10, .full, .span (by decide), .single 0⟩
  have hmade : ∀ r' ∈ (mixed r).ranges, r'.Made := by
    rw [mixed, List.forall_mem_cons, List.forall_mem_cons, List.forall_mem_cons,
      List.forall_mem_singleton]
    exact ⟨.block _, .span _, hpattern, .parsed hr⟩
  exact ⟨r, hr, hmade, exists_parse_toString hmade⟩

/-- A full octet forgets its order, and a run that goes past the largest value keeps its braces. -/
example : ((RangeSet.parse "10.0.\x7b1-255,0\x7d.\x7b255,0\x7d").map toString).toOption =
    some "10.0.*.\x7b255,0\x7d" := by
  decide +kernel

end RangeSet

end DiscoveryFilter
