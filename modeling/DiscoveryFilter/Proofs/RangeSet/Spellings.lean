import DiscoveryFilter.Proofs.Range.Interval
import DiscoveryFilter.Proofs.Range.Writing
import DiscoveryFilter.Proofs.RangeSet.Listing

/-!
# The spellings of a block

The addresses of a block can be written in many ways: with a numeral or a netmask, as the span of
its first and last address, and, where the block ends between two octets, as a pattern. They are
all read, and what they denote is one interval of numbers.
-/

namespace DiscoveryFilter

open Text

namespace Range

/-- The text is that of one range, alone and as a list. -/
def ReadsAs (t : String) (r : Range) : Prop :=
  Range.parse t = .ok r ∧ RangeSet.parse t = .ok ⟨[r]⟩

/-- The text is that of a range that holds the addresses with the numbers from `lo` up to `hi`. -/
def Denotes (t : String) (lo hi : Nat) : Prop :=
  ∃ r, ReadsAs t r ∧ ∀ x : Ipv4, r.contains x = true ↔ lo ≤ x.toNat ∧ x.toNat ≤ hi

theorem readsAs_of_parse {t : String} {r : Range} (h : Range.parse t = .ok r) : ReadsAs t r :=
  ⟨h, RangeSet.parse_of_parse_range h⟩

theorem readsAs_of_rangeText {t : String} {cs : List Char} {r : Range} (ht : t.toList = cs)
    (htight : Tight cs) (h : RangeText cs r) : ReadsAs t r := by
  apply readsAs_of_parse
  rw [Range.parse, ht, trim_of_tight htight]
  exact read_of_rangeText htight h

end Range

theorem toList_toString (n : Nat) : (toString n).toList = numeral n :=
  String.toList_ofList

theorem Ipv4.toList_toString (a : Ipv4) : (toString a).toList = a.write :=
  String.toList_ofList

/-- The leading `k` octets of an address, each with a dot behind it. -/
def Ipv4.leadingText (a : Ipv4) (k : Nat) : String :=
  String.ofList (['.'].intercalate ((a.octets.take k).map fun o => numeral o.toNat) ++ ['.'])

namespace Block

variable (b : Block)

/-- The address with the bits set that count. -/
def netmask : Ipv4 :=
  Ipv4.ofNat (2 ^ 32 - b.size)

/-- The ways to write the addresses of a block. -/
structure Spellings : Prop where
  /-- Address and length, the length as a numeral or as a netmask, are the same range. -/
  same : ∃ r, Range.ReadsAs (toString b.address ++ "/" ++ toString b.length) r ∧
    Range.ReadsAs (toString b.address ++ "/" ++ toString b.netmask) r
  numeral : Range.Denotes (toString b.address ++ "/" ++ toString b.length) b.lower b.upper
  netmask : Range.Denotes (toString b.address ++ "/" ++ toString b.netmask) b.lower b.upper
  /-- The first and the last address. -/
  span : Range.Denotes (toString (Ipv4.ofNat b.lower) ++ "-" ++ toString (Ipv4.ofNat b.upper))
    b.lower b.upper
  /-- The leading octets of the address and a final dot, if the length is that of these octets. -/
  leading : ∀ k, 1 ≤ k → k ≤ 3 → b.length = 8 * k →
    Range.Denotes (b.address.leadingText k) b.lower b.upper
  /-- The address, if every bit counts. -/
  address : b.length = 32 → Range.Denotes (toString b.address) b.lower b.upper ∧
    ∀ x : Ipv4, (RangeSet.single b.address).contains (.v4 x) = true ↔
      b.lower ≤ x.toNat ∧ x.toNat ≤ b.upper
  /-- A star for each octet, if no bit counts. -/
  stars : b.length = 0 → Range.Denotes "*.*.*.*" b.lower b.upper

variable {b}

/-- The address and a text for the length, with a slash between them, denote the block. -/
theorem readsAs_of_lengthText {t : String} {length : List Char}
    (ht : t.toList = b.address.write ++ '/' :: length) (hlength : LengthText length b.length) :
    Range.ReadsAs t (.block b) := by
  have hquad := b.address.quadText_write
  have hchar : ∀ c ∈ b.address.write ++ '/' :: length, c.isDigit = true ∨ c = '.' ∨ c = '/' := by
    intro c hc
    rcases List.mem_append.1 hc with hc | hc
    · exact (hquad.isDigit_or_dot c hc).imp_right .inl
    · rcases List.mem_cons.1 hc with hc | hc
      · exact .inr (.inr hc)
      · exact (hlength.isDigit_or_dot c hc).imp_right .inl
  apply Range.readsAs_of_rangeText ht
  · apply tight_of_forall
    intro c hc
    rcases hchar c hc with hdigit | rfl | rfl
    · exact isBlank_of_isDigit hdigit
    · rfl
    · rfl
  · have hblock : BlockText (b.address.write ++ '/' :: length) b :=
      ⟨b.address.write, [], [], length, hquad, blank_nil, blank_nil, hlength, by simp⟩
    refine .block ?_ hblock
    intro hdash
    rcases hchar '-' hdash with h | h | h
    · exact absurd h (by decide)
    · exact absurd h (by decide)
    · exact absurd h (by decide)

theorem readsAs_numeral :
    Range.ReadsAs (toString b.address ++ "/" ++ toString b.length) (.block b) := by
  refine readsAs_of_lengthText ?_ (lengthText_numeral b.length_le)
  rw [String.toList_append, String.toList_append, Ipv4.toList_toString, toList_toString,
    List.append_assoc]
  rfl

theorem netmask_mem_table : (toString b.netmask, b.length) ∈ Netmask.table := by
  have htable : ∀ p < 33, (toString (Ipv4.ofNat (2 ^ 32 - 2 ^ (32 - p))), p) ∈ Netmask.table := by
    decide +kernel
  exact htable b.length (Nat.lt_succ_of_le b.length_le)

theorem readsAs_netmask :
    Range.ReadsAs (toString b.address ++ "/" ++ toString b.netmask) (.block b) := by
  have hlength : LengthText (toString b.netmask).toList b.length :=
    @LengthText.netmask (toString b.netmask, b.length) netmask_mem_table
  refine readsAs_of_lengthText ?_ hlength
  rw [String.toList_append, String.toList_append, Ipv4.toList_toString, List.append_assoc]
  rfl

theorem readsAs_span (x y : Ipv4) :
    Range.ReadsAs (toString x ++ "-" ++ toString y) (.span ⟨x, y⟩) := by
  have hspan := Range.tight_write (.span ⟨x, y⟩)
  refine Range.readsAs_of_rangeText ?_ hspan (Range.rangeText_write trivial)
  rw [String.toList_append, String.toList_append, Ipv4.toList_toString, Ipv4.toList_toString,
    List.append_assoc]
  rfl

/-- A pattern of the leading octets denotes the block of these octets. -/
theorem denotes_of_patternText {t : String} {cs : List Char} {k : Nat} (ht : t.toList = cs)
    (hchar : ∀ c ∈ cs, isOctetChar c = true ∨ c = '.') (hk : k ≤ 4) (hlength : b.length = 8 * k)
    (htext : PatternText cs (b.address.leadingValues k)) : Range.Denotes t b.lower b.upper := by
  have hvalues : (b.address.leadingValues k).length = 4 := by
    rw [Ipv4.leadingValues, List.length_append, List.length_map, List.length_take,
      Ipv4.length_octets, List.length_replicate]
    omega
  have hsize : 256 ^ (4 - k) = b.size := by
    rw [size, hlength, show 32 - 8 * k = 8 * (4 - k) by omega, Nat.pow_mul]
  obtain ⟨p, hp⟩ := Pattern.exists_lists hvalues
  refine ⟨.pattern p, Range.readsAs_of_rangeText ht ?_ (.pattern ?_ htext hp), ?_⟩
  · apply tight_of_forall
    intro c hc
    rcases hchar c hc with hoctet | rfl
    · exact isBlank_of_isOctetChar hoctet
    · rfl
  · intro hslash
    rcases hchar '/' hslash with h | h
    · exact absurd h (by decide)
    · exact absurd h (by decide)
  · intro x
    rw [Range.contains, Pattern.contains_leading_iff hk hp, hsize, div_eq_iff]

/-- The numerals of some octets denote these octets alone. -/
theorem separated_paddedOctets {vs : List UInt8} (h : vs ≠ []) :
    Separated '.' PaddedOctet (['.'].intercalate (vs.map fun v => numeral v.toNat))
      (vs.map fun v => [v]) :=
  (separated_numerals h).map fun t _ ht => ⟨t, padding_self t, .value ht⟩

theorem isOctetChar_or_dot_of_mem_numerals {vs : List UInt8} :
    ∀ c ∈ ['.'].intercalate (vs.map fun v => numeral v.toNat),
      isOctetChar c = true ∨ c = '.' := by
  apply isOctetChar_or_dot_of_mem_join
  intro p hp c hc
  obtain ⟨v, -, rfl⟩ := List.mem_map.1 hp
  exact isOctetChar_of_mem_numeral hc

theorem denotes_leadingText {k : Nat} (hpos : 1 ≤ k) (hk : k ≤ 4) (hlength : b.length = 8 * k) :
    Range.Denotes (b.address.leadingText k) b.lower b.upper := by
  have htake : (b.address.octets.take k).length = k := by
    rw [List.length_take, Ipv4.length_octets, Nat.min_eq_left hk]
  have hne : b.address.octets.take k ≠ [] := by
    intro hnil
    rw [hnil, List.length_nil] at htake
    omega
  apply denotes_of_patternText String.toList_ofList ?_ hk hlength
  · have htext := PatternText.dotted (separated_paddedOctets hne) (by simp)
    rw [List.length_map, htake] at htext
    exact htext
  · intro c hc
    rcases List.mem_append.1 hc with hc | hc
    · exact isOctetChar_or_dot_of_mem_numerals c hc
    · exact .inr (List.mem_singleton.1 hc)

theorem denotes_address (hlength : b.length = 32) :
    Range.Denotes (toString b.address) b.lower b.upper := by
  have htext : PatternText b.address.write (b.address.leadingValues 4) :=
    .full (separated_paddedOctets (List.cons_ne_nil _ _)) rfl
  exact denotes_of_patternText b.address.toList_toString isOctetChar_or_dot_of_mem_numerals
    (Nat.le_refl 4) hlength htext

theorem denotes_stars (hlength : b.length = 0) : Range.Denotes "*.*.*.*" b.lower b.upper := by
  have hstar : PaddedOctet ['*'] (OctetSet.interval 0 255) := ⟨['*'], padding_self _, .any⟩
  have hstars : List.Forall₂ PaddedOctet (List.replicate 4 ['*'])
      (List.replicate 4 (OctetSet.interval 0 255)) :=
    .cons hstar (.cons hstar (.cons hstar (.cons hstar .nil)))
  have htext : PatternText (['.'].intercalate (List.replicate 4 ['*']))
      (List.replicate 4 (OctetSet.interval 0 255)) :=
    .full ⟨List.replicate 4 ['*'], List.cons_ne_nil _ _, rfl, hstars⟩ List.length_replicate
  have hvalues : b.address.leadingValues 0 = List.replicate 4 (OctetSet.interval 0 255) :=
    List.nil_append _
  rw [← hvalues] at htext
  refine denotes_of_patternText (by decide) ?_ (Nat.zero_le 4) hlength htext
  apply isOctetChar_or_dot_of_mem_join
  intro p hp c hc
  rw [List.eq_of_mem_replicate hp] at hc
  rw [List.mem_singleton.1 hc]
  rfl

theorem contains_single (hlength : b.length = 32) (x : Ipv4) :
    (RangeSet.single b.address).contains (.v4 x) = true ↔
      b.lower ≤ x.toNat ∧ x.toNat ≤ b.upper := by
  have hhost : Block.host b.address = b := by
    obtain ⟨address, length, _⟩ := b
    obtain rfl : length = 32 := hlength
    rfl
  rw [RangeSet.single, RangeSet.contains, RangeSet.containsV4, hhost, List.any_cons, List.any_nil,
    Bool.or_false, Range.contains, contains_iff]

/-- **All spellings of a block agree.** Every way to write the addresses of a block is read, and
denotes the addresses that share the leading bits that count. -/
theorem spellings_agree (b : Block) : b.Spellings where
  same := ⟨.block b, readsAs_numeral, readsAs_netmask⟩
  numeral := ⟨.block b, readsAs_numeral, fun _ => contains_iff⟩
  netmask := ⟨.block b, readsAs_netmask, fun _ => contains_iff⟩
  span := by
    refine ⟨_, readsAs_span (Ipv4.ofNat b.lower) (Ipv4.ofNat b.upper), ?_⟩
    intro x
    have hlower : b.lower < 256 * 256 * 256 * 256 :=
      Nat.lt_of_le_of_lt b.lower_le b.address.toNat_lt
    rw [Range.contains, Span.contains_iff, Ipv4.toNat_ofNat, Ipv4.toNat_ofNat,
      Nat.mod_eq_of_lt hlower, Nat.mod_eq_of_lt b.upper_lt]
  leading := fun k hpos hk hlength => denotes_leadingText hpos (Nat.le_succ_of_le hk) hlength
  address := fun hlength => ⟨denotes_address hlength, contains_single hlength⟩
  stars := denotes_stars

end Block

end DiscoveryFilter
