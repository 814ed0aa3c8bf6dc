import DiscoveryFilter.Proofs.Range.Reading

/-!
# Written ranges

What is written for an address, an octet set or a range is a text of the grammar, and it denotes
what was written. The one thing that a text cannot say is the order of an octet set that holds
every value: `normal` is what is left of a set, a pattern and a range when that order is forgotten.
-/

namespace DiscoveryFilter

open Text

theorem blank_nil : Blank [] := by
  intro c hc
  cases hc

theorem padding_self (t : List Char) : Padding t t :=
  ⟨[], [], blank_nil, blank_nil, by simp⟩

/-! ## Addresses, blocks and spans -/

theorem octetNumeral_numeral (v : UInt8) : OctetNumeral (numeral v.toNat) v :=
  ⟨isNumeral_numeral _, numeralValue_numeral _⟩

/-- The numerals of some octets, joined by dots. -/
theorem separated_numerals {vs : List UInt8} (h : vs ≠ []) :
    Separated '.' OctetNumeral (['.'].intercalate (vs.map fun v => numeral v.toNat)) vs := by
  refine ⟨vs.map fun v => numeral v.toNat, by simpa using h, rfl, ?_⟩
  rw [List.forall₂_map_left_iff, List.forall₂_same]
  intro v _
  exact octetNumeral_numeral v

theorem Ipv4.quadText_write (x : Ipv4) : QuadText x.write x :=
  separated_numerals (List.cons_ne_nil _ _)

theorem lengthText_numeral {n : Nat} (hn : n ≤ 32) : LengthText (numeral n) n := by
  have h : LengthText (numeral n) (numeralValue (numeral n)) := by
    refine .numeral (isNumeral_numeral n) ?_
    rw [numeralValue_numeral]
    exact hn
  rw [numeralValue_numeral] at h
  exact h

theorem Block.blockText_write (b : Block) : BlockText b.write b :=
  ⟨b.address.write, [], [], numeral b.length, b.address.quadText_write, blank_nil, blank_nil,
    lengthText_numeral b.length_le, by simp [write]⟩

theorem Span.spanText_write (s : Span) : SpanText s.write s :=
  ⟨s.first.write, [], [], s.last.write, s.first.quadText_write, blank_nil, blank_nil,
    s.last.quadText_write, by simp [write]⟩

/-! ## Octet sets -/

/-- The characters that octets are written with. -/
def isOctetChar (c : Char) : Bool :=
  c.isDigit || ['*', '[', '-', ']', '{', ',', '}'].contains c

theorem isDigit_of_mem_numeral {n : Nat} {c : Char} (h : c ∈ numeral n) : c.isDigit = true :=
  isDigit_of_isNumeral (isNumeral_numeral n) c h

theorem isOctetChar_of_mem_numeral {n : Nat} {c : Char} (h : c ∈ numeral n) :
    isOctetChar c = true := by
  rw [isOctetChar, isDigit_of_mem_numeral h]
  rfl

theorem isBlank_of_isOctetChar {c : Char} (h : isOctetChar c = true) : isBlank c = false := by
  have hsigns : (['*', '[', '-', ']', '{', ',', '}'].all fun c => !isBlank c) = true := by decide
  rw [isOctetChar, Bool.or_eq_true, List.contains_iff_mem] at h
  rcases h with hdigit | hsign
  · exact isBlank_of_isDigit hdigit
  · exact Bool.not_eq_eq_eq_not.1 (List.all_eq_true.1 hsigns c hsign)

/-- What is joined by dots holds the dots and what the pieces hold. -/
theorem isOctetChar_or_dot_of_mem_join {pieces : List (List Char)}
    (h : ∀ p ∈ pieces, ∀ c ∈ p, isOctetChar c = true) :
    ∀ c ∈ ['.'].intercalate pieces, isOctetChar c = true ∨ c = '.' := by
  apply forall_mem_intercalate
  · exact .inr rfl
  · intro p hp c hc
    exact .inl (h p hp c hc)

namespace OctetSet

/-- The set holds values and was filled by adding them. -/
def Filled (s : OctetSet) : Prop :=
  ∃ vs, vs ≠ [] ∧ s.Lists vs

/-- The same values, in ascending order if they are all there are. -/
def normal (s : OctetSet) : OctetSet :=
  if s.isFull then full else s

variable {s : OctetSet}

theorem Filled.lists (h : s.Filled) : s.Lists s.values := by
  obtain ⟨vs, -, hvs⟩ := h
  exact hvs.self

theorem Filled.values_ne_nil (h : s.Filled) : s.values ≠ [] := by
  obtain ⟨vs, hne, hvs⟩ := h
  obtain ⟨v, hv⟩ := List.exists_mem_of_ne_nil vs hne
  exact List.ne_nil_of_mem (hvs.mem_values_iff.2 hv)

theorem filled_single (v : UInt8) : (single v).Filled :=
  ⟨[v], List.cons_ne_nil v [], lists_pushAll [v]⟩

theorem filled_span {a b : UInt8} (h : a ≤ b) : (span a b).Filled :=
  ⟨interval a b, List.ne_nil_of_mem (mem_interval.2 ⟨UInt8.le_refl a, h⟩), lists_pushAll _⟩

theorem filled_full : full.Filled :=
  filled_span (by decide)

/-! ### The text of a set -/

theorem intervalText_write {a b : UInt8} (h : a ≤ b) :
    IntervalText (numeral a.toNat ++ '-' :: numeral b.toNat) (interval a b) :=
  ⟨numeral a.toNat, numeral b.toNat, numeral a.toNat, numeral b.toNat, a, b, padding_self _,
    padding_self _, octetNumeral_numeral a, octetNumeral_numeral b, h, rfl, rfl⟩

theorem itemText_numeral (v : UInt8) : ItemText (numeral v.toNat) [v] :=
  .value (padding_self _) (octetNumeral_numeral v)

/-- A list in braces of one value after the other. -/
theorem octetText_braces {vs : List UInt8} (hne : vs ≠ []) :
    OctetText ('{' :: ([','].intercalate (vs.map fun v => numeral v.toNat) ++ ['}'])) vs := by
  have hflatten : (vs.map fun v => [v]).flatten = vs := by
    rw [← List.flatMap_def, List.flatMap_singleton']
  have hlist : Separated ',' ItemText ([','].intercalate (vs.map fun v => numeral v.toNat))
      (vs.map fun v => [v]) := by
    refine ⟨vs.map fun v => numeral v.toNat, by simpa using hne, rfl, ?_⟩
    rw [List.forall₂_map_left_iff, List.forall₂_map_right_iff, List.forall₂_same]
    intro v _
    exact itemText_numeral v
  have htext := OctetText.list hlist
  rw [hflatten] at htext
  exact htext

/-- The text of a set denotes its values, those of a full set in ascending order. -/
theorem exists_octetText_write (h : s.Filled) : ∃ vs, OctetText s.write vs ∧ s.normal.Lists vs := by
  unfold write normal
  by_cases hfull : s.isFull = true
  · rw [if_pos hfull, if_pos hfull]
    exact ⟨interval 0 255, .any, lists_full⟩
  · rw [if_neg hfull, if_neg hfull]
    have hlists := h.lists
    have hnodup := hlists.nodup
    have hne := h.values_ne_nil
    cases hvalues : s.values with
    | nil => exact absurd hvalues hne
    | cons v vs =>
      rw [hvalues] at hlists hnodup
      cases vs with
      | nil => exact ⟨[v], .value (octetNumeral_numeral v), hlists⟩
      | cons w ws =>
        refine ⟨v :: w :: ws, ?_, hlists⟩
        dsimp only
        split
        · next hrun =>
          rw [Bool.and_eq_true, decide_eq_true_iff, List.headD_cons] at hrun
          obtain ⟨hrun, hlt⟩ := hrun
          -- the values are without repetition, so the run cannot have gone past the largest value
          rcases eq_interval_of_isRun hrun hnodup with heq | hbelow
          · have hle : v ≤ (v :: w :: ws).getLastD 0 := UInt8.le_of_lt hlt
            have htext := OctetText.interval (intervalText_write hle)
            rw [← heq] at htext
            exact htext
          · exact absurd hlt (UInt8.lt_asymm hbelow)
        · exact octetText_braces (List.cons_ne_nil v _)

theorem isOctetChar_of_mem_write {c : Char} (h : c ∈ s.write) : isOctetChar c = true := by
  unfold write at h
  split at h
  · rw [List.mem_singleton.1 h]
    rfl
  · split at h
    · exact isOctetChar_of_mem_numeral h
    · dsimp only at h
      split at h
      · simp only [List.cons_append, List.append_assoc, List.mem_cons, List.mem_append,
          List.not_mem_nil, or_false] at h
        rcases h with rfl | h | rfl | h | rfl
        · rfl
        · exact isOctetChar_of_mem_numeral h
        · rfl
        · exact isOctetChar_of_mem_numeral h
        · rfl
      · simp only [List.cons_append, List.mem_cons, List.mem_append, List.not_mem_nil,
          or_false] at h
        rcases h with rfl | h | rfl
        · rfl
        · refine forall_mem_intercalate (P := fun c => isOctetChar c = true) rfl ?_ c h
          intro p hp c hc
          obtain ⟨v, -, rfl⟩ := List.mem_map.1 hp
          exact isOctetChar_of_mem_numeral hc
        · rfl

/-! ### What normalising changes -/

theorem write_normal (s : OctetSet) : s.normal.write = s.write := by
  unfold normal
  split
  · next hfull =>
    have hfull' : full.isFull = true := lists_full.isFull_iff.2 fun v => by
      rw [lists_full.mem_values_iff]
      exact mem_interval_full v
    rw [write, write, if_pos hfull, if_pos hfull']
  · rfl

theorem contains_normal (h : s.Filled) (v : UInt8) : s.normal.contains v = s.contains v := by
  unfold normal
  split
  · next hfull =>
    have hall := h.lists.isFull_iff.1 hfull
    rw [(h.lists.contains v).2 (hall v), (lists_full.contains v).2 (mem_interval_full v)]
  · rfl

/-- A set changes exactly if it holds every value, but not in ascending order. -/
theorem normal_eq_self_iff (h : s.Filled) :
    s.normal = s ↔ ((∀ v, v ∈ s.values) → s.values = interval 0 255) := by
  unfold normal
  rw [← h.lists.isFull_iff]
  split
  · next hfull =>
    constructor
    · intro heq _
      have hvalues : full.values = interval 0 255 := by
        rw [lists_full.values, eraseDups_of_nodup (nodup_interval 0 255)]
      rw [← heq, hvalues]
    · intro hvalues
      have hlists := h.lists
      rw [hvalues hfull] at hlists
      exact lists_full.unique hlists
  · next hfull =>
    constructor
    · intro _ hfull'
      exact absurd hfull' hfull
    · intro _
      rfl

end OctetSet

/-! ## Patterns -/

namespace Pattern

/-- Every position allows some value. -/
def Filled (p : Pattern) : Prop :=
  ∀ s ∈ p.octets, s.Filled

/-- The pattern whose positions are in ascending order where they allow every value. -/
def normal (p : Pattern) : Pattern :=
  ⟨p.a.normal, p.b.normal, p.c.normal, p.d.normal⟩

variable {p : Pattern}

theorem octets_normal (p : Pattern) : p.normal.octets = p.octets.map OctetSet.normal := rfl

theorem exists_patternText_write (h : p.Filled) :
    ∃ vss, PatternText p.write vss ∧ List.Forall₂ OctetSet.Lists p.normal.octets vss := by
  have hoctet : ∀ s ∈ p.octets, ∃ vs, OctetText s.write vs ∧ s.normal.Lists vs := by
    intro s hs
    exact OctetSet.exists_octetText_write (h s hs)
  have hoctets : ∃ vss, List.Forall₂ PaddedOctet (p.octets.map OctetSet.write) vss ∧
      List.Forall₂ OctetSet.Lists (p.octets.map OctetSet.normal) vss := by
    clear h
    generalize p.octets = octets at hoctet ⊢
    induction octets with
    | nil => exact ⟨[], .nil, .nil⟩
    | cons s octets ih =>
      obtain ⟨vs, htext, hlists⟩ := hoctet s List.mem_cons_self
      obtain ⟨vss, htexts, hall⟩ := ih fun t ht => hoctet t (List.mem_cons_of_mem s ht)
      exact ⟨vs :: vss, .cons ⟨s.write, padding_self _, htext⟩ htexts, .cons hlists hall⟩
  obtain ⟨vss, htexts, hlists⟩ := hoctets
  refine ⟨vss, .full ⟨p.octets.map OctetSet.write, by simp [octets], rfl, htexts⟩ ?_, hlists⟩
  exact hlists.length_eq.symm

theorem isOctetChar_or_dot_of_mem_write :
    ∀ c ∈ p.write, isOctetChar c = true ∨ c = '.' := by
  apply isOctetChar_or_dot_of_mem_join
  intro t ht c hc
  obtain ⟨s, -, rfl⟩ := List.mem_map.1 ht
  exact OctetSet.isOctetChar_of_mem_write hc

theorem write_normal (p : Pattern) : p.normal.write = p.write := by
  rw [write, write, octets_normal, List.map_map]
  refine congrArg _ (List.map_congr_left ?_)
  intro s _
  exact s.write_normal

theorem contains_normal (h : p.Filled) (x : Ipv4) : p.normal.contains x = p.contains x := by
  have ha := OctetSet.contains_normal (h p.a (by simp [octets])) x.a
  have hb := OctetSet.contains_normal (h p.b (by simp [octets])) x.b
  have hc := OctetSet.contains_normal (h p.c (by simp [octets])) x.c
  have hd := OctetSet.contains_normal (h p.d (by simp [octets])) x.d
  simp only [contains, octets, Ipv4.octets, normal, List.zip_cons_cons, List.zip_nil_right,
    List.all_cons, List.all_nil, ha, hb, hc, hd]

theorem normal_eq_self_iff (p : Pattern) : p.normal = p ↔ ∀ s ∈ p.octets, s.normal = s := by
  obtain ⟨a, b, c, d⟩ := p
  simp [normal, octets]

end Pattern

/-! ## Ranges -/

namespace Range

/-- A pattern has to allow some value at every position. -/
def Filled : Range → Prop
  | .pattern p => p.Filled
  | _ => True

/-- What is read back from the text of a range. -/
def normal : Range → Range
  | .pattern p => .pattern p.normal
  | r => r

variable {r : Range}

theorem isBlank_of_mem_write {c : Char} (h : c ∈ r.write) : isBlank c = false := by
  have hquad : ∀ {x : Ipv4}, c ∈ x.write → isBlank c = false := by
    intro x hc
    rcases x.quadText_write.isDigit_or_dot c hc with hdigit | rfl
    · exact isBlank_of_isDigit hdigit
    · rfl
  cases r with
  | block b =>
    rcases List.mem_append.1 h with hc | hc
    · exact hquad hc
    · rcases List.mem_cons.1 hc with rfl | hc
      · rfl
      · exact isBlank_of_isDigit (isDigit_of_mem_numeral hc)
  | span s =>
    rcases List.mem_append.1 h with hc | hc
    · exact hquad hc
    · rcases List.mem_cons.1 hc with rfl | hc
      · rfl
      · exact hquad hc
  | pattern p =>
    rcases Pattern.isOctetChar_or_dot_of_mem_write c h with hc | rfl
    · exact isBlank_of_isOctetChar hc
    · rfl

theorem tight_write (r : Range) : Tight r.write :=
  tight_of_forall fun _ hc => isBlank_of_mem_write hc

theorem rangeText_write (h : r.Filled) : RangeText r.write r.normal := by
  cases r with
  | block b =>
    refine .block ?_ b.blockText_write
    intro hdash
    rcases List.mem_append.1 hdash with hc | hc
    · exact b.address.quadText_write.not_mem (by decide) (by decide) hc
    · rcases List.mem_cons.1 hc with hc | hc
      · exact absurd hc (by decide)
      · exact absurd (isDigit_of_mem_numeral hc) (by decide)
  | span s =>
    refine .span ?_ s.spanText_write
    intro hslash
    rcases List.mem_append.1 hslash with hc | hc
    · exact s.first.quadText_write.not_mem (by decide) (by decide) hc
    · rcases List.mem_cons.1 hc with hc | hc
      · exact absurd hc (by decide)
      · exact s.last.quadText_write.not_mem (by decide) (by decide) hc
  | pattern p =>
    obtain ⟨vss, htext, hlists⟩ := Pattern.exists_patternText_write h
    refine .pattern ?_ htext hlists
    intro hslash
    rcases Pattern.isOctetChar_or_dot_of_mem_write '/' hslash with hc | hc
    · exact absurd hc (by decide)
    · exact absurd hc (by decide)

/-- A range that is written is read back, but for the order of full octets. -/
theorem read_write (h : r.Filled) : Range.read r.write = .ok r.normal :=
  read_of_rangeText r.tight_write (rangeText_write h)

theorem write_normal (r : Range) : r.normal.write = r.write := by
  cases r with
  | pattern p => exact p.write_normal
  | block _ => rfl
  | span _ => rfl

theorem contains_normal (h : r.Filled) (x : Ipv4) : r.normal.contains x = r.contains x := by
  cases r with
  | pattern p => exact Pattern.contains_normal h x
  | block _ => rfl
  | span _ => rfl

end Range

end DiscoveryFilter
