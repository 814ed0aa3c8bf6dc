import DiscoveryFilter.Proofs.Range.Reading
import DiscoveryFilter.RangeSet

/-!
# Comma-separated lists of ranges

The text of a range closes every brace that it opens. So a comma behind an accepted list separates,
whatever comes after it, and `RangeSet.parse` takes the join of two lists to the union of what they
hold. Only the pieces of a list matter for its addresses, and neither their order nor their number.
-/

namespace DiscoveryFilter

open Text

namespace RangeSet

/-! ## No comma inside a range separates ranges -/

theorem passes_of_forall {u : List Char} (h : ∀ c ∈ u, c ∉ ['{', '}', ',']) :
    braces.Passes ',' 0 u 0 := by
  apply Nesting.Passes.of_unbracketed
  · intro b hb hmem
    rw [List.mem_singleton.1 hb] at hmem
    exact h '{' hmem (by decide)
  · intro b hb hmem
    rw [List.mem_singleton.1 hb] at hmem
    exact h '}' hmem (by decide)
  · intro hmem
    exact absurd (by decide) (h ',' hmem)

theorem not_mem_of_isItemChar {c : Char} (h : isItemChar c = true) : c ∉ ['{', '}', ','] := by
  intro hmem
  simp only [List.mem_cons, List.not_mem_nil, or_false] at hmem
  rcases hmem with rfl | rfl | rfl <;> exact absurd h (by decide)

theorem passes_of_octetText {t : List Char} {vs : List UInt8} (h : OctetText t vs) :
    braces.Passes ',' 0 t 0 := by
  cases h with
  | any => exact passes_of_forall (by simp)
  | value hv =>
    apply passes_of_forall
    intro c hc
    apply not_mem_of_isItemChar
    rw [isItemChar, hv.isDigit c hc]
    rfl
  | interval hinterval =>
    have hbracket : ∀ c ∈ ['[', ']'], c ∉ ['{', '}', ','] := by simp
    apply passes_of_forall
    intro c hc
    rcases List.mem_cons.1 hc with rfl | hc
    · exact hbracket '[' (by decide)
    · rcases List.mem_append.1 hc with hc | hc
      · exact not_mem_of_isItemChar (hinterval.isItemChar c hc)
      · exact hbracket c (List.mem_cons_of_mem '[' hc)
  | @list t vss hlist =>
    have hinner : ∀ b, isItemChar b = false → b ≠ ',' → b ∉ t := by
      intro b hitem hcomma hmem
      rcases OctetText.isItemChar_of_separated hlist b hmem with hb | hb
      · rw [hitem] at hb
        cases hb
      · exact hcomma hb
    refine .enclosed (by decide) (by decide) (by decide) (by decide) ?_ ?_
    · intro b hb
      rw [List.mem_singleton.1 hb]
      exact hinner '{' (by decide) (by decide)
    · intro b hb
      rw [List.mem_singleton.1 hb]
      exact hinner '}' (by decide) (by decide)

theorem braces_passesOctets : PassesOctets braces ',' where
  plain u h := by
    apply passes_of_forall
    intro c hc hmem
    simp only [List.mem_cons, List.not_mem_nil, or_false] at hmem
    rcases hmem with rfl | rfl | rfl <;> exact h _ (by decide) (by decide) (by decide) hc
  octet _ _ h := passes_of_octetText h

/-- Two texts with a character between them and blanks next to it. -/
theorem passes_halves {u v w w' : List Char} {c : Char} (hu : braces.Passes ',' 0 u 0)
    (hw : Blank w) (hc : c ∉ ['{', '}', ',']) (hw' : Blank w') (hv : braces.Passes ',' 0 v 0) :
    braces.Passes ',' 0 (u ++ w ++ c :: (w' ++ v)) 0 := by
  have hbefore := hu.append (braces_passesOctets.blank hw)
  have hafter := (braces_passesOctets.blank hw').append hv
  have hmiddle : braces.Passes ',' 0 [c] 0 := by
    apply passes_of_forall
    intro b hb
    rw [List.mem_singleton.1 hb]
    exact hc
  exact hbefore.append (hmiddle.append hafter)

theorem passes_of_quadText {t : List Char} {x : Ipv4} (h : QuadText t x) :
    braces.Passes ',' 0 t 0 := by
  apply braces_passesOctets.plain
  intro c hdigit _ hdot
  exact h.not_mem hdigit hdot

theorem passes_of_lengthText {t : List Char} {n : Nat} (h : LengthText t n) :
    braces.Passes ',' 0 t 0 := by
  apply braces_passesOctets.plain
  intro c hdigit _ hdot hmem
  rcases h.isDigit_or_dot c hmem with hc | hc
  · rw [hdigit] at hc
    cases hc
  · exact hdot hc

theorem passes_of_rangeText {t : List Char} {r : Range} (h : RangeText t r) :
    braces.Passes ',' 0 t 0 := by
  cases h with
  | block _ hblock =>
    obtain ⟨quad, w, w', length, hquad, hw, hw', hlength, rfl⟩ := hblock
    exact passes_halves (passes_of_quadText hquad) hw (by decide) hw'
      (passes_of_lengthText hlength)
  | span _ hspan =>
    obtain ⟨quad, w, w', quad', hquad, hw, hw', hquad', rfl⟩ := hspan
    exact passes_halves (passes_of_quadText hquad) hw (by decide) hw' (passes_of_quadText hquad')
  | pattern _ hpattern _ => exact braces_passesOctets.patternText hpattern

/-! ## The pieces of a list -/

/-- The piece is blank, or what trimming leaves of it is read as a range. -/
def Readable (q : List Char) : Prop :=
  trim q = [] ∨ ∃ r, Range.read (trim q) = .ok r

theorem Readable.passes {q : List Char} (h : Readable q) : braces.Passes ',' 0 q 0 := by
  have htrim : braces.Passes ',' 0 (trim q) 0 := by
    rcases h with hblank | ⟨r, hr⟩
    · rw [hblank]
      exact .nil 0
    · exact passes_of_rangeText (Range.rangeText_of_read (tight_trim q) hr)
  obtain ⟨w, w', hw, hw', hq⟩ := padding_trim q
  rw [hq]
  have hbefore := (braces_passesOctets.blank hw).append htrim
  exact hbefore.append (braces_passesOctets.blank hw')

theorem mem_split_iff {spec p : List Char} :
    p ∈ split spec ↔ p ≠ [] ∧ ∃ q ∈ braces.split ',' spec, trim q = p := by
  rw [split, List.mem_filter, List.mem_map]
  simp [and_comm]

/-- Blanks around a list do not count. -/
theorem split_trim (cs : List Char) : split (trim cs) = split cs := by
  obtain ⟨w, w', hw, hw', hcs⟩ := padding_trim cs
  generalize trim cs = t at hcs ⊢
  have hcomma : ',' ∉ w' := by
    intro hmem
    have hblank := hw' _ hmem
    exact absurd hblank (by decide)
  obtain ⟨ps, p, ht, hend⟩ := Nesting.exists_splitFrom_append (n := braces) hcomma 0 t
  have hstart := Nesting.splitFrom_append (braces_passesOctets.blank hw) (t ++ w')
  rw [hcs, List.append_assoc, split, split, Nesting.split, Nesting.split, hstart, ht, hend]
  cases ps with
  | nil => simp [trim_blank_append hw, trim_append_blank hw']
  | cons q qs => simp [trim_blank_append hw, trim_append_blank hw']

theorem parse_eq (spec : String) : RangeSet.parse spec =
    RangeSet.mk <$> (split spec.toList).mapM fun p => Range.read (trim p) := by
  have hread : (Range.parse ∘ String.ofList) = fun p => Range.read (trim p) := by
    funext p
    rw [Function.comp_apply, Range.parse, String.toList_ofList]
  rw [RangeSet.parse, pieces, List.mapM_map, hread]

theorem parse_trimmed (spec : String) : RangeSet.parse (trimmed spec) = RangeSet.parse spec := by
  rw [parse_eq, parse_eq, toList_trimmed, split_trim]

/-- Every piece is read as one range. -/
theorem parse_eq_ok_iff_forall₂ {spec : String} {R : RangeSet} :
    RangeSet.parse spec = .ok R ↔
      List.Forall₂ (fun p r => Range.read (trim p) = .ok r) (split spec.toList) R.ranges := by
  rw [parse_eq, map_eq_ok_iff, ← mapM_eq_ok_iff]
  constructor
  · rintro ⟨rs, hrs, rfl⟩
    exact hrs
  · intro h
    exact ⟨R.ranges, h, rfl⟩

theorem exists_parse_of_forall {spec : String}
    (h : ∀ p ∈ split spec.toList, ∃ r, Range.read (trim p) = .ok r) :
    ∃ R, RangeSet.parse spec = .ok R := by
  rw [parse_eq]
  cases hread : (split spec.toList).mapM fun p => Range.read (trim p) with
  | ok rs => exact ⟨⟨rs⟩, rfl⟩
  | error cause =>
    obtain ⟨p, hp, herror⟩ := exists_of_mapM_eq_error hread
    obtain ⟨r, hr⟩ := h p hp
    rw [hr] at herror
    cases herror

theorem readable_of_parse {spec : String} {R : RangeSet} (h : RangeSet.parse spec = .ok R) :
    ∀ q ∈ braces.split ',' spec.toList, Readable q := by
  intro q hq
  by_cases hblank : trim q = []
  · exact .inl hblank
  · have hmem : trim q ∈ split spec.toList := mem_split_iff.2 ⟨hblank, q, hq, rfl⟩
    obtain ⟨r, hr⟩ := exists_of_forall₂_of_mem (parse_eq_ok_iff_forall₂.1 h) hmem
    rw [trim_of_tight (tight_trim q)] at hr
    exact .inr ⟨r, hr⟩

/-- Behind pieces that are read, a comma separates. -/
theorem split_append_comma {u : List Char} (h : ∀ q ∈ braces.split ',' u, Readable q)
    (v : List Char) : split (u ++ ',' :: v) = split u ++ split v := by
  have hcut := Nesting.split_append_cons_of_forall (fun q hq => (h q hq).passes) v
  rw [split, hcut, List.map_append, List.filter_append, split, split]

/-- The join of pieces that are read has these pieces, those apart that are blank. -/
theorem split_intercalate_comma {qs : List (List Char)} (h : ∀ q ∈ qs, Readable q) :
    split ([','].intercalate qs) = (qs.map trim).filter fun p => !p.isEmpty := by
  by_cases hne : qs = []
  · subst hne
    rfl
  · rw [split, Nesting.split_intercalate hne fun q hq => (h q hq).passes]

/-! ## What a list contains -/

theorem containsV4_iff_of_parse {spec : String} {R : RangeSet} (h : RangeSet.parse spec = .ok R)
    {x : Ipv4} : R.containsV4 x = true ↔
      ∃ p ∈ split spec.toList, ∃ r, Range.read (trim p) = .ok r ∧ r.contains x = true := by
  refine any_iff_of_forall₂ (parse_eq_ok_iff_forall₂.1 h) ?_
  intro p r hr
  constructor
  · intro hx
    exact ⟨r, hr, hx⟩
  · rintro ⟨r', hr', hx⟩
    rw [hr] at hr'
    rw [Except.ok.inj hr']
    exact hx

theorem contains_append (rs rs' : List Range) (x : IpAddress) :
    RangeSet.contains ⟨rs ++ rs'⟩ x = (RangeSet.contains ⟨rs⟩ x || RangeSet.contains ⟨rs'⟩ x) := by
  cases x with
  | v4 x => exact List.any_append
  | v6 text => rfl

/-- Up to blanks around them and blank texts among them, the texts are the pieces of the list, in
any order and each any number of times. -/
def Rearranges (qs : List String) (spec : String) : Prop :=
  ∀ p, p ≠ "" → ((∃ q ∈ qs, trimmed q = p) ↔ p ∈ pieces spec)

theorem mem_pieces_iff {spec : String} {p : List Char} :
    String.ofList p ∈ pieces spec ↔ p ∈ split spec.toList := by
  rw [pieces, List.mem_map]
  constructor
  · rintro ⟨q, hq, heq⟩
    rw [← String.ofList_injective heq]
    exact hq
  · intro hp
    exact ⟨p, hp, rfl⟩

/-- A rearranged list has the pieces of the list that it is made from. -/
theorem mem_split_of_rearranges {qs : List String} {spec : String} {R : RangeSet}
    (h : RangeSet.parse spec = .ok R) (hqs : Rearranges qs spec) (p : List Char) :
    p ∈ split (",".intercalate qs).toList ↔ p ∈ split spec.toList := by
  have hpiece : ∀ p : List Char, p ≠ [] →
      ((∃ q ∈ qs, trim q.toList = p) ↔ p ∈ split spec.toList) := by
    intro p hp
    have hne : String.ofList p ≠ "" := fun heq => hp (String.ofList_injective heq)
    rw [← mem_pieces_iff, ← hqs (String.ofList p) hne]
    simp only [trimmed, String.ofList_inj]
  have hreadable : ∀ q ∈ qs.map String.toList, Readable q := by
    intro u hu
    obtain ⟨q, hq, rfl⟩ := List.mem_map.1 hu
    by_cases hblank : trim q.toList = []
    · exact .inl hblank
    · have hmem := (hpiece (trim q.toList) hblank).1 ⟨q, hq, rfl⟩
      obtain ⟨-, raw, hraw, htrim⟩ := mem_split_iff.1 hmem
      have hread := readable_of_parse h raw hraw
      rw [Readable, htrim] at hread
      exact hread
  rw [String.toList_intercalate, show ",".toList = [','] from rfl,
    split_intercalate_comma hreadable, List.mem_filter, List.map_map, List.mem_map]
  constructor
  · rintro ⟨⟨q, hq, rfl⟩, hne⟩
    exact (hpiece (trim q.toList) (by simpa using hne)).1 ⟨q, hq, rfl⟩
  · intro hp
    obtain ⟨hne, -⟩ := mem_split_iff.1 hp
    exact ⟨(hpiece p hne).2 hp, by simpa using hne⟩

theorem parse_append_of_parse {a : String} {A : RangeSet} (ha : RangeSet.parse a = .ok A)
    (b : String) : RangeSet.parse (a ++ "," ++ b) =
      (fun B => RangeSet.mk (A.ranges ++ B.ranges)) <$> RangeSet.parse b := by
  have hlist : (a ++ "," ++ b).toList = a.toList ++ ',' :: b.toList := by
    simp [String.toList_append]
  have hfirst : (split a.toList).mapM (fun p => Range.read (trim p)) = .ok A.ranges :=
    mapM_eq_ok_iff.2 (parse_eq_ok_iff_forall₂.1 ha)
  rw [parse_eq, parse_eq, hlist, split_append_comma (readable_of_parse ha), List.mapM_append,
    hfirst]
  cases (split b.toList).mapM fun p => Range.read (trim p) <;> rfl

/-- A text that is read as a range is a list of that range alone. -/
theorem parse_of_parse_range {t : String} {r : Range} (h : Range.parse t = .ok r) :
    RangeSet.parse t = .ok ⟨[r]⟩ := by
  have hne : trim t.toList ≠ [] :=
    Range.ne_nil_of_rangeText (Range.rangeText_of_read (tight_trim t.toList) h)
  have hreadable : Readable t.toList := .inr ⟨r, h⟩
  have hsplit : split t.toList = [trim t.toList] := by
    rw [split, Nesting.split_eq_singleton hreadable.passes]
    simp [hne]
  rw [parse_eq_ok_iff_forall₂, hsplit]
  refine .cons ?_ .nil
  rw [trim_of_tight (tight_trim t.toList)]
  exact h

/-- **Lists are joined by commas.** A comma between an accepted list and another list joins what
they hold, and what is wrong with the other list is wrong with the join. An accepted list may be
rearranged: its pieces hold the same addresses in any order and number. -/
theorem parse_append_comma {a : String} {A : RangeSet} (ha : RangeSet.parse a = .ok A) :
    (∀ b B, RangeSet.parse b = .ok B →
      RangeSet.parse (a ++ "," ++ b) = .ok ⟨A.ranges ++ B.ranges⟩ ∧
        ∀ x, RangeSet.contains ⟨A.ranges ++ B.ranges⟩ x = (A.contains x || B.contains x)) ∧
      (∀ b cause, RangeSet.parse b = .error cause →
        RangeSet.parse (a ++ "," ++ b) = .error cause) ∧
      ∀ qs, Rearranges qs a → ∃ R, RangeSet.parse (",".intercalate qs) = .ok R ∧
        ∀ x, R.contains x = A.contains x := by
  refine ⟨?_, ?_, ?_⟩
  · intro b B hb
    refine ⟨?_, contains_append A.ranges B.ranges⟩
    rw [parse_append_of_parse ha, hb]
    rfl
  · intro b cause hb
    rw [parse_append_of_parse ha, hb]
    rfl
  · intro qs hqs
    have hsame := mem_split_of_rearranges ha hqs
    obtain ⟨R, hR⟩ : ∃ R, RangeSet.parse (",".intercalate qs) = .ok R := by
      apply exists_parse_of_forall
      intro p hp
      exact exists_of_forall₂_of_mem (parse_eq_ok_iff_forall₂.1 ha) ((hsame p).1 hp)
    refine ⟨R, hR, ?_⟩
    intro x
    cases x with
    | v6 text => rfl
    | v4 x =>
      show R.containsV4 x = A.containsV4 x
      rw [Bool.eq_iff_iff, containsV4_iff_of_parse hR, containsV4_iff_of_parse ha]
      simp only [hsame]

theorem parse_append_comma_lists : ∃ A B,
    RangeSet.parse "10.0.\x7b1,3\x7d.*, 10.1.0.0/16" = .ok A ∧
    RangeSet.parse "10.2.0.1-10.2.0.9" = .ok B ∧
    RangeSet.parse ("10.0.\x7b1,3\x7d.*, 10.1.0.0/16" ++ "," ++ "10.2.0.1-10.2.0.9") =
      .ok ⟨A.ranges ++ B.ranges⟩ ∧
    RangeSet.parse "10.0.\x7b1" = .error (.octetCount "10.0.\x7b1" 3) ∧
    RangeSet.parse ("10.0.\x7b1,3\x7d.*, 10.1.0.0/16" ++ "," ++ "10.0.\x7b1") =
      .error (.octetCount "10.0.\x7b1" 3) ∧
    Rearranges ["10.1.0.0/16", "10.0.\x7b1,3\x7d.*", "10.1.0.0/16"]
      "10.0.\x7b1,3\x7d.*, 10.1.0.0/16" ∧
    ∃ R, RangeSet.parse (",".intercalate ["10.1.0.0/16", "10.0.\x7b1,3\x7d.*", "10.1.0.0/16"]) =
      .ok R ∧ ∀ x, R.contains x = A.contains x := by
  have hpieces : pieces "10.0.\x7b1,3\x7d.*, 10.1.0.0/16" =
      ["10.0.\x7b1,3\x7d.*", "10.1.0.0/16"] := by decide +kernel
  have htrimmed : trimmed "10.1.0.0/16" = "10.1.0.0/16" ∧
      trimmed "10.0.\x7b1,3\x7d.*" = "10.0.\x7b1,3\x7d.*" := by decide +kernel
  have hqs : Rearranges ["10.1.0.0/16", "10.0.\x7b1,3\x7d.*", "10.1.0.0/16"]
      "10.0.\x7b1,3\x7d.*, 10.1.0.0/16" := by
    intro p _
    rw [hpieces]
    simp only [List.mem_cons, List.not_mem_nil, or_false, exists_eq_or_imp, exists_eq_left,
      htrimmed, eq_comm (b := p)]
    tauto
  have hbad : RangeSet.parse "10.0.\x7b1" = .error (.octetCount "10.0.\x7b1" 3) := by
    decide +kernel
  obtain ⟨A, hA⟩ : ∃ A, RangeSet.parse "10.0.\x7b1,3\x7d.*, 10.1.0.0/16" = .ok A :=
    exists_ok_of_isOk (by decide +kernel)
  obtain ⟨B, hB⟩ : ∃ B, RangeSet.parse "10.2.0.1-10.2.0.9" = .ok B :=
    exists_ok_of_isOk (by decide +kernel)
  obtain ⟨hjoin, herror, hrearranged⟩ := parse_append_comma hA
  exact ⟨A, B, hA, hB, (hjoin _ B hB).1, hbad, herror _ _ hbad, hqs, hrearranged _ hqs⟩

/-- A list that is not accepted by itself may be completed by what comes behind the comma. -/
example : (RangeSet.parse "10.0.\x7b1").isOk = false ∧
    (RangeSet.parse ("10.0.\x7b1" ++ "," ++ "3\x7d.*")).isOk = true := by
  decide +kernel

end RangeSet

end DiscoveryFilter
