import DiscoveryFilter.Proofs.Range.Addresses

/-!
# What the reader of ranges accepts

Octets and patterns are read from the texts of the grammar, as addresses are. The three notations
of a range exclude one another, so that trying them in turn loses none of their texts.
-/

namespace DiscoveryFilter

open Text

/-! ## Entries of an octet -/

/-- The bounds of an interval are what trimming leaves on the two sides of its dash. -/
theorem intervalText_iff {t : List Char} {vs : List UInt8} :
    IntervalText t vs ↔ ∃ lower upper a b, OctetNumeral (trim lower) a ∧
      OctetNumeral (trim upper) b ∧ a ≤ b ∧ t = lower ++ '-' :: upper ∧
      vs = OctetSet.interval a b := by
  constructor
  · rintro ⟨lower, upper, first, last, a, b, hlower, hupper, hfirst, hlast, hle, ht, hvs⟩
    have hlower := (trim_eq_iff_of_tight hfirst.tight).2 hlower
    have hupper := (trim_eq_iff_of_tight hlast.tight).2 hupper
    refine ⟨lower, upper, a, b, ?_, ?_, hle, ht, hvs⟩
    · rw [hlower]
      exact hfirst
    · rw [hupper]
      exact hlast
  · rintro ⟨lower, upper, a, b, hfirst, hlast, hle, ht, hvs⟩
    exact ⟨lower, upper, trim lower, trim upper, a, b, padding_trim lower, padding_trim upper,
      hfirst, hlast, hle, ht, hvs⟩

/-- Blanks around an interval belong to the blanks around its bounds. -/
theorem intervalText_trim_iff {t : List Char} {vs : List UInt8} :
    IntervalText (trim t) vs ↔ IntervalText t vs := by
  rw [intervalText_iff, intervalText_iff]
  constructor
  · rintro ⟨lower, upper, a, b, hfirst, hlast, hle, htrim, hvs⟩
    obtain ⟨w, w', hw, hw', ht⟩ := padding_trim t
    refine ⟨w ++ lower, upper ++ w', a, b, ?_, ?_, hle, ?_, hvs⟩
    · rw [trim_blank_append hw]
      exact hfirst
    · rw [trim_append_blank hw']
      exact hlast
    · rw [ht, htrim]
      simp
  · rintro ⟨lower, upper, a, b, hfirst, hlast, hle, rfl, hvs⟩
    refine ⟨trimStart lower, trimEnd upper, a, b, ?_, ?_, hle, ?_, hvs⟩
    · rw [trim_trimStart]
      exact hfirst
    · rw [trim_trimEnd]
      exact hlast
    · exact trim_append_cons (by decide) lower upper

namespace OctetSet

theorem readSpan_eq_ok_iff {octet first last : List Char} {s : OctetSet} :
    readSpan octet first last = .ok s ↔
      ∃ a b, OctetNumeral first a ∧ OctetNumeral last b ∧ a ≤ b ∧ s = span a b := by
  unfold readSpan
  constructor
  · intro h
    split at h
    · next hnumerals =>
      rw [Bool.and_eq_true] at hnumerals
      obtain ⟨a, ha, h⟩ := bind_eq_ok_iff.1 h
      obtain ⟨b, hb, h⟩ := bind_eq_ok_iff.1 h
      split at h
      · cases h
      · next hle =>
        exact ⟨a, b, ⟨hnumerals.1, readOctetValue_eq_ok_iff.1 ha⟩,
          ⟨hnumerals.2, readOctetValue_eq_ok_iff.1 hb⟩, UInt8.not_lt.1 hle,
          (Except.ok.inj h).symm⟩
    · cases h
  · rintro ⟨a, b, hfirst, hlast, hle, rfl⟩
    rw [if_pos (by rw [hfirst.1, hlast.1]; rfl), readOctetValue_eq_ok_iff.2 hfirst.2,
      readOctetValue_eq_ok_iff.2 hlast.2]
    exact if_neg (UInt8.not_lt.2 hle)

/-- An interval is cut at its first dash. -/
theorem exists_intervalText_iff (octet : List Char) {t : List Char} {s : OctetSet} :
    (∃ vs, IntervalText t vs ∧ s.Lists vs) ↔
      ∃ first last, splitFirst '-' t = some (first, last) ∧
        readSpan octet (trim first) (trim last) = .ok s := by
  constructor
  · rintro ⟨vs, hinterval, hs⟩
    obtain ⟨lower, upper, a, b, hfirst, hlast, hle, rfl, rfl⟩ := intervalText_iff.1 hinterval
    have hdash := dash_not_mem_of_padding (padding_trim lower) hfirst
    exact ⟨lower, upper, splitFirst_append hdash upper,
      readSpan_eq_ok_iff.2 ⟨a, b, hfirst, hlast, hle, lists_iff.1 hs⟩⟩
  · rintro ⟨lower, upper, hsplit, hread⟩
    obtain ⟨-, rfl⟩ := splitFirst_eq_some_iff.1 hsplit
    obtain ⟨a, b, hfirst, hlast, hle, hs⟩ := readSpan_eq_ok_iff.1 hread
    have hinterval : IntervalText (lower ++ '-' :: upper) (interval a b) :=
      intervalText_iff.2 ⟨lower, upper, a, b, hfirst, hlast, hle, rfl, rfl⟩
    exact ⟨interval a b, hinterval, lists_iff.2 hs⟩

/-- A set that is read from a numeral. -/
theorem single_eq_ok_iff {octet t : List Char} {s : OctetSet} :
    (if isNumeral t then single <$> readOctetValue octet t
      else .error (.invalidOctet (String.ofList octet)) : Except RangeError OctetSet) = .ok s ↔
      ∃ v, OctetNumeral t v ∧ s.Lists [v] := by
  constructor
  · intro h
    split at h
    · next hnumeral =>
      obtain ⟨v, hv, rfl⟩ := map_eq_ok_iff.1 h
      exact ⟨v, ⟨hnumeral, readOctetValue_eq_ok_iff.1 hv⟩, lists_iff.2 rfl⟩
    · cases h
  · rintro ⟨v, hv, hs⟩
    rw [if_pos hv.1, readOctetValue_eq_ok_iff.2 hv.2, lists_iff.1 hs]
    rfl

/-- An entry is read after trimming. -/
theorem exists_itemText_iff {octet t : List Char} {s : OctetSet} :
    (∃ vs, ItemText t vs ∧ s.Lists vs) ↔ readItem octet (trim t) = .ok s := by
  unfold readItem
  constructor
  · rintro ⟨vs, hitem, hs⟩
    cases hitem with
    | @value digits v hpadding hdigits =>
      have hnone : splitFirst '-' digits = none :=
        splitFirst_eq_none_iff.2 (hdigits.not_mem (by decide))
      rw [(trim_eq_iff_of_tight hdigits.tight).2 hpadding, hnone]
      exact single_eq_ok_iff.2 ⟨v, hdigits, hs⟩
    | interval hinterval =>
      obtain ⟨first, last, hsplit, hread⟩ :=
        (exists_intervalText_iff octet).1 ⟨vs, intervalText_trim_iff.2 hinterval, hs⟩
      rw [hsplit]
      exact hread
  · intro h
    split at h
    · next first last hsplit =>
      obtain ⟨vs, hinterval, hs⟩ := (exists_intervalText_iff octet).2 ⟨first, last, hsplit, h⟩
      exact ⟨vs, .interval (intervalText_trim_iff.1 hinterval), hs⟩
    · obtain ⟨v, hv, hs⟩ := single_eq_ok_iff.1 h
      exact ⟨[v], .value (padding_trim t) hv, hs⟩

theorem nodup_of_itemText {t : List Char} {vs : List UInt8} (h : ItemText t vs) : vs.Nodup := by
  cases h with
  | value _ _ => exact List.nodup_singleton _
  | interval hinterval =>
    obtain ⟨_, _, _, _, a, b, _, _, _, _, _, _, rfl⟩ := hinterval
    exact nodup_interval a b

theorem lists_extend_of_itemText {piece : List Char} {vs us : List UInt8} {s item : OctetSet}
    (hpiece : ItemText piece vs) (hitem : item.Lists vs) (hs : s.Lists us) :
    (s.extend item).Lists (us ++ vs) := by
  rw [extend_of_lists hitem (nodup_of_itemText hpiece)]
  exact hs.pushAll vs

/-- Entry by entry the values are added to those that the set lists already. -/
theorem foldlM_readItem_eq_ok_iff {octet : List Char} {pieces : List (List Char)} {s t : OctetSet}
    {us : List UInt8} (hs : s.Lists us) :
    (pieces.map trim).foldlM (fun s item => s.extend <$> readItem octet item) s = .ok t ↔
      ∃ vss, List.Forall₂ ItemText pieces vss ∧ t.Lists (us ++ vss.flatten) := by
  -- on the entries that are left, for whatever the set lists so far
  induction pieces generalizing s us with
  | nil =>
    constructor
    · intro h
      refine ⟨[], .nil, ?_⟩
      rw [List.flatten_nil, List.append_nil, ← Except.ok.inj h]
      exact hs
    · rintro ⟨vss, hpieces, ht⟩
      cases hpieces
      rw [List.flatten_nil, List.append_nil] at ht
      exact congrArg Except.ok (hs.unique ht)
  | cons piece pieces ih =>
    rw [List.map_cons, List.foldlM_cons, bind_eq_ok_iff]
    constructor
    · rintro ⟨s', hstep, hrest⟩
      obtain ⟨item, hread, rfl⟩ := map_eq_ok_iff.1 hstep
      obtain ⟨vs, hpiece, hitem⟩ := exists_itemText_iff.2 hread
      have hs' := lists_extend_of_itemText hpiece hitem hs
      obtain ⟨vss, hpieces, ht⟩ := (ih hs').1 hrest
      refine ⟨vs :: vss, .cons hpiece hpieces, ?_⟩
      rw [List.flatten_cons, ← List.append_assoc]
      exact ht
    · rintro ⟨vss, hpieces, ht⟩
      cases hpieces with
      | @cons _ vs _ vss hpiece hpieces =>
        rw [List.flatten_cons, ← List.append_assoc] at ht
        have hitem := lists_pushAll vs
        have hread : readItem octet (trim piece) = .ok (empty.pushAll vs) :=
          exists_itemText_iff.1 ⟨vs, hpiece, hitem⟩
        have hs' := lists_extend_of_itemText hpiece hitem hs
        have hstep : s.extend <$> readItem octet (trim piece) =
            .ok (s.extend (empty.pushAll vs)) := by
          rw [hread]
          rfl
        exact ⟨s.extend (empty.pushAll vs), hstep, (ih hs').2 ⟨vss, hpieces, ht⟩⟩

/-- A list in braces is cut at its commas. -/
theorem readItems_eq_ok_iff {octet inner : List Char} {s : OctetSet} :
    readItems octet ((inner.splitOn ',').map trim) = .ok s ↔
      ∃ vss, Separated ',' ItemText inner vss ∧ s.Lists vss.flatten := by
  unfold readItems
  rw [foldlM_readItem_eq_ok_iff lists_empty]
  simp only [separated_iff fun p vs hp => ItemText.comma_not_mem hp, List.nil_append]

/-! ## Octets -/

theorem unwrap_eq_none_of_not_mem {opening closing : Char} {t : List Char} (h : opening ∉ t) :
    unwrap opening closing t = none := by
  cases hunwrap : unwrap opening closing t with
  | none => rfl
  | some inner =>
    rw [unwrap_eq_some_iff.1 hunwrap] at h
    exact absurd List.mem_cons_self h

/-- Between braces stands a list. -/
theorem read_braces (inner : List Char) : OctetSet.read ('{' :: (inner ++ ['}'])) =
    readItems ('{' :: (inner ++ ['}'])) ((inner.splitOn ',').map trim) := by
  have hbracket : unwrap '[' ']' ('{' :: (inner ++ ['}'])) = none := rfl
  rw [OctetSet.read, if_neg (by simp), hbracket, unwrap_eq_some_iff.2 rfl]

/-- What is read is the text of an octet. -/
theorem exists_octetText_of_read {t : List Char} {s : OctetSet} (h : OctetSet.read t = .ok s) :
    ∃ vs, OctetText t vs ∧ s.Lists vs := by
  unfold OctetSet.read at h
  split at h
  · next hany =>
    subst hany
    exact ⟨interval 0 255, .any, lists_iff.2 (Except.ok.inj h).symm⟩
  · split at h
    · next inner hunwrap =>
      obtain rfl := unwrap_eq_some_iff.1 hunwrap
      split at h
      · next first last hsplit =>
        obtain ⟨vs, hinterval, hs⟩ := (exists_intervalText_iff _).2 ⟨first, last, hsplit, h⟩
        exact ⟨vs, .interval hinterval, hs⟩
      · cases h
    · next inner hunwrap =>
      obtain rfl := unwrap_eq_some_iff.1 hunwrap
      obtain ⟨vss, hlist, hs⟩ := readItems_eq_ok_iff.1 h
      exact ⟨vss.flatten, .list hlist, hs⟩
    · obtain ⟨v, hv, hs⟩ := single_eq_ok_iff.1 h
      exact ⟨[v], .value hv, hs⟩

/-- The text of an octet is read as what it denotes. -/
theorem read_of_octetText {t : List Char} {vs : List UInt8} {s : OctetSet} (h : OctetText t vs)
    (hs : s.Lists vs) : OctetSet.read t = .ok s := by
  cases h with
  | any =>
    rw [OctetSet.read, if_pos rfl, lists_iff.1 hs]
    rfl
  | @value t v hv =>
    have hany : t ≠ ['*'] := by
      rintro rfl
      exact hv.not_mem (by decide : '*'.isDigit = false) List.mem_cons_self
    rw [OctetSet.read, if_neg hany, unwrap_eq_none_of_not_mem (hv.not_mem (by decide)),
      unwrap_eq_none_of_not_mem (hv.not_mem (by decide))]
    exact single_eq_ok_iff.2 ⟨v, hv, hs⟩
  | @interval t vs hinterval =>
    obtain ⟨first, last, hsplit, hread⟩ :=
      (exists_intervalText_iff ('[' :: (t ++ [']']))).1 ⟨vs, hinterval, hs⟩
    rw [OctetSet.read, if_neg (by simp), unwrap_eq_some_iff.2 rfl]
    simp only [hsplit]
    exact hread
  | @list t vss hlist =>
    rw [read_braces]
    exact readItems_eq_ok_iff.2 ⟨vss, hlist, hs⟩

theorem read_eq_ok_iff {t : List Char} {s : OctetSet} :
    OctetSet.read t = .ok s ↔ ∃ vs, OctetText t vs ∧ s.Lists vs := by
  constructor
  · exact exists_octetText_of_read
  · rintro ⟨vs, hoctet, hs⟩
    exact read_of_octetText hoctet hs

end OctetSet

/-! ## Patterns -/

theorem paddedOctet_iff {t : List Char} {vs : List UInt8} :
    PaddedOctet t vs ↔ OctetText (trim t) vs := by
  constructor
  · rintro ⟨octet, hpadding, hoctet⟩
    rw [(trim_eq_iff_of_tight hoctet.tight).2 hpadding]
    exact hoctet
  · intro h
    exact ⟨trim t, padding_trim t, h⟩

/-- The octets between the dots of a text, trimmed. -/
theorem separated_paddedOctet_iff {t : List Char} {vss : List (List UInt8)} :
    Separated '.' PaddedOctet t vss ↔
      List.Forall₂ OctetText ((t.splitOn '.').map trim) vss := by
  have hpadded : PaddedOctet = fun t vs => OctetText (trim t) vs := by
    funext t vs
    exact propext paddedOctet_iff
  rw [separated_iff fun p vs hp => hp.dot_not_mem, hpadded, List.forall₂_map_left_iff]

theorem octetText_star_iff {vs : List UInt8} :
    OctetText ['*'] vs ↔ vs = OctetSet.interval 0 255 := by
  constructor
  · intro h
    generalize ht : ['*'] = t at h
    cases h with
    | any => rfl
    | value hv =>
      rw [← ht] at hv
      exact absurd List.mem_cons_self (hv.not_mem (by decide : '*'.isDigit = false))
    | interval _ => simp at ht
    | list _ => simp at ht
  · rintro rfl
    exact .any

/-- Missing octets stand for every value. -/
theorem forall₂_replicate_star_iff {n : Nat} {vss : List (List UInt8)} :
    List.Forall₂ OctetText (List.replicate n ['*']) vss ↔
      vss = List.replicate n (OctetSet.interval 0 255) := by
  induction n generalizing vss with
  | zero => simp [List.forall₂_nil_left_iff]
  | succ n ih =>
    rw [List.replicate_succ, List.replicate_succ, List.forall₂_cons_left_iff]
    constructor
    · rintro ⟨vs, rest, hstar, hrest, rfl⟩
      rw [octetText_star_iff.1 hstar, ih.1 hrest]
    · rintro rfl
      exact ⟨_, _, .any, ih.2 rfl, rfl⟩

namespace Pattern

theorem parts_append_dot (t : List Char) : parts (t ++ ['.']) =
    (t.splitOn '.').map trim ++ List.replicate (4 - (t.splitOn '.').length) ['*'] := by
  unfold parts
  rw [if_pos List.getLast?_concat, List.dropLast_concat]
  simp only [List.length_map]

/-- The octets of a full pattern do not end in a dot. -/
theorem getLast?_ne_dot {t : List Char} {vss : List (List UInt8)}
    (h : Separated '.' PaddedOctet t vss) : t.getLast? ≠ some '.' := by
  intro hlast
  obtain ⟨t, rfl⟩ := List.getLast?_eq_some_iff.1 hlast
  -- behind a final dot there would be an empty piece, and no octet is empty
  rw [separated_paddedOctet_iff, List.splitOn_append_cons_self, List.splitOn_nil,
    List.map_append] at h
  obtain ⟨vs, hoctet⟩ := exists_of_forall₂_of_mem h
    (List.mem_append_right _ (List.mem_singleton.2 rfl))
  exact hoctet.ne_nil rfl

/-- The octets that a final dot leaves out are among the parts. -/
theorem patternText_of_parts_append_dot {t : List Char} {vss : List (List UInt8)}
    (hlength : vss.length = 4) (hparts : List.Forall₂ OctetText (parts (t ++ ['.'])) vss) :
    PatternText (t ++ ['.']) vss := by
  rw [parts_append_dot, ← (t.splitOn '.').length_map trim] at hparts
  generalize hpieces : (t.splitOn '.').map trim = octets at hparts
  have hoctets := List.forall₂_take octets.length hparts
  have hmissing := List.forall₂_drop octets.length hparts
  rw [List.take_left] at hoctets
  rw [List.drop_left, forall₂_replicate_star_iff, hoctets.length_eq] at hmissing
  have hvss : vss = vss.take octets.length ++ List.replicate
      (4 - (vss.take octets.length).length) (OctetSet.interval 0 255) := by
    rw [← hmissing, ← hoctets.length_eq, List.take_append_drop]
  have hle : (vss.take octets.length).length ≤ 4 := by
    rw [List.length_take]
    omega
  rw [hvss]
  refine .dotted (separated_paddedOctet_iff.2 ?_) hle
  rw [hpieces]
  exact hoctets

/-- The parts of a text are the octets of its pattern. -/
theorem patternText_iff {t : List Char} {vss : List (List UInt8)} :
    PatternText t vss ↔ vss.length = 4 ∧ List.Forall₂ OctetText (parts t) vss := by
  constructor
  · intro h
    cases h with
    | full hseparated hlength =>
      refine ⟨hlength, ?_⟩
      rw [parts, if_neg (getLast?_ne_dot hseparated)]
      exact separated_paddedOctet_iff.1 hseparated
    | @dotted t vss hseparated hlength =>
      have hoctets := separated_paddedOctet_iff.1 hseparated
      have hcount := hoctets.length_eq
      rw [List.length_map] at hcount
      refine ⟨?_, ?_⟩
      · rw [List.length_append, List.length_replicate]
        omega
      · rw [parts_append_dot, hcount]
        exact List.rel_append hoctets (forall₂_replicate_star_iff.2 rfl)
  · rintro ⟨hlength, hparts⟩
    by_cases hlast : t.getLast? = some '.'
    · obtain ⟨t, rfl⟩ := List.getLast?_eq_some_iff.1 hlast
      exact patternText_of_parts_append_dot hlength hparts
    · rw [parts, if_neg hlast] at hparts
      exact .full (separated_paddedOctet_iff.2 hparts) hlength

theorem read_eq_ok_iff {token : List Char} {p : Pattern} :
    Pattern.read token = .ok p ↔
      List.Forall₂ (fun octet s => OctetSet.read octet = .ok s) (parts token) p.octets := by
  unfold Pattern.read
  constructor
  · intro h
    split at h
    · next a b c d hparts =>
      obtain ⟨sa, sb, sc, sd, hoctets, rfl⟩ := bind_four_eq_ok_iff.1 h
      rw [hparts]
      exact hoctets
    · cases h
  · intro h
    generalize parts token = parts at h ⊢
    rcases h with _ | ⟨ha, _ | ⟨hb, _ | ⟨hc, _ | ⟨hd, _ | _⟩⟩⟩⟩
    exact bind_four_eq_ok_iff.2
      ⟨p.a, p.b, p.c, p.d, .cons ha (.cons hb (.cons hc (.cons hd .nil))), rfl⟩

/-- A pattern is read from the texts of patterns. -/
theorem exists_patternText_iff {t : List Char} {p : Pattern} :
    (∃ vss, PatternText t vss ∧ List.Forall₂ OctetSet.Lists p.octets vss) ↔
      Pattern.read t = .ok p := by
  rw [read_eq_ok_iff]
  simp only [OctetSet.read_eq_ok_iff, forall₂_exists_iff, patternText_iff]
  constructor
  · rintro ⟨vss, ⟨-, hparts⟩, hsets⟩
    exact ⟨vss, hparts, hsets⟩
  · rintro ⟨vss, hparts, hsets⟩
    exact ⟨vss, ⟨hsets.length_eq.symm, hparts⟩, hsets⟩

end Pattern

/-! ## No dash of a pattern is that of a span -/

section Passes

variable {t : List Char} {vs : List UInt8}

theorem bracket_not_mem {t : List Char} (h : ∀ c ∈ t, isItemChar c = true ∨ c = ',') :
    (∀ b ∈ Range.brackets.opens, b ∉ t) ∧ ∀ b ∈ Range.brackets.closes, b ∉ t := by
  have hnot : ∀ b, ¬ (isItemChar b = true ∨ b = ',') → b ∉ t := by
    intro b hb hmem
    exact hb (h b hmem)
  constructor
  · rw [forall_opens_iff]
    exact ⟨hnot '[' (by decide), hnot '{' (by decide)⟩
  · rw [forall_closes_iff]
    exact ⟨hnot ']' (by decide), hnot '}' (by decide)⟩

/-- A single character that is no bracket and no dash. -/
theorem passes_singleton {c : Char} (h : c ∉ ['[', '{', ']', '}', '-']) :
    Range.brackets.Passes '-' 0 [c] 0 := by
  simp only [List.mem_cons, List.not_mem_nil, or_false, not_or] at h
  obtain ⟨hbracket, hbrace, hbracket', hbrace', hdash⟩ := h
  apply Nesting.Passes.of_unbracketed
  · rw [forall_opens_iff]
    simp [Ne.symm hbracket, Ne.symm hbrace]
  · rw [forall_closes_iff]
    simp [Ne.symm hbracket', Ne.symm hbrace']
  · intro hmem
    exact absurd (List.mem_singleton.1 hmem).symm hdash

theorem passes_of_octetText (h : OctetText t vs) : Range.brackets.Passes '-' 0 t 0 := by
  cases h with
  | any => exact passes_singleton (by decide)
  | value hv =>
    apply passes_of_forall_not_mem
    intro c hdigit _ _
    exact hv.not_mem hdigit
  | interval hinterval =>
    obtain ⟨hopens, hcloses⟩ := bracket_not_mem fun c hc => .inl (hinterval.isItemChar c hc)
    exact .enclosed (by decide) (by decide) (by decide) (by decide) hopens hcloses
  | list hlist =>
    obtain ⟨hopens, hcloses⟩ := bracket_not_mem (OctetText.isItemChar_of_separated hlist)
    exact .enclosed (by decide) (by decide) (by decide) (by decide) hopens hcloses

/-- Neither octets nor what stands between them cuts a text under the nesting. -/
structure PassesOctets (n : Nesting) (separator : Char) : Prop where
  /-- Digits, dots and blanks are passed. -/
  plain : ∀ u, (∀ c, c.isDigit = false → isBlank c = false → c ≠ '.' → c ∉ u) →
    n.Passes separator 0 u 0
  octet : ∀ t vs, OctetText t vs → n.Passes separator 0 t 0

theorem brackets_passesOctets : PassesOctets Range.brackets '-' where
  plain _ h := passes_of_forall_not_mem h
  octet _ _ h := passes_of_octetText h

namespace PassesOctets

variable {n : Nesting} {separator : Char} (hn : PassesOctets n separator)
include hn

theorem blank {w : List Char} (hw : Blank w) : n.Passes separator 0 w 0 := by
  apply hn.plain
  intro c _ hblank _ hmem
  rw [hw c hmem] at hblank
  cases hblank

theorem dot : n.Passes separator 0 ['.'] 0 := by
  apply hn.plain
  intro c _ _ hc hmem
  exact hc (List.mem_singleton.1 hmem)

theorem separated {vss : List (List UInt8)} (h : Separated '.' PaddedOctet t vss) :
    n.Passes separator 0 t 0 := by
  obtain ⟨pieces, -, rfl, hpieces⟩ := h
  refine .intercalate hn.dot ?_
  intro piece hpiece
  obtain ⟨vs, octet, hpadding, hoctet⟩ := exists_of_forall₂_of_mem hpieces hpiece
  obtain ⟨w, w', hw, hw', rfl⟩ := hpadding
  have hbefore := (hn.blank hw).append (hn.octet octet vs hoctet)
  exact hbefore.append (hn.blank hw')

theorem patternText {vss : List (List UInt8)} (h : PatternText t vss) :
    n.Passes separator 0 t 0 := by
  cases h with
  | full hseparated _ => exact hn.separated hseparated
  | dotted hseparated _ => exact (hn.separated hseparated).append hn.dot

end PassesOctets

end Passes

/-! ## Ranges -/

namespace Range

theorem ne_nil_of_rangeText {t : List Char} {r : Range} (h : RangeText t r) : t ≠ [] := by
  rintro rfl
  cases h with
  | block _ hblock =>
    obtain ⟨_, _, _, _, _, _, _, _, hempty⟩ := hblock
    simp at hempty
  | span _ hspan =>
    obtain ⟨_, _, _, _, _, _, _, _, hempty⟩ := hspan
    simp at hempty
  | pattern _ hpattern _ =>
    obtain ⟨hlength, hparts⟩ := Pattern.patternText_iff.1 hpattern
    have hone := hparts.length_eq
    rw [hlength] at hone
    cases hone

/-- What is read is the text of a range, whichever notation was tried first. -/
theorem rangeText_of_read {t : List Char} (ht : Tight t) {r : Range} (h : Range.read t = .ok r) :
    RangeText t r := by
  unfold Range.read at h
  split at h
  · cases h
  · split at h
    · cases h
    · next hmixed =>
      split at h
      · next address length hsplit =>
        obtain ⟨b, hb, rfl⟩ := map_eq_ok_iff.1 h
        refine .block ?_ ((blockText_iff ht).2 ⟨address, length, hsplit, hb⟩)
        intro hdash
        obtain ⟨-, rfl⟩ := splitFirst_eq_some_iff.1 hsplit
        apply hmixed
        simp [hdash]
      · next hsplit =>
        have hslash := splitFirst_eq_none_iff.1 hsplit
        split at h
        · obtain ⟨p, hp, rfl⟩ := map_eq_ok_iff.1 h
          obtain ⟨vss, hpattern, hsets⟩ := Pattern.exists_patternText_iff.2 hp
          exact .pattern hslash hpattern hsets
        · next first last hcut =>
          obtain ⟨s, hs, rfl⟩ := map_eq_ok_iff.1 h
          exact .span hslash ((spanText_iff ht).2 ⟨first, last, hcut, hs⟩)
        · cases h

/-- No notation that is tried earlier takes the text of a range away from its own. -/
theorem read_of_rangeText {t : List Char} (ht : Tight t) {r : Range} (h : RangeText t r) :
    Range.read t = .ok r := by
  unfold Range.read
  rw [if_neg (by simp [ne_nil_of_rangeText h])]
  cases h with
  | block hdash hblock =>
    obtain ⟨address, length, hsplit, hb⟩ := (blockText_iff ht).1 hblock
    rw [if_neg (by simp [hdash]), hsplit]
    exact map_eq_ok_iff.2 ⟨_, hb, rfl⟩
  | span hslash hspan =>
    obtain ⟨first, last, hcut, hs⟩ := (spanText_iff ht).1 hspan
    rw [if_neg (by simp [hslash]), splitFirst_eq_none_iff.2 hslash, hcut]
    exact map_eq_ok_iff.2 ⟨_, hs, rfl⟩
  | pattern hslash hpattern hsets =>
    have hp := Pattern.exists_patternText_iff.1 ⟨_, hpattern, hsets⟩
    rw [if_neg (by simp [hslash]), splitFirst_eq_none_iff.2 hslash,
      Nesting.split_eq_singleton (brackets_passesOctets.patternText hpattern)]
    exact map_eq_ok_iff.2 ⟨_, hp, rfl⟩

/-- **The texts of ranges.** Exactly the texts of the grammar are read, each as the range that it
denotes without the blanks at its ends, and every other text is refused. -/
theorem parse_eq_ok_iff (token : String) :
    (∀ r, Range.parse token = .ok r ↔ RangeText (trim token.toList) r) ∧
      ((∃ cause, Range.parse token = .error cause) ↔ ∀ r, ¬ RangeText (trim token.toList) r) := by
  have ht := tight_trim token.toList
  have hread (r : Range) : Range.parse token = .ok r ↔ RangeText (trim token.toList) r :=
    ⟨rangeText_of_read ht, read_of_rangeText ht⟩
  refine ⟨hread, ?_, ?_⟩
  · rintro ⟨cause, hcause⟩ r hr
    rw [(hread r).2 hr] at hcause
    cases hcause
  · intro hnone
    cases hparse : Range.parse token with
    | error cause => exact ⟨cause, rfl⟩
    | ok r => exact absurd ((hread r).1 hparse) (hnone r)

end Range

end DiscoveryFilter
