import DiscoveryFilter.Proofs.Range.Reading
import DiscoveryFilter.Proofs.Text.Standing
import Mathlib.Algebra.Group.Nat.Defs

/-!
# What an error says of a range text

Each error carries a part of the text that is refused, and the relations below say what is wrong
with that part: with a text in place of an address, of a block length or of an octet, and with the
range as a whole. Whatever error a reader ends with, its relation holds.
-/

namespace DiscoveryFilter

open Text

/-- The text that an error carries. -/
def RangeError.text? : RangeError → Option String
  | .emptyToken => none
  | .mixedNotation token => some token
  | .octetCount token _ => some token
  | .invalidOctet octet => some octet
  | .octetOutOfRange token _ => some token
  | .invertedOctetSpan octet => some octet
  | .notLiteralAddress token => some token
  | .invalidLength text => some text
  | .unknownNetmask text => some text
  | .malformedSpan token => some token

/-- A numeral that is no part of a longer one stands in the text, and exceeds all octet values. -/
def HasTooLarge (t digits : List Char) : Prop :=
  isNumeral digits = true ∧ StandsIn digits t ∧ 255 < numeralValue digits

/-- What is wrong with a text in place of an address. -/
inductive AddressFault (t : List Char) : RangeError → Prop
  | count : (t.splitOn '.').length ≠ 4 →
    AddressFault t (.octetCount (String.ofList t) (t.splitOn '.').length)
  | part {part : List Char} : (t.splitOn '.').length = 4 → part ∈ t.splitOn '.' →
    isNumeral part = false → AddressFault t (.notLiteralAddress (String.ofList t))
  | value {digits : List Char} : HasTooLarge t digits →
    AddressFault t (.octetOutOfRange (String.ofList t) (min (numeralValue digits) (2 ^ 64 - 1)))

/-- What is wrong with a text in place of a block length. -/
inductive LengthFault (t : List Char) : RangeError → Prop
  | undotted : '.' ∉ t → (∀ n, ¬ LengthText t n) → LengthFault t (.invalidLength (String.ofList t))
  | dotted : '.' ∈ t → (∀ n, ¬ LengthText t n) → LengthFault t (.unknownNetmask (String.ofList t))

/-- What is wrong with an octet of a pattern. -/
inductive OctetFault (t : List Char) : RangeError → Prop
  | value {digits : List Char} : HasTooLarge t digits →
    OctetFault t (.octetOutOfRange (String.ofList t) (min (numeralValue digits) (2 ^ 64 - 1)))
  | inverted {first last : List Char} {a b : UInt8} : StandsIn (first ++ '-' :: last) t →
    OctetNumeral (trim first) a → OctetNumeral (trim last) b → b < a →
    OctetFault t (.invertedOctetSpan (String.ofList t))
  | shape : (∀ vs, ¬ OctetText t vs) → OctetFault t (.invalidOctet (String.ofList t))

/-- The first dash outside brackets stands between the two texts. -/
def CutAtDash (t before after : List Char) : Prop :=
  t = before ++ '-' :: after ∧ Range.brackets.Passes '-' 0 before 0

/-- No dash stands outside brackets. -/
def Dashless (t : List Char) : Prop :=
  ∃ depth, Range.brackets.Passes '-' 0 t depth

/-- The pieces between the dots of a pattern; behind a final dot there is none. -/
def dottedPieces (t : List Char) : List (List Char) :=
  (if t.getLast? = some '.' then t.dropLast else t).splitOn '.'

/-- What is wrong with a range text that has no blanks at its ends. -/
inductive RangeFault (t : List Char) : RangeError → Prop
  /-- The separators of two notations. -/
  | mixed : '-' ∈ t → '/' ∈ t → RangeFault t (.mixedNotation (String.ofList t))
  /-- No address before the first slash. -/
  | blockAddress {address length : List Char} {cause : RangeError} :
    t = address ++ '/' :: length → '/' ∉ address → AddressFault (trim address) cause →
    RangeFault t cause
  /-- No length behind the first slash. -/
  | blockLength {address length : List Char} {cause : RangeError} :
    t = address ++ '/' :: length → '/' ∉ address → LengthFault (trim length) cause →
    RangeFault t cause
  /-- A second dash outside brackets. -/
  | dashes {u v w rest : List Char} : CutAtDash t u rest → CutAtDash rest v w →
    RangeFault t (.malformedSpan (String.ofList t))
  /-- Nothing but blanks on one side of the only dash outside brackets. -/
  | blankSide {first last : List Char} : CutAtDash t first last → Dashless last →
    Blank first ∨ Blank last → RangeFault t (.malformedSpan (String.ofList t))
  /-- No address on one side of that dash. -/
  | spanAddress {first last side : List Char} {cause : RangeError} : CutAtDash t first last →
    Dashless last → side = first ∨ side = last → AddressFault (trim side) cause →
    RangeFault t cause
  /-- Too few or too many octets for a pattern. -/
  | count : '/' ∉ t → Dashless t → (dottedPieces t).length ≠ 4 →
    RangeFault t (.octetCount (String.ofList t) (dottedPieces t).length)
  /-- A piece of a pattern that is no octet. -/
  | octet {piece : List Char} {cause : RangeError} : '/' ∉ t → Dashless t →
    piece ∈ dottedPieces t → OctetFault (trim piece) cause → RangeFault t cause

/-! ## Addresses and lengths -/

theorem readOctetValue_eq_error_iff {token digits : List Char} {cause : RangeError} :
    readOctetValue token digits = .error cause ↔ 255 < numeralValue digits ∧
      cause = .octetOutOfRange (String.ofList token) (min (numeralValue digits) (2 ^ 64 - 1)) := by
  unfold readOctetValue
  dsimp only
  by_cases hle : numeralValue digits ≤ 255
  · rw [if_pos hle]
    constructor
    · intro h
      cases h
    · rintro ⟨hlt, -⟩
      omega
  · have hlt : 255 < numeralValue digits := by omega
    rw [if_neg hle]
    simp [hlt, eq_comm, RangeError.maxReportedValue]

theorem Ipv4.fault_of_read {t : List Char} {cause : RangeError}
    (h : Ipv4.read t = .error cause) : AddressFault t cause := by
  unfold Ipv4.read at h
  split at h
  · next a b c d hparts =>
    obtain ⟨part, hpart, h⟩ := exists_of_bind_four_eq_error h
    rw [← hparts] at hpart
    unfold Ipv4.readOctet at h
    split at h
    · next hnumeral =>
      obtain ⟨hvalue, rfl⟩ := readOctetValue_eq_error_iff.1 h
      exact .value ⟨hnumeral, standsIn_of_mem_splitOn (by decide) hpart, hvalue⟩
    · next hnumeral =>
      obtain rfl := Except.error.inj h
      have hlength : (t.splitOn '.').length = 4 := by
        rw [hparts]
        rfl
      exact .part hlength hpart (Bool.not_eq_true _ ▸ hnumeral)
  · next hparts =>
    obtain rfl := Except.error.inj h
    apply AddressFault.count
    intro hlength
    obtain ⟨a, b, c, d, hfour⟩ := List.length_eq_four.1 hlength
    exact hparts a b c d hfour

theorem Block.fault_of_readLength {t : List Char} {cause : RangeError}
    (h : Block.readLength t = .error cause) : LengthFault t cause := by
  have hnone : ∀ n, ¬ LengthText t n := by
    intro n hn
    rw [readLength_eq_ok_iff.2 hn] at h
    cases h
  unfold Block.readLength at h
  split at h
  · next hnumeral =>
    split at h
    · cases h
    · obtain rfl := Except.error.inj h
      refine .undotted ?_ hnone
      intro hdot
      exact absurd (isDigit_of_isNumeral hnumeral '.' hdot) (by decide)
  · split at h
    · next hdot =>
      split at h
      · cases h
      · obtain rfl := Except.error.inj h
        exact .dotted (List.contains_iff_mem.1 hdot) hnone
    · next hdot =>
      obtain rfl := Except.error.inj h
      exact .undotted (mt List.contains_iff_mem.2 hdot) hnone

theorem Block.fault_of_read {address length : List Char} {cause : RangeError}
    (h : Block.read address length = .error cause) :
    AddressFault (trim address) cause ∨ LengthFault (trim length) cause := by
  unfold Block.read at h
  rcases bind_eq_error_iff.1 h with h | ⟨x, -, h⟩
  · exact .inl (Ipv4.fault_of_read h)
  rcases bind_eq_error_iff.1 h with h | ⟨n, hn, h⟩
  · exact .inr (Block.fault_of_readLength h)
  -- a length that is read is at most 32, so no block is refused for it
  have hle : n ≤ 32 := (readLength_eq_ok_iff.1 hn).le
  rw [Block.ofLength, dif_pos hle] at h
  cases h

theorem Span.fault_of_read {t first last : List Char} {cause : RangeError}
    (h : Span.read t first last = .error cause) :
    (Blank first ∨ Blank last) ∧ cause = .malformedSpan (String.ofList t) ∨
      ∃ side, (side = first ∨ side = last) ∧ AddressFault (trim side) cause := by
  unfold Span.read at h
  dsimp only at h
  split at h
  · next hempty =>
    obtain rfl := Except.error.inj h
    rw [Bool.or_eq_true, List.isEmpty_iff, List.isEmpty_iff, trim_eq_nil_iff,
      trim_eq_nil_iff] at hempty
    exact .inl ⟨hempty, rfl⟩
  · rcases bind_eq_error_iff.1 h with h | ⟨x, -, h⟩
    · exact .inr ⟨first, .inl rfl, Ipv4.fault_of_read h⟩
    rcases bind_eq_error_iff.1 h with h | ⟨y, -, h⟩
    · exact .inr ⟨last, .inr rfl, Ipv4.fault_of_read h⟩
    cases h

/-! ## Octets -/

namespace OctetSet

variable {octet first last item : List Char} {cause : RangeError}

theorem fault_of_readSpan (hnone : ∀ vs, ¬ OctetText octet vs)
    (hin : StandsIn (first ++ '-' :: last) octet)
    (h : readSpan octet (trim first) (trim last) = .error cause) : OctetFault octet cause := by
  have hfirst := (standsIn_trim first).trans ((standsIn_before (by decide) first last).trans hin)
  have hlast := (standsIn_trim last).trans ((standsIn_after (by decide) first last).trans hin)
  unfold readSpan at h
  split at h
  · next hnumerals =>
    rw [Bool.and_eq_true] at hnumerals
    rcases bind_eq_error_iff.1 h with h | ⟨a, ha, h⟩
    · obtain ⟨hvalue, rfl⟩ := readOctetValue_eq_error_iff.1 h
      exact .value ⟨hnumerals.1, hfirst, hvalue⟩
    rcases bind_eq_error_iff.1 h with h | ⟨b, hb, h⟩
    · obtain ⟨hvalue, rfl⟩ := readOctetValue_eq_error_iff.1 h
      exact .value ⟨hnumerals.2, hlast, hvalue⟩
    split at h
    · next hlt =>
      obtain rfl := Except.error.inj h
      exact .inverted hin ⟨hnumerals.1, readOctetValue_eq_ok_iff.1 ha⟩
        ⟨hnumerals.2, readOctetValue_eq_ok_iff.1 hb⟩ hlt
    · cases h
  · obtain rfl := Except.error.inj h
    exact .shape hnone

theorem fault_of_readSingle (hnone : ∀ vs, ¬ OctetText octet vs) (hin : StandsIn item octet)
    (h : (if isNumeral item then single <$> readOctetValue octet item
      else .error (.invalidOctet (String.ofList octet)) : Except RangeError OctetSet) =
        .error cause) : OctetFault octet cause := by
  split at h
  · next hnumeral =>
    obtain ⟨hvalue, rfl⟩ := readOctetValue_eq_error_iff.1 (map_eq_error_iff.1 h)
    exact .value ⟨hnumeral, hin, hvalue⟩
  · obtain rfl := Except.error.inj h
    exact .shape hnone

theorem fault_of_readItem (hnone : ∀ vs, ¬ OctetText octet vs) (hin : StandsIn item octet)
    (h : readItem octet item = .error cause) : OctetFault octet cause := by
  unfold readItem at h
  split at h
  · next first last hsplit =>
    obtain ⟨-, rfl⟩ := splitFirst_eq_some_iff.1 hsplit
    exact fault_of_readSpan hnone hin h
  · exact fault_of_readSingle hnone hin h

theorem fault_of_readItems {inner : List Char} (hnone : ∀ vs, ¬ OctetText octet vs)
    (hin : StandsIn inner octet)
    (h : readItems octet ((inner.splitOn ',').map trim) = .error cause) :
    OctetFault octet cause := by
  obtain ⟨s, item, hitem, h⟩ := exists_of_foldlM_eq_error h
  obtain ⟨piece, hpiece, rfl⟩ := List.mem_map.1 hitem
  have hstands := (standsIn_trim piece).trans (standsIn_of_mem_splitOn (by decide) hpiece)
  exact fault_of_readItem hnone (hstands.trans hin) (map_eq_error_iff.1 h)

theorem fault_of_read {t : List Char} (h : OctetSet.read t = .error cause) :
    OctetFault t cause := by
  have hnone : ∀ vs, ¬ OctetText t vs := by
    intro vs hvs
    rw [read_of_octetText hvs (lists_pushAll vs)] at h
    cases h
  unfold OctetSet.read at h
  split at h
  · cases h
  · split at h
    · next inner hunwrap =>
      obtain rfl := unwrap_eq_some_iff.1 hunwrap
      have hin : StandsIn inner ('[' :: (inner ++ [']'])) :=
        standsIn_enclosed (by decide) (by decide) inner
      split at h
      · next first last hsplit =>
        obtain ⟨-, rfl⟩ := splitFirst_eq_some_iff.1 hsplit
        exact fault_of_readSpan hnone hin h
      · obtain rfl := Except.error.inj h
        exact .shape hnone
    · next inner _ hunwrap =>
      obtain rfl := unwrap_eq_some_iff.1 hunwrap
      exact fault_of_readItems hnone (standsIn_enclosed (by decide) (by decide) inner) h
    · exact fault_of_readSingle hnone (.refl t) h

end OctetSet

/-! ## Patterns -/

namespace Pattern

variable {t : List Char} {cause : RangeError}

/-- The octets that are added for a final dot bring their number to four. -/
theorem exists_parts_eq (t : List Char) :
    ∃ n, parts t = (dottedPieces t).map trim ++ List.replicate n ['*'] ∧
      (n = 0 ∨ (parts t).length = 4) := by
  unfold parts dottedPieces
  by_cases hlast : t.getLast? = some '.'
  · rw [if_pos hlast, if_pos hlast]
    refine ⟨_, rfl, ?_⟩
    rw [List.length_append, List.length_replicate]
    omega
  · rw [if_neg hlast, if_neg hlast]
    exact ⟨0, by simp, .inl rfl⟩

theorem standsIn_of_mem_dottedPieces {piece : List Char} (h : piece ∈ dottedPieces t) :
    StandsIn piece t := by
  unfold dottedPieces at h
  have hpiece := standsIn_of_mem_splitOn (by decide) h
  split at hpiece
  · next hlast =>
    obtain ⟨body, rfl⟩ := List.getLast?_eq_some_iff.1 hlast
    rw [List.dropLast_concat] at hpiece
    exact hpiece.trans (standsIn_before (by decide) body [])
  · exact hpiece

theorem fault_of_read (h : Pattern.read t = .error cause) :
    ((dottedPieces t).length ≠ 4 ∧
        cause = .octetCount (String.ofList t) (dottedPieces t).length) ∨
      ∃ piece ∈ dottedPieces t, OctetFault (trim piece) cause := by
  obtain ⟨n, hparts, hmissing⟩ := exists_parts_eq t
  unfold Pattern.read at h
  split at h
  · next a b c d hfour =>
    obtain ⟨octet, hoctet, h⟩ := exists_of_bind_four_eq_error h
    rw [← hfour, hparts] at hoctet
    rcases List.mem_append.1 hoctet with hoctet | hoctet
    · obtain ⟨piece, hpiece, rfl⟩ := List.mem_map.1 hoctet
      exact .inr ⟨piece, hpiece, OctetSet.fault_of_read h⟩
    · rw [List.eq_of_mem_replicate hoctet] at h
      cases h
  · next hfour =>
    obtain rfl := Except.error.inj h
    have hlength : (parts t).length ≠ 4 := by
      intro hlength
      obtain ⟨a, b, c, d, heq⟩ := List.length_eq_four.1 hlength
      exact hfour a b c d heq
    obtain rfl := hmissing.resolve_right hlength
    rw [hparts, List.replicate_zero, List.append_nil, List.length_map] at hlength ⊢
    exact .inl ⟨hlength, rfl⟩

end Pattern

/-! ## Ranges -/

/-- A text is cut at no dash, at one, or at several. -/
theorem Range.dashes_cases (t : List Char) :
    (Dashless t ∧ brackets.split '-' t = [t]) ∨
      (∃ first last, CutAtDash t first last ∧ Dashless last ∧
        brackets.split '-' t = [first, last]) ∨
      ∃ u v w rest pieces, CutAtDash t u rest ∧ CutAtDash rest v w ∧
        brackets.split '-' t = u :: v :: pieces ∧ pieces ≠ [] := by
  rcases brackets.splitFrom_cases '-' 0 t with ⟨depth, hpasses, hsplit⟩ | ⟨u, rest, ht, hu, hsplit⟩
  · exact .inl ⟨⟨depth, hpasses⟩, hsplit⟩
  rcases brackets.splitFrom_cases '-' 0 rest with
    ⟨depth, hpasses, hrest⟩ | ⟨v, w, hv, hpasses, hrest⟩
  · refine .inr (.inl ⟨u, rest, ⟨ht, hu⟩, ⟨depth, hpasses⟩, ?_⟩)
    rw [Nesting.split, hsplit, Nesting.split, hrest]
  · refine .inr (.inr ⟨u, v, w, rest, brackets.split '-' w, ⟨ht, hu⟩, ⟨hv, hpasses⟩, ?_,
      brackets.splitFrom_ne_nil '-' 0 w⟩)
    rw [Nesting.split, hsplit, Nesting.split, hrest]

/-- Whatever a text is refused for is wrong with it. -/
theorem Range.fault_of_read {t : List Char} {cause : RangeError} (ht : t ≠ [])
    (h : Range.read t = .error cause) : RangeFault t cause := by
  unfold Range.read at h
  rw [if_neg (by simpa using ht)] at h
  split at h
  · next hmixed =>
    obtain rfl := Except.error.inj h
    rw [Bool.and_eq_true, List.contains_iff_mem, List.contains_iff_mem] at hmixed
    exact .mixed hmixed.1 hmixed.2
  split at h
  · next address length hsplit =>
    obtain ⟨hslash, rfl⟩ := splitFirst_eq_some_iff.1 hsplit
    rcases Block.fault_of_read (map_eq_error_iff.1 h) with hfault | hfault
    · exact .blockAddress rfl hslash hfault
    · exact .blockLength rfl hslash hfault
  · next hsplit =>
    have hslash := splitFirst_eq_none_iff.1 hsplit
    rcases dashes_cases t with ⟨hdashless, hcut⟩ | ⟨first, last, hcutAt, hdashless, hcut⟩ |
      ⟨u, v, w, rest, pieces, hfirst, hsecond, hcut, hne⟩
    · rw [hcut] at h
      rcases Pattern.fault_of_read (map_eq_error_iff.1 h) with ⟨hlength, rfl⟩ | hpiece
      · exact .count hslash hdashless hlength
      · obtain ⟨piece, hpiece, hfault⟩ := hpiece
        exact .octet hslash hdashless hpiece hfault
    · rw [hcut] at h
      rcases Span.fault_of_read (map_eq_error_iff.1 h) with ⟨hblank, rfl⟩ | hside
      · exact .blankSide hcutAt hdashless hblank
      · obtain ⟨side, hside, hfault⟩ := hside
        exact .spanAddress hcutAt hdashless hside hfault
    · obtain ⟨p, ps, rfl⟩ := List.exists_cons_of_ne_nil hne
      rw [hcut] at h
      obtain rfl := Except.error.inj h
      exact .dashes hfirst hsecond

/-! ## The text of an error -/

theorem AddressFault.text?_eq {t : List Char} {cause : RangeError} (h : AddressFault t cause) :
    cause.text? = some (String.ofList t) := by
  cases h <;> rfl

theorem LengthFault.text?_eq {t : List Char} {cause : RangeError} (h : LengthFault t cause) :
    cause.text? = some (String.ofList t) := by
  cases h <;> rfl

theorem OctetFault.text?_eq {t : List Char} {cause : RangeError} (h : OctetFault t cause) :
    cause.text? = some (String.ofList t) := by
  cases h <;> rfl

/-- The text that an error carries stands in the text that is refused. -/
theorem RangeFault.exists_text?_eq {t : List Char} {cause : RangeError} (h : RangeFault t cause) :
    ∃ text, cause.text? = some (String.ofList text) ∧ StandsIn text t := by
  have hdash : '-'.isDigit = false := by decide
  have hslash : '/'.isDigit = false := by decide
  cases h with
  | mixed _ _ => exact ⟨t, rfl, .refl t⟩
  | blockAddress ht _ hfault =>
    subst ht
    exact ⟨_, hfault.text?_eq, (standsIn_trim _).trans (standsIn_before hslash _ _)⟩
  | blockLength ht _ hfault =>
    subst ht
    exact ⟨_, hfault.text?_eq, (standsIn_trim _).trans (standsIn_after hslash _ _)⟩
  | dashes _ _ => exact ⟨t, rfl, .refl t⟩
  | blankSide _ _ _ => exact ⟨t, rfl, .refl t⟩
  | spanAddress hcut _ hside hfault =>
    obtain ⟨rfl, -⟩ := hcut
    refine ⟨_, hfault.text?_eq, (standsIn_trim _).trans ?_⟩
    rcases hside with rfl | rfl
    · exact standsIn_before hdash _ _
    · exact standsIn_after hdash _ _
  | count _ _ _ => exact ⟨t, rfl, .refl t⟩
  | octet _ _ hpiece hfault =>
    exact ⟨_, hfault.text?_eq,
      (standsIn_trim _).trans (Pattern.standsIn_of_mem_dottedPieces hpiece)⟩

end DiscoveryFilter
