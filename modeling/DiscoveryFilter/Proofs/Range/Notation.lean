import DiscoveryFilter.Proofs.Log.Outcome
import DiscoveryFilter.Proofs.OctetSet
import DiscoveryFilter.Proofs.Text.Separators
import DiscoveryFilter.Proofs.Text.Trim
import DiscoveryFilter.Range.Basic
import DiscoveryFilter.Range.Netmask

/-!
# The notations of ranges

The grammar of range texts as relations between a text and what it denotes, told without the
reader. Blanks may stand around every number, but nowhere else inside a text.
-/

namespace DiscoveryFilter

open Text

/-- Pieces with separators between them, each of which denotes one element of the list. -/
def Separated {α : Type} (separator : Char) (denotes : List Char → α → Prop) (t : List Char)
    (xs : List α) : Prop :=
  ∃ pieces, pieces ≠ [] ∧ [separator].intercalate pieces = t ∧ List.Forall₂ denotes pieces xs

/-- A run of digits whose value is that of the octet; leading zeros are allowed. -/
def OctetNumeral (t : List Char) (v : UInt8) : Prop :=
  isNumeral t = true ∧ numeralValue t = v.toNat

/-- Four numerals with dots between them and nothing else. -/
def QuadText (t : List Char) (x : Ipv4) : Prop :=
  Separated '.' OctetNumeral t x.octets

/-- A numeral of at most 32, or one of the netmasks. -/
inductive LengthText : List Char → Nat → Prop
  | numeral {t : List Char} : isNumeral t = true → numeralValue t ≤ 32 →
    LengthText t (numeralValue t)
  | netmask {row : String × Nat} : row ∈ Netmask.table → LengthText row.1.toList row.2

/-- An address and a length with a slash between them. -/
def BlockText (t : List Char) (b : Block) : Prop :=
  ∃ quad w w' length, QuadText quad b.address ∧ Blank w ∧ Blank w' ∧ LengthText length b.length ∧
    t = quad ++ w ++ '/' :: (w' ++ length)

/-- Two addresses with a dash between them. -/
def SpanText (t : List Char) (s : Span) : Prop :=
  ∃ quad w w' quad', QuadText quad s.first ∧ Blank w ∧ Blank w' ∧ QuadText quad' s.last ∧
    t = quad ++ w ++ '-' :: (w' ++ quad')

/-- Two numerals with a dash between them denote the values from the one up to the other. -/
def IntervalText (t : List Char) (vs : List UInt8) : Prop :=
  ∃ lower upper first last a b, Padding lower first ∧ Padding upper last ∧ OctetNumeral first a ∧
    OctetNumeral last b ∧ a ≤ b ∧ t = lower ++ '-' :: upper ∧ vs = OctetSet.interval a b

/-- An entry of a list in braces. -/
inductive ItemText : List Char → List UInt8 → Prop
  | value {t digits : List Char} {v : UInt8} : Padding t digits → OctetNumeral digits v →
    ItemText t [v]
  | interval {t : List Char} {vs : List UInt8} : IntervalText t vs → ItemText t vs

/-- The values that one octet of a pattern denotes, in the order in which they are written. -/
inductive OctetText : List Char → List UInt8 → Prop
  | any : OctetText ['*'] (OctetSet.interval 0 255)
  | value {t : List Char} {v : UInt8} : OctetNumeral t v → OctetText t [v]
  | interval {t : List Char} {vs : List UInt8} : IntervalText t vs →
    OctetText ('[' :: (t ++ [']'])) vs
  | list {t : List Char} {vss : List (List UInt8)} : Separated ',' ItemText t vss →
    OctetText ('{' :: (t ++ ['}'])) vss.flatten

/-- An octet with blanks around it. -/
def PaddedOctet (t : List Char) (vs : List UInt8) : Prop :=
  ∃ octet, Padding t octet ∧ OctetText octet vs

/-- Four octets with dots between them. A pattern may end in a dot; it may then have fewer octets,
and those that are missing stand for every value. -/
inductive PatternText : List Char → List (List UInt8) → Prop
  | full {t : List Char} {vss : List (List UInt8)} : Separated '.' PaddedOctet t vss →
    vss.length = 4 → PatternText t vss
  | dotted {t : List Char} {vss : List (List UInt8)} : Separated '.' PaddedOctet t vss →
    vss.length ≤ 4 →
    PatternText (t ++ ['.']) (vss ++ List.replicate (4 - vss.length) (OctetSet.interval 0 255))

/-- The range that a text without blanks at its ends denotes. -/
inductive RangeText (t : List Char) : Range → Prop
  | block {b : Block} : '-' ∉ t → BlockText t b → RangeText t (.block b)
  | span {s : Span} : '/' ∉ t → SpanText t s → RangeText t (.span s)
  | pattern {p : Pattern} {vss : List (List UInt8)} : '/' ∉ t → PatternText t vss →
    List.Forall₂ OctetSet.Lists p.octets vss → RangeText t (.pattern p)

/-! ## Which characters a text is made of -/

/-- The characters of an entry of a list in braces. -/
def isItemChar (c : Char) : Bool :=
  c.isDigit || isBlank c || c == '-'

/-- What holds of the separator and of the characters of every piece holds throughout. -/
theorem Separated.forall_mem {α : Type} {separator : Char} {denotes : List Char → α → Prop}
    {t : List Char} {xs : List α} (h : Separated separator denotes t xs) {P : Char → Prop}
    (hsep : P separator) (hpiece : ∀ p x, denotes p x → ∀ c ∈ p, P c) : ∀ c ∈ t, P c := by
  obtain ⟨pieces, -, rfl, hpieces⟩ := h
  refine forall_mem_intercalate hsep ?_
  intro p hp
  obtain ⟨x, hx⟩ := exists_of_forall₂_of_mem hpieces hp
  exact hpiece p x hx

/-- Pieces that denote elements denote what becomes of these as well. -/
theorem Separated.map {α β : Type} {separator : Char} {denotes : List Char → α → Prop}
    {denotes' : List Char → β → Prop} {t : List Char} {xs : List α} {f : α → β}
    (h : Separated separator denotes t xs) (hpiece : ∀ p x, denotes p x → denotes' p (f x)) :
    Separated separator denotes' t (xs.map f) := by
  obtain ⟨pieces, hne, hjoin, hpieces⟩ := h
  refine ⟨pieces, hne, hjoin, ?_⟩
  rw [List.forall₂_map_right_iff]
  exact hpieces.imp hpiece

namespace OctetNumeral

variable {t : List Char} {v : UInt8}

theorem isDigit (h : OctetNumeral t v) : ∀ c ∈ t, c.isDigit = true :=
  isDigit_of_isNumeral h.1

theorem ne_nil (h : OctetNumeral t v) : t ≠ [] := by
  rintro rfl
  cases h.1

theorem tight (h : OctetNumeral t v) : Tight t := by
  apply tight_of_forall
  intro c hc
  exact isBlank_of_isDigit (h.isDigit c hc)

/-- A numeral holds no character that is not a digit. -/
theorem not_mem (h : OctetNumeral t v) {c : Char} (hc : c.isDigit = false) : c ∉ t := by
  intro hmem
  rw [h.isDigit c hmem] at hc
  cases hc

end OctetNumeral

namespace QuadText

variable {t : List Char} {x : Ipv4}

theorem isDigit_or_dot (h : QuadText t x) : ∀ c ∈ t, c.isDigit = true ∨ c = '.' := by
  refine h.forall_mem ?_ ?_
  · exact .inr rfl
  · intro p v hp c hc
    exact .inl (hp.isDigit c hc)

/-- A quad holds no character that is neither a digit nor a dot. -/
theorem not_mem (h : QuadText t x) {c : Char} (hdigit : c.isDigit = false) (hdot : c ≠ '.') :
    c ∉ t := by
  intro hmem
  rcases h.isDigit_or_dot c hmem with hc | hc
  · rw [hdigit] at hc
    cases hc
  · exact hdot hc

/-- Neither does a quad with blanks behind or before it. -/
theorem not_mem_padded (h : QuadText t x) {w : List Char} (hw : Blank w) {c : Char}
    (hdigit : c.isDigit = false) (hblank : isBlank c = false) (hdot : c ≠ '.') :
    c ∉ t ++ w ∧ c ∉ w ++ t := by
  have hblanks : c ∉ w := by
    intro hmem
    rw [hw c hmem] at hblank
    cases hblank
  have hquad := h.not_mem hdigit hdot
  constructor
  · intro hmem
    rcases List.mem_append.1 hmem with hmem | hmem
    · exact hquad hmem
    · exact hblanks hmem
  · intro hmem
    rcases List.mem_append.1 hmem with hmem | hmem
    · exact hblanks hmem
    · exact hquad hmem

theorem tight (h : QuadText t x) : Tight t := by
  apply tight_of_forall
  intro c hc
  rcases h.isDigit_or_dot c hc with hc | rfl
  · exact isBlank_of_isDigit hc
  · rfl

end QuadText

/-- A numeral with blanks around it. -/
theorem isDigit_or_isBlank_of_padding {t digits : List Char} {v : UInt8} (h : Padding t digits)
    (hdigits : OctetNumeral digits v) : ∀ c ∈ t, c.isDigit = true ∨ isBlank c = true := by
  refine h.forall_mem ?_ ?_
  · intro c hc
    exact .inr hc
  · intro c hc
    exact .inl (hdigits.isDigit c hc)

theorem isItemChar_of_padding {t digits : List Char} {v : UInt8} (h : Padding t digits)
    (hdigits : OctetNumeral digits v) : ∀ c ∈ t, isItemChar c = true := by
  intro c hc
  rcases isDigit_or_isBlank_of_padding h hdigits c hc with hc | hc <;> simp [isItemChar, hc]

theorem dash_not_mem_of_padding {t digits : List Char} {v : UInt8} (h : Padding t digits)
    (hdigits : OctetNumeral digits v) : '-' ∉ t := by
  intro hmem
  rcases isDigit_or_isBlank_of_padding h hdigits '-' hmem with hc | hc
  · exact absurd hc (by decide)
  · exact absurd hc (by decide)

theorem IntervalText.isItemChar {t : List Char} {vs : List UInt8} (h : IntervalText t vs) :
    ∀ c ∈ t, isItemChar c = true := by
  obtain ⟨lower, upper, first, last, a, b, hlower, hupper, hfirst, hlast, -, rfl, -⟩ := h
  intro c hc
  rcases List.mem_append.1 hc with hc | hc
  · exact isItemChar_of_padding hlower hfirst c hc
  · rcases List.mem_cons.1 hc with rfl | hc
    · decide
    · exact isItemChar_of_padding hupper hlast c hc

theorem ItemText.isItemChar {t : List Char} {vs : List UInt8} (h : ItemText t vs) :
    ∀ c ∈ t, isItemChar c = true := by
  cases h with
  | value hpadding hdigits => exact isItemChar_of_padding hpadding hdigits
  | interval h => exact h.isItemChar

/-- The comma that separates entries stands in none of them. -/
theorem ItemText.comma_not_mem {t : List Char} {vs : List UInt8} (h : ItemText t vs) :
    ',' ∉ t := by
  intro hmem
  exact absurd (h.isItemChar ',' hmem) (by decide)

namespace OctetText

variable {t : List Char} {vs : List UInt8}

/-- Inside its brackets an octet holds entries and commas. -/
theorem isItemChar_of_separated {vss : List (List UInt8)} (h : Separated ',' ItemText t vss) :
    ∀ c ∈ t, isItemChar c = true ∨ c = ',' := by
  refine h.forall_mem ?_ ?_
  · exact .inr rfl
  · intro p ws hp c hc
    exact .inl (hp.isItemChar c hc)

theorem tight (h : OctetText t vs) : Tight t := by
  cases h with
  | any =>
    apply tight_of_forall
    intro c hc
    rw [List.mem_singleton.1 hc]
    rfl
  | value hdigits => exact hdigits.tight
  | interval _ => exact tight_enclosed (by decide) (by decide) _
  | list _ => exact tight_enclosed (by decide) (by decide) _

theorem ne_nil (h : OctetText t vs) : t ≠ [] := by
  cases h with
  | any => exact List.cons_ne_nil _ _
  | value hdigits => exact hdigits.ne_nil
  | interval _ => exact List.cons_ne_nil _ _
  | list _ => exact List.cons_ne_nil _ _

/-- The dot that separates octets stands in none of them. -/
theorem dot_not_mem (h : OctetText t vs) : '.' ∉ t := by
  have hitem : isItemChar '.' = false := by decide
  cases h with
  | any => decide
  | value hdigits => exact hdigits.not_mem (by decide)
  | interval h =>
    have hinner := h.isItemChar '.'
    simp only [List.mem_cons, List.mem_append, List.not_mem_nil, or_false]
    rintro (hc | hc | hc)
    · cases hc
    · rw [hinner hc] at hitem
      cases hitem
    · cases hc
  | list h =>
    have hinner := isItemChar_of_separated h '.'
    simp only [List.mem_cons, List.mem_append, List.not_mem_nil, or_false]
    rintro (hc | hc | hc)
    · cases hc
    · rcases hinner hc with hc | hc
      · rw [hc] at hitem
        cases hitem
      · cases hc
    · cases hc

end OctetText

theorem PaddedOctet.dot_not_mem {t : List Char} {vs : List UInt8} (h : PaddedOctet t vs) :
    '.' ∉ t := by
  obtain ⟨octet, hpadding, hoctet⟩ := h
  have hne : ∀ c ∈ t, c ≠ '.' := by
    refine hpadding.forall_mem ?_ ?_
    · rintro c hc rfl
      exact absurd hc (by decide)
    · rintro c hc rfl
      exact hoctet.dot_not_mem hc
  intro hmem
  exact hne '.' hmem rfl

end DiscoveryFilter
