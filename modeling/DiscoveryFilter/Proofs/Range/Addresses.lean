import DiscoveryFilter.Proofs.Range.Notation
import DiscoveryFilter.Range.Reader

/-!
# Reading addresses, blocks and spans

Reader by reader, the texts that are accepted are those of the grammar, and what is read is what
they denote. Each reader cuts its text in one way; the laws of that cut and the characters that the
pieces are made of show that no other cut gives a text of the grammar.
-/

namespace DiscoveryFilter

open Text

/-- Pieces are found by cutting at every separator, if no piece holds one. -/
theorem separated_iff {α : Type} {separator : Char} {denotes : List Char → α → Prop}
    (hpiece : ∀ p x, denotes p x → separator ∉ p) {t : List Char} {xs : List α} :
    Separated separator denotes t xs ↔ List.Forall₂ denotes (t.splitOn separator) xs := by
  constructor
  · rintro ⟨pieces, hne, hjoin, hpieces⟩
    have hnot : ∀ p ∈ pieces, separator ∉ p := by
      intro p hp
      obtain ⟨x, hx⟩ := exists_of_forall₂_of_mem hpieces hp
      exact hpiece p x hx
    rw [splitOn_eq_iff.2 ⟨hne, hnot, hjoin⟩]
    exact hpieces
  · intro h
    exact ⟨t.splitOn separator, List.splitOn_ne_nil separator t,
      List.intercalate_splitOn separator, h⟩

/-! ## Numerals and addresses -/

theorem readOctetValue_eq_ok_iff {token digits : List Char} {v : UInt8} :
    readOctetValue token digits = .ok v ↔ numeralValue digits = v.toNat := by
  have hv := v.toNat_lt
  by_cases hle : numeralValue digits ≤ 255
  · have hread : readOctetValue token digits = .ok (UInt8.ofNat (numeralValue digits)) :=
      if_pos hle
    rw [hread, Except.ok.injEq, ← UInt8.toNat_inj, UInt8.toNat_ofNat', Nat.mod_eq_of_lt (by omega)]
  · have hread : readOctetValue token digits = .error (.octetOutOfRange (String.ofList token)
        (min (numeralValue digits) RangeError.maxReportedValue)) := if_neg hle
    rw [hread]
    constructor
    · intro h
      cases h
    · intro h
      omega

theorem readOctet_eq_ok_iff {token part : List Char} {v : UInt8} :
    Ipv4.readOctet token part = .ok v ↔ OctetNumeral part v := by
  unfold Ipv4.readOctet OctetNumeral
  by_cases hpart : isNumeral part = true
  · rw [if_pos hpart, readOctetValue_eq_ok_iff]
    simp [hpart]
  · rw [if_neg hpart]
    simp [hpart]

/-- An address is read from the texts of quads. -/
theorem Ipv4.read_eq_ok_iff {token : List Char} {x : Ipv4} :
    Ipv4.read token = .ok x ↔ QuadText token x := by
  rw [QuadText, separated_iff fun p v hp => hp.not_mem (by decide)]
  have hpiece : OctetNumeral = fun p v => readOctet token p = .ok v := by
    funext p v
    exact propext readOctet_eq_ok_iff.symm
  rw [hpiece]
  unfold Ipv4.read
  constructor
  · intro h
    split at h
    · next a b c d hparts =>
      obtain ⟨va, vb, vc, vd, hoctets, rfl⟩ := bind_four_eq_ok_iff.1 h
      rw [hparts]
      exact hoctets
    · cases h
  · intro h
    generalize token.splitOn '.' = parts at h ⊢
    rcases h with _ | ⟨ha, _ | ⟨hb, _ | ⟨hc, _ | ⟨hd, _ | _⟩⟩⟩⟩
    exact bind_four_eq_ok_iff.2
      ⟨x.a, x.b, x.c, x.d, .cons ha (.cons hb (.cons hc (.cons hd .nil))), rfl⟩

theorem QuadText.ne_nil {t : List Char} {x : Ipv4} (h : QuadText t x) : t ≠ [] := by
  rintro rfl
  have hpieces := (separated_iff fun p v hp => hp.not_mem (by decide)).1 h
  rw [List.splitOn_nil] at hpieces
  exact absurd hpieces.length_eq (by decide : ¬ 1 = 4)

/-! ## Blocks -/

theorem readLength_of_mem_table : ∀ row ∈ Netmask.table,
    Block.readLength row.1.toList = .ok row.2 := by
  decide +kernel

theorem readLength_eq_ok_iff {text : List Char} {n : Nat} :
    Block.readLength text = .ok n ↔ LengthText text n := by
  constructor
  · intro h
    unfold Block.readLength at h
    split at h
    · next hnumeral =>
      split at h
      · next hle =>
        rw [← Except.ok.inj h]
        exact .numeral hnumeral hle
      · cases h
    · split at h
      · split at h
        · next length hlength =>
          obtain ⟨row, hfind, rfl⟩ := Option.map_eq_some_iff.1 hlength
          have hbeq := List.find?_some hfind
          have hname : row.1 = String.ofList text := beq_iff_eq.1 hbeq
          have htext : text = row.1.toList := by rw [hname, String.toList_ofList]
          rw [← Except.ok.inj h, htext]
          exact .netmask (List.mem_of_find?_eq_some hfind)
        · cases h
      · cases h
  · intro h
    cases h with
    | numeral hnumeral hle =>
      unfold Block.readLength
      rw [if_pos hnumeral, if_pos hle]
    | netmask hrow => exact readLength_of_mem_table _ hrow

theorem LengthText.isDigit_or_dot {t : List Char} {n : Nat} (h : LengthText t n) :
    ∀ c ∈ t, c.isDigit = true ∨ c = '.' := by
  cases h with
  | numeral hnumeral _ =>
    intro c hc
    exact .inl (isDigit_of_isNumeral hnumeral c hc)
  | @netmask row hrow =>
    have htable : ∀ row ∈ Netmask.table,
        (row.1.toList.all fun c => c.isDigit || c == '.') = true := by
      decide +kernel
    intro c hc
    have hchar := List.all_eq_true.1 (htable row hrow) c hc
    rw [Bool.or_eq_true, beq_iff_eq] at hchar
    exact hchar

theorem LengthText.le {t : List Char} {n : Nat} (h : LengthText t n) : n ≤ 32 := by
  cases h with
  | numeral _ hle => exact hle
  | netmask hrow => exact Netmask.length_le_of_mem_table hrow

theorem LengthText.tight {t : List Char} {n : Nat} (h : LengthText t n) : Tight t := by
  apply tight_of_forall
  intro c hc
  rcases h.isDigit_or_dot c hc with hdigit | rfl
  · exact isBlank_of_isDigit hdigit
  · rfl

theorem Block.ofLength_eq_ok_iff {address : Ipv4} {n : Nat} {b : Block} :
    Block.ofLength address n = .ok b ↔ address = b.address ∧ n = b.length := by
  unfold Block.ofLength
  constructor
  · intro h
    split at h
    · rw [← Except.ok.inj h]
      exact ⟨rfl, rfl⟩
    · cases h
  · rintro ⟨rfl, rfl⟩
    exact dif_pos b.length_le

theorem Block.read_eq_ok_iff {address length : List Char} {b : Block} :
    Block.read address length = .ok b ↔
      QuadText (trim address) b.address ∧ LengthText (trim length) b.length := by
  unfold Block.read
  constructor
  · intro h
    obtain ⟨x, hx, h⟩ := bind_eq_ok_iff.1 h
    obtain ⟨n, hn, h⟩ := bind_eq_ok_iff.1 h
    obtain ⟨rfl, rfl⟩ := Block.ofLength_eq_ok_iff.1 h
    exact ⟨Ipv4.read_eq_ok_iff.1 hx, readLength_eq_ok_iff.1 hn⟩
  · rintro ⟨hquad, hlength⟩
    rw [Ipv4.read_eq_ok_iff.2 hquad, readLength_eq_ok_iff.2 hlength]
    exact Block.ofLength_eq_ok_iff.2 ⟨rfl, rfl⟩

/-- A block is cut at the first slash. -/
theorem blockText_iff {t : List Char} (ht : Tight t) {b : Block} :
    BlockText t b ↔ ∃ address length, splitFirst '/' t = some (address, length) ∧
      Block.read address length = .ok b := by
  constructor
  · rintro ⟨quad, w, w', length, hquad, hw, hw', hlength, rfl⟩
    have hslash := (hquad.not_mem_padded hw (by decide) (by decide) (by decide : '/' ≠ '.')).1
    have haddress : trim (quad ++ w) = quad := by
      rw [trim_append_blank hw, trim_of_tight hquad.tight]
    have hafter : trim (w' ++ length) = length := by
      rw [trim_blank_append hw', trim_of_tight hlength.tight]
    refine ⟨quad ++ w, w' ++ length, splitFirst_append hslash _, ?_⟩
    rw [Block.read_eq_ok_iff, haddress, hafter]
    exact ⟨hquad, hlength⟩
  · rintro ⟨address, length, hsplit, hread⟩
    obtain ⟨-, rfl⟩ := splitFirst_eq_some_iff.1 hsplit
    obtain ⟨hquad, hlength⟩ := Block.read_eq_ok_iff.1 hread
    obtain ⟨w, w', hw, hw', haddress, hafter⟩ := exists_of_tight_halves ht
    refine ⟨trim address, w, w', trim length, hquad, hw, hw', hlength, ?_⟩
    rw [← haddress, ← hafter]

/-! ## Spans -/

theorem Span.read_eq_ok_iff {token first last : List Char} {s : Span} :
    Span.read token first last = .ok s ↔
      QuadText (trim first) s.first ∧ QuadText (trim last) s.last := by
  unfold Span.read
  constructor
  · intro h
    dsimp only at h
    split at h
    · cases h
    · obtain ⟨x, hx, h⟩ := bind_eq_ok_iff.1 h
      obtain ⟨y, hy, h⟩ := bind_eq_ok_iff.1 h
      obtain rfl := Except.ok.inj h
      exact ⟨Ipv4.read_eq_ok_iff.1 hx, Ipv4.read_eq_ok_iff.1 hy⟩
  · rintro ⟨hfirst, hlast⟩
    have hne : ¬ ((trim first).isEmpty || (trim last).isEmpty) = true := by
      simp [hfirst.ne_nil, hlast.ne_nil]
    dsimp only
    rw [if_neg hne, Ipv4.read_eq_ok_iff.2 hfirst, Ipv4.read_eq_ok_iff.2 hlast]
    rfl

theorem forall_opens_iff {P : Char → Prop} :
    (∀ b ∈ Range.brackets.opens, P b) ↔ P '[' ∧ P '{' := by
  simp [Range.brackets]

theorem forall_closes_iff {P : Char → Prop} :
    (∀ b ∈ Range.brackets.closes, P b) ↔ P ']' ∧ P '}' := by
  simp [Range.brackets]

/-- A text of digits, dots and blanks is not cut at all. -/
theorem passes_of_forall_not_mem {u : List Char}
    (h : ∀ c, c.isDigit = false → isBlank c = false → c ≠ '.' → c ∉ u) :
    Range.brackets.Passes '-' 0 u 0 := by
  apply Nesting.Passes.of_unbracketed
  · rw [forall_opens_iff]
    constructor
    · exact h '[' (by decide) (by decide) (by decide)
    · exact h '{' (by decide) (by decide) (by decide)
  · rw [forall_closes_iff]
    constructor
    · exact h ']' (by decide) (by decide) (by decide)
    · exact h '}' (by decide) (by decide) (by decide)
  · intro hdash
    exact absurd hdash (h '-' (by decide) (by decide) (by decide))

/-- A span is cut at its only dash. -/
theorem spanText_iff {t : List Char} (ht : Tight t) {s : Span} :
    SpanText t s ↔ ∃ first last, Range.brackets.split '-' t = [first, last] ∧
      Span.read t first last = .ok s := by
  constructor
  · rintro ⟨quad, w, w', quad', hquad, hw, hw', hquad', rfl⟩
    have hfirst : Range.brackets.Passes '-' 0 (quad ++ w) 0 :=
      passes_of_forall_not_mem fun c hdigit hblank hdot =>
        (hquad.not_mem_padded hw hdigit hblank hdot).1
    have hlast : Range.brackets.Passes '-' 0 (w' ++ quad') 0 :=
      passes_of_forall_not_mem fun c hdigit hblank hdot =>
        (hquad'.not_mem_padded hw' hdigit hblank hdot).2
    have hbefore : trim (quad ++ w) = quad := by
      rw [trim_append_blank hw, trim_of_tight hquad.tight]
    have hafter : trim (w' ++ quad') = quad' := by
      rw [trim_blank_append hw', trim_of_tight hquad'.tight]
    refine ⟨quad ++ w, w' ++ quad', ?_, ?_⟩
    · rw [Nesting.split_append_cons hfirst, Nesting.split_eq_singleton hlast]
    · rw [Span.read_eq_ok_iff, hbefore, hafter]
      exact ⟨hquad, hquad'⟩
  · rintro ⟨first, last, hsplit, hread⟩
    have hjoin := Range.brackets.intercalate_split '-' t
    rw [hsplit, List.intercalate_cons_cons, List.intercalate_singleton, List.append_assoc,
      List.singleton_append] at hjoin
    obtain ⟨hquad, hquad'⟩ := Span.read_eq_ok_iff.1 hread
    rw [← hjoin] at ht
    obtain ⟨w, w', hw, hw', hfirst, hlast⟩ := exists_of_tight_halves ht
    refine ⟨trim first, w, w', trim last, hquad, hw, hw', hquad', ?_⟩
    rw [← hfirst, ← hlast, hjoin]

end DiscoveryFilter
