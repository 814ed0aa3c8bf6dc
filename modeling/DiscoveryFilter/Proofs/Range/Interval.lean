import DiscoveryFilter.Proofs.OctetSet
import DiscoveryFilter.Range.Basic
import Mathlib.Data.Nat.Digits.Lemmas

/-!
# Ranges as intervals of numbers

The walk of a span over the octets is the comparison of numbers, and the mask of a block is a
division: `Span.contains_iff` and `Block.contains_iff` say so. A pattern that fixes the leading
octets holds the addresses with the same quotient as well.
-/

namespace DiscoveryFilter

/-! ## Octets as digits -/

/-- The number with these octets as its digits in base 256, the most significant first. -/
def octetsValue (vs : List UInt8) : Nat :=
  Nat.ofDigits 256 (vs.reverse.map UInt8.toNat)

theorem octetsValue_cons (v : UInt8) (vs : List UInt8) :
    octetsValue (v :: vs) = octetsValue vs + 256 ^ vs.length * v.toNat := by
  rw [octetsValue, octetsValue, List.map_reverse, List.map_cons, Nat.ofDigits_reverse_cons,
    List.length_map, List.map_reverse]

theorem lt_of_mem_digits {vs : List UInt8} : ∀ n ∈ vs.reverse.map UInt8.toNat, n < 256 := by
  intro n hn
  obtain ⟨v, -, rfl⟩ := List.mem_map.1 hn
  exact v.toNat_lt

theorem octetsValue_lt (vs : List UInt8) : octetsValue vs < 256 ^ vs.length := by
  have h := Nat.ofDigits_lt_base_pow_length (by decide) (@lt_of_mem_digits vs)
  rw [List.length_map, List.length_reverse] at h
  exact h

/-- Of two numbers with equally many digits, the first digits that differ tell the smaller. -/
theorem octetsValue_cons_le_iff {v w : UInt8} {vs ws : List UInt8} (h : vs.length = ws.length) :
    octetsValue (v :: vs) ≤ octetsValue (w :: ws) ↔
      v < w ∨ v = w ∧ octetsValue vs ≤ octetsValue ws := by
  have hvs := octetsValue_lt vs
  have hws := octetsValue_lt ws
  rw [octetsValue_cons, octetsValue_cons, h, UInt8.lt_iff_toNat_lt, ← UInt8.toNat_inj]
  rw [h] at hvs
  rcases Nat.lt_trichotomy v.toNat w.toNat with hlt | heq | hgt
  · have hmul := Nat.mul_le_mul_left (256 ^ ws.length) (Nat.succ_le_of_lt hlt)
    rw [Nat.mul_succ] at hmul
    omega
  · rw [heq]
    omega
  · have hmul := Nat.mul_le_mul_left (256 ^ ws.length) (Nat.succ_le_of_lt hgt)
    rw [Nat.mul_succ] at hmul
    omega

theorem octetsValue_inj {vs ws : List UInt8} (h : vs.length = ws.length) :
    octetsValue vs = octetsValue ws ↔ vs = ws := by
  constructor
  · intro heq
    have hdigits := Nat.ofDigits_inj_of_len_eq (by decide) (by simpa using h) lt_of_mem_digits
      lt_of_mem_digits heq
    have hoctets := List.map_injective_iff.2 (fun _ _ => UInt8.toNat_inj.1) hdigits
    exact List.reverse_injective hoctets
  · exact congrArg octetsValue

/-- The leading octets are the quotient by the place of the last one of them. -/
theorem octetsValue_take (vs : List UInt8) (k : Nat) :
    octetsValue (vs.take k) = octetsValue vs / 256 ^ (vs.length - k) := by
  rw [octetsValue, octetsValue,
    Nat.ofDigits_div_pow_eq_ofDigits_drop _ (by decide) _ lt_of_mem_digits, List.reverse_take,
    List.map_drop]

theorem Ipv4.octetsValue_octets (x : Ipv4) : octetsValue x.octets = x.toNat := by
  simp only [octetsValue, octets, toNat, List.reverse_cons, List.reverse_nil, List.nil_append,
    List.cons_append, List.map_cons, List.map_nil, Nat.ofDigits_cons, Nat.ofDigits_nil]
  omega

/-! ## Spans -/

namespace Span

/-- The bounds that still apply, as numbers with the octets that are left. -/
def Tracking.Admits (t : Tracking) (l : List (Bound × UInt8)) : Prop :=
  (t ≠ .last → octetsValue (l.map fun q => q.1.low) ≤ octetsValue (l.map fun q => q.2)) ∧
    (t ≠ .first → octetsValue (l.map fun q => q.2) ≤ octetsValue (l.map fun q => q.1.high))

theorem Tracking.admits_cons {t : Tracking} {b : Bound} {octet : UInt8}
    {l : List (Bound × UInt8)} : t.Admits ((b, octet) :: l) ↔
      match t.step b octet with
      | .outside => False
      | .inside => True
      | .onBound t' => t'.Admits l := by
  unfold Admits
  rw [List.map_cons, List.map_cons, List.map_cons, octetsValue_cons_le_iff (by simp),
    octetsValue_cons_le_iff (by simp)]
  cases t with
  | both =>
    simp only [step, Bound.isEqual]
    grind
  | first =>
    simp only [step]
    grind
  | last =>
    simp only [step]
    grind

/-- What is left of the walk compares what is left of the numbers. -/
theorem walk_iff (t : Tracking) (l : List (Bound × UInt8)) : walk t l = true ↔ t.Admits l := by
  induction l generalizing t with
  | nil => simp [walk, Tracking.Admits]
  | cons q l ih =>
    obtain ⟨b, octet⟩ := q
    rw [Tracking.admits_cons, walk]
    cases t.step b octet with
    | outside => simp
    | inside => simp
    | onBound t' => exact ih t'

/-- A span holds the addresses whose numbers lie between those of its ends. -/
theorem contains_iff {s : Span} {x : Ipv4} :
    s.contains x = true ↔ s.first.toNat ≤ x.toNat ∧ x.toNat ≤ s.last.toNat := by
  rw [contains, walk_iff, Tracking.Admits]
  have hfirst : (s.bounds.zip x.octets).map (fun q => q.1.low) = s.first.octets := rfl
  have hlast : (s.bounds.zip x.octets).map (fun q => q.1.high) = s.last.octets := rfl
  have hoctets : (s.bounds.zip x.octets).map (fun q => q.2) = x.octets := rfl
  rw [hfirst, hlast, hoctets, Ipv4.octetsValue_octets, Ipv4.octetsValue_octets,
    Ipv4.octetsValue_octets]
  simp

theorem isInverted_iff {s : Span} : s.isInverted = true ↔ s.last.toNat < s.first.toNat :=
  decide_eq_true_iff

/-- **Spans are intervals.** A span holds the addresses whose numbers lie between those of its ends,
and it is upside down exactly if it holds none. -/
theorem holds_interval (s : Span) :
    (∀ x, s.contains x = true ↔ s.first.toNat ≤ x.toNat ∧ x.toNat ≤ s.last.toNat) ∧
      (s.isInverted = true ↔ ∀ x, s.contains x = false) := by
  refine ⟨fun x => contains_iff, ?_⟩
  simp only [isInverted_iff, ← Bool.not_eq_true, contains_iff]
  constructor
  · intro hinverted x hx
    omega
  · intro hnone
    -- The first address of a span that is not inverted is in it.
    have hfirst := hnone s.first
    omega

/-- The octets behind the one that decides are free: the last one is below that of the first end. -/
example : (Span.mk ⟨10, 0, 3, 15⟩ ⟨10, 1, 0, 0⟩).contains ⟨10, 0, 4, 1⟩ = true := by decide

end Span

/-! ## Blocks -/

/-- The number of addresses that agree in the first `length` bits. -/
def Block.size (b : Block) : Nat :=
  2 ^ (32 - b.length)

/-- The number of the first address of a block: the bits that do not count are cleared. -/
def Block.lower (b : Block) : Nat :=
  b.address.toNat / b.size * b.size

/-- The number of the last address of a block: the bits that do not count are set. -/
def Block.upper (b : Block) : Nat :=
  b.lower + b.size - 1

namespace Block

variable {b : Block}

theorem size_pos (b : Block) : 0 < b.size :=
  Nat.two_pow_pos _

theorem lower_le (b : Block) : b.lower ≤ b.address.toNat :=
  Nat.div_mul_le_self _ _

/-- The mask rounds a number down to a multiple of the size. -/
theorem toNat_bits_and_mask (x : Ipv4) :
    (x.bits &&& b.mask).toNat = x.toNat / b.size * b.size := by
  have hx := x.bits.isLt
  have hle := Nat.div_mul_le_self x.bits.toNat (2 ^ (32 - b.length))
  rw [mask, ← BitVec.shiftLeft_ushiftRight, BitVec.toNat_shiftLeft, BitVec.toNat_ushiftRight,
    Nat.shiftRight_eq_div_pow, Nat.shiftLeft_eq, Nat.mod_eq_of_lt (by omega), Ipv4.toNat_bits, size]

/-- No address of a block is above the largest one. -/
theorem upper_lt (b : Block) : b.upper < 256 * 256 * 256 * 256 := by
  have hall : 2 ^ b.length * b.size = 256 * 256 * 256 * 256 := by
    rw [size, ← Nat.pow_add, Nat.add_sub_cancel' b.length_le]
  have hquotient : b.address.toNat / b.size < 2 ^ b.length := by
    rw [Nat.div_lt_iff_lt_mul b.size_pos, hall]
    exact b.address.toNat_lt
  have hmul := Nat.mul_le_mul_right b.size (Nat.succ_le_of_lt hquotient)
  rw [hall, Nat.succ_mul] at hmul
  have hpos := b.size_pos
  rw [upper, lower]
  omega

theorem contains_iff_div {x : Ipv4} :
    b.contains x = true ↔ x.toNat / b.size = b.address.toNat / b.size := by
  rw [contains, beq_iff_eq, ← BitVec.toNat_inj, toNat_bits_and_mask, toNat_bits_and_mask]
  exact Nat.mul_left_inj b.size_pos.ne'

/-- The same quotient by the size means a number between the lower and the upper end. -/
theorem div_eq_iff {n : Nat} :
    n / b.size = b.address.toNat / b.size ↔ b.lower ≤ n ∧ n ≤ b.upper :=
  Nat.div_eq_iff b.size_pos

/-- A block holds the addresses whose numbers lie between its ends. -/
theorem contains_iff {x : Ipv4} :
    b.contains x = true ↔ b.lower ≤ x.toNat ∧ x.toNat ≤ b.upper := by
  rw [contains_iff_div, div_eq_iff]

end Block

/-! ## Patterns -/

/-- The values of a pattern that fixes the leading `k` octets and allows all values after them. -/
def Ipv4.leadingValues (a : Ipv4) (k : Nat) : List (List UInt8) :=
  (a.octets.take k).map (fun v => [v]) ++ List.replicate (4 - k) (OctetSet.interval 0 255)

namespace Pattern

/-- Whatever values are listed for four octets, there is a pattern of them. -/
theorem exists_lists {vss : List (List UInt8)} (h : vss.length = 4) :
    ∃ p : Pattern, List.Forall₂ OctetSet.Lists p.octets vss := by
  match vss, h with
  | [as, bs, cs, ds], _ =>
    exact ⟨⟨OctetSet.empty.pushAll as, OctetSet.empty.pushAll bs, OctetSet.empty.pushAll cs,
      OctetSet.empty.pushAll ds⟩, .cons (OctetSet.lists_pushAll as)
        (.cons (OctetSet.lists_pushAll bs) (.cons (OctetSet.lists_pushAll cs)
          (.cons (OctetSet.lists_pushAll ds) .nil)))⟩

theorem all_contains_iff {sets : List OctetSet} {vss : List (List UInt8)} {vs : List UInt8}
    (h : List.Forall₂ OctetSet.Lists sets vss) (hlength : sets.length = vs.length) :
    ((sets.zip vs).all fun q => q.1.contains q.2) = true ↔
      List.Forall₂ (fun v values => v ∈ values) vs vss := by
  induction h generalizing vs with
  | nil =>
    obtain rfl := List.length_eq_zero_iff.1 hlength.symm
    simp
  | @cons s values _ _ hs _ ih =>
    cases vs with
    | nil => cases hlength
    | cons v vs => simp [hs.contains v, ih (Nat.succ.inj hlength)]

/-- A pattern holds the addresses each octet of which is a value listed for it. -/
theorem contains_iff_forall₂ {p : Pattern} {vss : List (List UInt8)}
    (h : List.Forall₂ OctetSet.Lists p.octets vss) {x : Ipv4} :
    p.contains x = true ↔ List.Forall₂ (fun v values => v ∈ values) x.octets vss :=
  all_contains_iff h rfl

theorem forall₂_replicate_full (vs : List UInt8) :
    List.Forall₂ (fun v values => v ∈ values) vs
      (List.replicate vs.length (OctetSet.interval 0 255)) := by
  rw [List.forall₂_iff_zip]
  refine ⟨List.length_replicate.symm, ?_⟩
  intro v values hmem
  rw [List.eq_of_mem_replicate (List.of_mem_zip hmem).2]
  exact OctetSet.mem_interval_full v

theorem forall₂_fixed_iff {vs ws : List UInt8} {n : Nat} (h : vs.length = ws.length + n) :
    List.Forall₂ (fun v values => v ∈ values) vs
        (ws.map (fun w => [w]) ++ List.replicate n (OctetSet.interval 0 255)) ↔
      vs.take ws.length = ws := by
  induction ws generalizing vs with
  | nil =>
    obtain rfl : vs.length = n := by simpa using h
    simpa using forall₂_replicate_full vs
  | cons w ws ih =>
    cases vs with
    | nil =>
      rw [List.length_nil, List.length_cons] at h
      omega
    | cons v vs =>
      have hlength : vs.length = ws.length + n := by
        simp only [List.length_cons] at h
        omega
      rw [List.map_cons, List.cons_append, List.forall₂_cons, List.mem_singleton, ih hlength,
        List.length_cons, List.take_succ_cons, List.cons.injEq]

/-- A pattern that fixes the leading octets holds the addresses with the same quotient. -/
theorem contains_leading_iff {p : Pattern} {a : Ipv4} {k : Nat} (hk : k ≤ 4)
    (h : List.Forall₂ OctetSet.Lists p.octets (a.leadingValues k)) {x : Ipv4} :
    p.contains x = true ↔ x.toNat / 256 ^ (4 - k) = a.toNat / 256 ^ (4 - k) := by
  have htake : (a.octets.take k).length = k := by
    rw [List.length_take, Ipv4.length_octets, Nat.min_eq_left hk]
  have hquotient : ∀ y : Ipv4, y.toNat / 256 ^ (4 - k) = octetsValue (y.octets.take k) := by
    intro y
    rw [octetsValue_take, Ipv4.octetsValue_octets, Ipv4.length_octets]
  rw [contains_iff_forall₂ h, Ipv4.leadingValues, forall₂_fixed_iff, htake, hquotient,
    hquotient, octetsValue_inj]
  · rw [List.length_take, List.length_take, Ipv4.length_octets, Ipv4.length_octets]
  · rw [htake, Ipv4.length_octets, Nat.add_sub_cancel' hk]

end Pattern

end DiscoveryFilter
