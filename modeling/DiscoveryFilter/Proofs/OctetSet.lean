import DiscoveryFilter.OctetSet
import DiscoveryFilter.Proofs.Keyed
import Mathlib.Data.List.Perm.Subperm

/-!
# Octet sets and the values they list

A set that is filled value by value lists each value once, where it comes first, and its bits say
which values those are. Nothing else is in a set, so the listed values determine it.
-/

namespace DiscoveryFilter

namespace OctetSet

/-- The set holds the values of the list, each once and in the order in which they come first. -/
structure Lists (s : OctetSet) (vs : List UInt8) : Prop where
  values : s.values = vs.eraseDups
  contains : ∀ v, s.contains v = true ↔ v ∈ vs

theorem low_eq_of_contains {s t : OctetSet} (h : ∀ v, s.contains v = t.contains v) :
    s.low = t.low := by
  apply BitVec.eq_of_getLsbD_eq
  intro i hi
  have hlow : UInt8.ofNat i < 128 := by
    rw [UInt8.lt_iff_toNat_lt, UInt8.toNat_ofNat']
    show i % 256 < 128
    omega
  have hi : (UInt8.ofNat i).toNat = i := by
    rw [UInt8.toNat_ofNat']
    omega
  have hbit := h (UInt8.ofNat i)
  rw [contains, contains, if_pos hlow, if_pos hlow, hi] at hbit
  exact hbit

theorem high_eq_of_contains {s t : OctetSet} (h : ∀ v, s.contains v = t.contains v) :
    s.high = t.high := by
  apply BitVec.eq_of_getLsbD_eq
  intro i hi
  have hhigh : ¬ UInt8.ofNat (i + 128) < 128 := by
    rw [UInt8.lt_iff_toNat_lt, UInt8.toNat_ofNat']
    show ¬ (i + 128) % 256 < 128
    omega
  have hi : (UInt8.ofNat (i + 128)).toNat - 128 = i := by
    rw [UInt8.toNat_ofNat']
    omega
  have hbit := h (UInt8.ofNat (i + 128))
  rw [contains, contains, if_neg hhigh, if_neg hhigh, hi] at hbit
  exact hbit

/-- Sets that list the same values are equal, bits included. -/
theorem Lists.unique {s t : OctetSet} {vs : List UInt8} (hs : s.Lists vs) (ht : t.Lists vs) :
    s = t := by
  have hcontains : ∀ v, s.contains v = t.contains v := by
    intro v
    rw [Bool.eq_iff_iff, hs.contains, ht.contains]
  have hvalues : s.values = t.values := hs.values.trans ht.values.symm
  have hlow := low_eq_of_contains hcontains
  have hhigh := high_eq_of_contains hcontains
  obtain ⟨values, low, high⟩ := s
  obtain ⟨values', low', high'⟩ := t
  obtain rfl : values = values' := hvalues
  obtain rfl : low = low' := hlow
  obtain rfl : high = high' := hhigh
  rfl

/-! ## Adding values -/

theorem lists_empty : empty.Lists [] where
  values := rfl
  contains v := by simp

theorem Lists.push {s : OctetSet} {vs : List UInt8} (h : s.Lists vs) (v : UInt8) :
    (s.push v).Lists (vs ++ [v]) where
  values := by
    rw [eraseDups_concat, ← h.values]
    unfold OctetSet.push
    by_cases hv : v ∈ vs
    · rw [if_pos hv, if_pos ((h.contains v).2 hv)]
    · rw [if_neg hv, if_neg (mt (h.contains v).1 hv)]
      split <;> rfl
  contains w := by
    rw [contains_push, Bool.or_eq_true, decide_eq_true_iff, h.contains, List.mem_append,
      List.mem_singleton, or_comm]

theorem Lists.pushAll {s : OctetSet} {vs : List UInt8} (h : s.Lists vs) (ws : List UInt8) :
    (s.pushAll ws).Lists (vs ++ ws) := by
  induction ws generalizing s vs with
  | nil =>
    rw [List.append_nil]
    exact h
  | cons w ws ih =>
    have hrest := ih (h.push w)
    rw [List.append_assoc, List.singleton_append] at hrest
    exact hrest

theorem lists_pushAll (vs : List UInt8) : (empty.pushAll vs).Lists vs :=
  lists_empty.pushAll vs

/-- A set lists some values exactly if it is filled by them. -/
theorem lists_iff {s : OctetSet} {vs : List UInt8} : s.Lists vs ↔ s = empty.pushAll vs := by
  constructor
  · intro h
    exact h.unique (lists_pushAll vs)
  · rintro rfl
    exact lists_pushAll vs

/-! ## Intervals -/

theorem mem_interval {a b v : UInt8} : v ∈ interval a b ↔ a ≤ v ∧ v ≤ b := by
  have hb := b.toNat_lt
  have hv := v.toNat_lt
  rw [interval, List.mem_map, UInt8.le_iff_toNat_le, UInt8.le_iff_toNat_le]
  constructor
  · rintro ⟨n, hn, rfl⟩
    rw [List.mem_range'_1] at hn
    rw [UInt8.toNat_ofNat', Nat.mod_eq_of_lt (by omega)]
    omega
  · rintro ⟨ha, hb⟩
    refine ⟨v.toNat, ?_, UInt8.ofNat_toNat⟩
    rw [List.mem_range'_1]
    omega

theorem nodup_interval (a b : UInt8) : (interval a b).Nodup := by
  have hb := b.toNat_lt
  apply List.Nodup.map_on
  · intro m hm n hn heq
    rw [List.mem_range'_1] at hm hn
    have heq := congrArg UInt8.toNat heq
    rw [UInt8.toNat_ofNat', UInt8.toNat_ofNat', Nat.mod_eq_of_lt (by omega),
      Nat.mod_eq_of_lt (by omega)] at heq
    exact heq
  · exact List.nodup_range'

theorem eraseDups_of_nodup {vs : List UInt8} (h : vs.Nodup) : vs.eraseDups = vs := by
  induction vs with
  | nil => rfl
  | cons v vs ih =>
    obtain ⟨hv, hvs⟩ := List.nodup_cons.1 h
    have hfilter : (vs.filter fun w => !w == v) = vs := by
      rw [List.filter_eq_self]
      intro w hw
      have hne : w ≠ v := by
        rintro rfl
        exact hv hw
      simp [hne]
    rw [List.eraseDups_cons, hfilter, ih hvs]

theorem interval_self (a : UInt8) : interval a a = [a] := by
  have hcount : a.toNat + 1 - a.toNat = 1 := by omega
  rw [interval, hcount, List.range'_one, List.map_singleton, UInt8.ofNat_toNat]

theorem toNat_add_one {a b : UInt8} (h : a < b) : (a + 1).toNat = a.toNat + 1 := by
  have hb := b.toNat_lt
  have hlt := UInt8.lt_iff_toNat_lt.1 h
  have hone : (1 : UInt8).toNat = 1 := rfl
  rw [UInt8.toNat_add, hone]
  omega

theorem interval_cons {a b : UInt8} (h : a < b) : interval a b = a :: interval (a + 1) b := by
  have hlt := UInt8.lt_iff_toNat_lt.1 h
  have hcount : b.toNat + 1 - a.toNat = (b.toNat + 1 - (a.toNat + 1)) + 1 := by omega
  rw [interval, interval, toNat_add_one h, hcount, List.range'_succ, List.map_cons,
    UInt8.ofNat_toNat]

theorem mem_interval_full (v : UInt8) : v ∈ interval 0 255 := by
  have hv := v.toNat_lt
  rw [mem_interval, UInt8.le_iff_toNat_le, UInt8.le_iff_toNat_le]
  exact ⟨Nat.zero_le _, Nat.le_of_lt_succ hv⟩

theorem length_interval_full : (interval 0 255).length = 256 := by
  rw [interval, List.length_map, List.length_range']
  rfl

/-! ## Runs of values -/

/-- A run without repetition is the interval from its first value up to its last one, unless it
goes past the largest value and ends below its first one. -/
theorem eq_interval_of_isRun {v : UInt8} {vs : List UInt8} (hrun : isRun (v :: vs) = true)
    (hnodup : (v :: vs).Nodup) :
    v :: vs = interval v ((v :: vs).getLastD 0) ∨ (v :: vs).getLastD 0 < v := by
  induction vs generalizing v with
  | nil => exact .inl (interval_self v).symm
  | cons w ws ih =>
    rw [isRun, Bool.and_eq_true, beq_iff_eq] at hrun
    obtain ⟨hnext, hrest⟩ := hrun
    obtain ⟨hv, hws⟩ := List.nodup_cons.1 hnodup
    have hlast : (v :: w :: ws).getLastD 0 = (w :: ws).getLastD 0 := rfl
    have hmem : (w :: ws).getLastD 0 ∈ w :: ws := by
      rw [List.getLastD_eq_getLast?, List.getLast?_eq_some_getLast (List.cons_ne_nil w ws)]
      exact List.getLast_mem _
    have hne : (w :: ws).getLastD 0 ≠ v := fun heq => hv (heq ▸ hmem)
    have hrun := ih hrest hws
    rw [hlast]
    generalize (w :: ws).getLastD 0 = last at hrun hne ⊢
    rcases UInt8.lt_or_lt_of_ne hne with hlt | hlt
    · exact .inr hlt
    · left
      rw [interval_cons hlt, ← hnext]
      rcases hrun with heq | hbelow
      · rw [heq]
      · -- the last value would have to lie strictly between two neighbours
        rw [UInt8.lt_iff_toNat_lt, hnext, toNat_add_one hlt] at hbelow
        have hlt := UInt8.lt_iff_toNat_lt.1 hlt
        omega

/-! ## What a set lists -/

/-- Adding a set adds the values that it lists. -/
theorem extend_of_lists {s t : OctetSet} {vs : List UInt8} (ht : t.Lists vs) (hvs : vs.Nodup) :
    s.extend t = s.pushAll vs := by
  rw [extend, ht.values, eraseDups_of_nodup hvs]

namespace Lists

variable {s : OctetSet} {vs : List UInt8}

theorem nodup (h : s.Lists vs) : s.values.Nodup := by
  rw [h.values]
  exact nodup_eraseDups vs

theorem mem_values_iff (h : s.Lists vs) {v : UInt8} : v ∈ s.values ↔ v ∈ vs := by
  rw [h.values, List.mem_eraseDups]

/-- A set lists its own values. -/
theorem self (h : s.Lists vs) : s.Lists s.values where
  values := (eraseDups_of_nodup h.nodup).symm
  contains v := by rw [h.contains, h.mem_values_iff]

/-- As no value is listed twice, a set of 256 values holds every value. -/
theorem isFull_iff (h : s.Lists vs) : s.isFull = true ↔ ∀ v, v ∈ s.values := by
  have hsubset : s.values ⊆ interval 0 255 := fun v _ => mem_interval_full v
  have hsubperm := h.nodup.subperm hsubset
  rw [isFull, size, beq_iff_eq]
  constructor
  · intro hsize v
    have hlength := length_interval_full.trans hsize.symm
    have hperm := hsubperm.perm_of_length_le (Nat.le_of_eq hlength)
    exact hperm.mem_iff.2 (mem_interval_full v)
  · intro hall
    have hle := hsubperm.length_le
    have hge := ((nodup_interval 0 255).subperm fun v _ => hall v).length_le
    rw [length_interval_full] at hle hge
    omega

end Lists

theorem lists_full : full.Lists (interval 0 255) :=
  lists_pushAll _

end OctetSet

end DiscoveryFilter
