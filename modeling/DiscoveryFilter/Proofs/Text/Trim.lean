import DiscoveryFilter.Text.Blank
import Mathlib.Data.List.TakeWhile

/-!
# What trimming leaves

A text is a run of blanks, a text without blanks at its ends and another run of blanks, in one way
only, and trimming gives the text in the middle.
-/

namespace DiscoveryFilter.Text

/-- A run of blank characters, perhaps empty. -/
def Blank (w : List Char) : Prop :=
  ∀ c ∈ w, isBlank c = true

instance : DecidablePred Blank := fun w =>
  decidable_of_iff (w.all isBlank = true) List.all_eq_true

/-- The text neither starts nor ends with a blank character. -/
def Tight (t : List Char) : Prop :=
  (∀ c, t.head? = some c → isBlank c = false) ∧ ∀ c, t.getLast? = some c → isBlank c = false

/-- The text `t` with runs of blanks around it. -/
def Padding (cs t : List Char) : Prop :=
  ∃ w w', Blank w ∧ Blank w' ∧ cs = w ++ t ++ w'

/-- What holds of blanks and of the text in the middle holds of the padded text. -/
theorem Padding.forall_mem {cs t : List Char} (h : Padding cs t) {P : Char → Prop}
    (hblank : ∀ c, isBlank c = true → P c) (ht : ∀ c ∈ t, P c) : ∀ c ∈ cs, P c := by
  obtain ⟨w, w', hw, hw', rfl⟩ := h
  intro c hc
  rcases List.mem_append.1 hc with hc | hc
  · rcases List.mem_append.1 hc with hc | hc
    · exact hblank c (hw c hc)
    · exact ht c hc
  · exact hblank c (hw' c hc)

theorem Blank.append {w w' : List Char} (hw : Blank w) (hw' : Blank w') : Blank (w ++ w') := by
  intro c hc
  rcases List.mem_append.1 hc with hc | hc
  · exact hw c hc
  · exact hw' c hc

theorem isBlank_of_isDigit {c : Char} (h : c.isDigit = true) : isBlank c = false := by
  have hrange : 48 ≤ c.toNat ∧ c.toNat ≤ 57 := Char.isDigit_iff_toNat.1 h
  simp only [isBlank, inRanges, blankRanges, List.any_cons, List.any_nil, Bool.or_false,
    Bool.or_eq_false_iff, Bool.and_eq_false_iff, decide_eq_false_iff_not]
  omega

/-! ## Blanks at the ends -/

theorem trimStart_blank_append {w : List Char} (hw : Blank w) (t : List Char) :
    trimStart (w ++ t) = trimStart t :=
  List.dropWhile_append_of_pos hw

theorem trimEnd_append_blank {w : List Char} (hw : Blank w) (t : List Char) :
    trimEnd (t ++ w) = trimEnd t := by
  have hreverse : ∀ c ∈ w.reverse, isBlank c = true := by
    intro c hc
    exact hw c (List.mem_reverse.1 hc)
  unfold trimEnd
  rw [List.reverse_append, List.dropWhile_append_of_pos hreverse]

/-- What follows a character that is not blank stays when blanks are dropped from the start. -/
theorem trimStart_append {t : List Char} (ht : ¬ Blank t) (u : List Char) :
    trimStart (t ++ u) = trimStart t ++ u := by
  unfold trimStart
  rw [List.dropWhile_append, if_neg]
  intro hempty
  apply ht
  intro c hc
  exact List.dropWhile_eq_nil_iff.1 (List.isEmpty_iff.1 hempty) c hc

theorem trim_blank {w : List Char} (hw : Blank w) : trim w = [] := by
  have hstart : trimStart w = [] := List.dropWhile_eq_nil_iff.2 hw
  rw [trim, hstart]
  rfl

/-- Blanks in front do not count. -/
theorem trim_blank_append {w : List Char} (hw : Blank w) (t : List Char) :
    trim (w ++ t) = trim t := by
  rw [trim, trimStart_blank_append hw, ← trim]

/-- Blanks at the end do not count. -/
theorem trim_append_blank {w : List Char} (hw : Blank w) (t : List Char) :
    trim (t ++ w) = trim t := by
  by_cases ht : Blank t
  · rw [trim_blank ht, trim_blank (ht.append hw)]
  · rw [trim, trimStart_append ht, trimEnd_append_blank hw, ← trim]

/-! ## Texts that are tight -/

theorem tight_of_forall {t : List Char} (h : ∀ c ∈ t, isBlank c = false) : Tight t := by
  constructor
  · intro c hc
    exact h c (List.mem_of_head? hc)
  · intro c hc
    exact h c (List.mem_of_getLast? hc)

/-- A text between two characters that are not blank. -/
theorem tight_enclosed {opening closing : Char} (ho : isBlank opening = false)
    (hc : isBlank closing = false) (t : List Char) : Tight (opening :: (t ++ [closing])) := by
  constructor
  · intro c h
    rw [List.head?_cons] at h
    rw [← Option.some.inj h]
    exact ho
  · intro c h
    rw [← List.cons_append, List.getLast?_concat] at h
    rw [← Option.some.inj h]
    exact hc

theorem trim_of_tight {t : List Char} (ht : Tight t) : trim t = t := by
  obtain ⟨hhead, hlast⟩ := ht
  have hstart : trimStart t = t := by
    cases t with
    | nil => rfl
    | cons c cs => exact List.dropWhile_cons_of_neg (by simp [hhead c rfl])
  rw [trim, hstart, trimEnd]
  cases hr : t.reverse with
  | nil =>
    rw [List.reverse_eq_nil_iff.1 hr]
    rfl
  | cons c cs =>
    have hc : t.getLast? = some c := by
      rw [← List.head?_reverse, hr, List.head?_cons]
    rw [List.dropWhile_cons_of_neg (by simp [hlast c hc]), ← hr, List.reverse_reverse]

theorem exists_trimStart (cs : List Char) : ∃ w, Blank w ∧ cs = w ++ trimStart cs := by
  refine ⟨cs.takeWhile isBlank, ?_, ?_⟩
  · intro c hc
    exact List.mem_takeWhile_imp hc
  · exact List.takeWhile_append_dropWhile.symm

theorem exists_trimEnd (cs : List Char) : ∃ w, Blank w ∧ cs = trimEnd cs ++ w := by
  refine ⟨(cs.reverse.takeWhile isBlank).reverse, ?_, ?_⟩
  · intro c hc
    exact List.mem_takeWhile_imp (List.mem_reverse.1 hc)
  · rw [trimEnd, ← List.reverse_append, List.takeWhile_append_dropWhile, List.reverse_reverse]

/-- Trimming takes off blanks only. -/
theorem padding_trim (cs : List Char) : Padding cs (trim cs) := by
  obtain ⟨w, hw, hstart⟩ := exists_trimStart cs
  obtain ⟨w', hw', hend⟩ := exists_trimEnd (trimStart cs)
  refine ⟨w, w', hw, hw', ?_⟩
  rw [List.append_assoc, trim, ← hend, ← hstart]

/-- Only blank texts are trimmed to blank ones. -/
theorem blank_trim_iff {cs : List Char} : Blank (trim cs) ↔ Blank cs := by
  constructor
  · intro h
    exact (padding_trim cs).forall_mem (fun _ hc => hc) h
  · intro h
    rw [trim_blank h]
    intro c hc
    cases hc

theorem trim_eq_nil_iff {cs : List Char} : trim cs = [] ↔ Blank cs := by
  constructor
  · intro h
    rw [← blank_trim_iff, h]
    intro c hc
    cases hc
  · exact trim_blank

theorem trimmed_eq_empty_iff {s : String} : trimmed s = "" ↔ Blank s.toList := by
  rw [← trim_eq_nil_iff, ← toList_trimmed, String.toList_eq_nil_iff]

theorem head?_trimEnd {cs : List Char} {c : Char} (h : (trimEnd cs).head? = some c) :
    cs.head? = some c := by
  obtain ⟨w, -, hw⟩ := exists_trimEnd cs
  rw [hw, List.head?_append, h]
  rfl

/-- Trimming leaves no blank at an end. -/
theorem tight_trim (cs : List Char) : Tight (trim cs) := by
  constructor
  · intro c hc
    have hstart : (cs.dropWhile isBlank).head? = some c := head?_trimEnd hc
    have hnot := List.head?_dropWhile_not isBlank cs
    rw [hstart] at hnot
    exact hnot
  · intro c hc
    rw [trim, trimEnd, List.getLast?_reverse] at hc
    have hnot := List.head?_dropWhile_not isBlank (trimStart cs).reverse
    rw [hc] at hnot
    exact hnot

/-- The middle of a padded text is what trimming leaves. -/
theorem trim_eq_iff_of_tight {cs t : List Char} (ht : Tight t) : trim cs = t ↔ Padding cs t := by
  constructor
  · rintro rfl
    exact padding_trim cs
  · rintro ⟨w, w', hw, hw', rfl⟩
    rw [trim_append_blank hw', trim_blank_append hw, trim_of_tight ht]

/-! ## Texts cut in two -/

theorem trim_trimStart (t : List Char) : trim (trimStart t) = trim t := by
  obtain ⟨w, hw, ht⟩ := exists_trimStart t
  calc trim (trimStart t) = trim (w ++ trimStart t) := (trim_blank_append hw _).symm
    _ = trim t := by rw [← ht]

theorem trim_trimEnd (t : List Char) : trim (trimEnd t) = trim t := by
  obtain ⟨w, hw, ht⟩ := exists_trimEnd t
  calc trim (trimEnd t) = trim (trimEnd t ++ w) := (trim_append_blank hw _).symm
    _ = trim t := by rw [← ht]

/-- Trimming does not go beyond a character that is not blank. -/
theorem trim_append_cons {c : Char} (hc : isBlank c = false) (before after : List Char) :
    trim (before ++ c :: after) = trimStart before ++ c :: trimEnd after := by
  have hstart : trimStart (before ++ c :: after) = trimStart before ++ c :: after := by
    unfold trimStart
    rw [List.dropWhile_append, List.dropWhile_cons_of_neg (by simp [hc])]
    split
    · next hempty => rw [List.isEmpty_iff.1 hempty, List.nil_append]
    · rfl
  have hend : trimEnd (trimStart before ++ c :: after) = trimStart before ++ c :: trimEnd after := by
    unfold trimEnd
    rw [List.reverse_append, List.reverse_cons, List.append_assoc, List.dropWhile_append]
    split
    · next hempty =>
      rw [List.isEmpty_iff.1 hempty, List.singleton_append,
        List.dropWhile_cons_of_neg (by simp [hc])]
      simp
    · simp
  rw [trim, hstart, hend]

theorem eq_nil_of_tight_blank_append {w t : List Char} (hw : Blank w) (h : Tight (w ++ t)) :
    w = [] := by
  cases w with
  | nil => rfl
  | cons c cs =>
    have hc := hw c List.mem_cons_self
    rw [h.1 c rfl] at hc
    cases hc

theorem eq_nil_of_tight_append_blank {w t : List Char} (hw : Blank w) (h : Tight (t ++ w)) :
    w = [] := by
  rcases List.eq_nil_or_concat w with hnil | ⟨cs, c, rfl⟩
  · exact hnil
  · have hc : isBlank c = true := by
      apply hw
      rw [List.concat_eq_append]
      exact List.mem_append_right cs List.mem_cons_self
    have hlast : (t ++ cs.concat c).getLast? = some c := by
      rw [List.concat_eq_append, ← List.append_assoc, List.getLast?_concat]
    rw [h.2 c hlast] at hc
    cases hc

/-- If a text is tight, blanks next to a character inside it are all that can be trimmed off the
halves before and after that character. -/
theorem exists_of_tight_halves {before after : List Char} {c : Char}
    (h : Tight (before ++ c :: after)) :
    ∃ w w', Blank w ∧ Blank w' ∧ before = trim before ++ w ∧ after = w' ++ trim after := by
  obtain ⟨front, w, hfront, hw, hbefore⟩ := padding_trim before
  obtain ⟨w', back, hw', hback, hafter⟩ := padding_trim after
  have hnofront : front = [] := by
    rw [hbefore, List.append_assoc, List.append_assoc] at h
    exact eq_nil_of_tight_blank_append hfront h
  have hnoback : back = [] := by
    rw [hafter, ← List.cons_append, ← List.append_assoc] at h
    exact eq_nil_of_tight_append_blank hback h
  refine ⟨w, w', hw, hw', ?_, ?_⟩
  · rw [hnofront] at hbefore
    exact hbefore
  · rw [hnoback, List.append_nil] at hafter
    exact hafter

end DiscoveryFilter.Text
