import DiscoveryFilter.Proofs.Text.Separators
import DiscoveryFilter.Proofs.Text.Trim
import DiscoveryFilter.Text.Numeral

/-!
# Texts that stand in a text

A text stands in another if it occurs there with no digit next to it, so that a numeral that
stands in a text is not part of a longer one. Whatever is cut out of a text at blanks, separators
or brackets stands in it.
-/

namespace DiscoveryFilter.Text

/-- The text `u` occurs in `t` with no digit right before or after it. -/
def StandsIn (u t : List Char) : Prop :=
  ∃ before after, t = before ++ u ++ after ∧
    (∀ c, before.getLast? = some c → c.isDigit = false) ∧
    ∀ c, after.head? = some c → c.isDigit = false

variable {t u v : List Char} {separator : Char}

namespace StandsIn

theorem refl (t : List Char) : StandsIn t t := by
  refine ⟨[], [], by simp, ?_, ?_⟩
  · intro c hc
    cases hc
  · intro c hc
    cases hc

theorem trans (h : StandsIn t u) (h' : StandsIn u v) : StandsIn t v := by
  obtain ⟨before, after, rfl, hbefore, hafter⟩ := h
  obtain ⟨before', after', rfl, hbefore', hafter'⟩ := h'
  refine ⟨before' ++ before, after ++ after', by simp, ?_, ?_⟩
  · intro c hc
    rw [List.getLast?_append] at hc
    rcases Option.or_eq_some_iff.1 hc with hc | ⟨-, hc⟩
    · exact hbefore c hc
    · exact hbefore' c hc
  · intro c hc
    rw [List.head?_append] at hc
    rcases Option.or_eq_some_iff.1 hc with hc | ⟨-, hc⟩
    · exact hafter c hc
    · exact hafter' c hc

theorem isInfix (h : StandsIn u t) : u <:+: t := by
  obtain ⟨before, after, rfl, -, -⟩ := h
  exact ⟨before, after, rfl⟩

end StandsIn

/-! ## What is cut out of a text -/

theorem standsIn_before (hsep : separator.isDigit = false) (u v : List Char) :
    StandsIn u (u ++ separator :: v) := by
  refine ⟨[], separator :: v, by simp, ?_, ?_⟩
  · intro c hc
    cases hc
  · intro c hc
    exact Option.some.inj hc ▸ hsep

theorem standsIn_after (hsep : separator.isDigit = false) (u v : List Char) :
    StandsIn v (u ++ separator :: v) := by
  refine ⟨u ++ [separator], [], by simp, ?_, ?_⟩
  · intro c hc
    rw [List.getLast?_concat] at hc
    exact Option.some.inj hc ▸ hsep
  · intro c hc
    cases hc

theorem standsIn_enclosed {opening closing : Char} (ho : opening.isDigit = false)
    (hc : closing.isDigit = false) (u : List Char) : StandsIn u (opening :: (u ++ [closing])) :=
  (standsIn_before hc u []).trans (standsIn_after ho [] (u ++ [closing]))

theorem isDigit_of_isBlank {c : Char} (h : isBlank c = true) : c.isDigit = false := by
  cases hdigit : c.isDigit with
  | false => rfl
  | true =>
    rw [isBlank_of_isDigit hdigit] at h
    cases h

theorem standsIn_trim (t : List Char) : StandsIn (trim t) t := by
  obtain ⟨w, w', hw, hw', ht⟩ := padding_trim t
  refine ⟨w, w', ht, ?_, ?_⟩
  · intro c hc
    exact isDigit_of_isBlank (hw c (List.mem_of_getLast? hc))
  · intro c hc
    exact isDigit_of_isBlank (hw' c (List.mem_of_head? hc))

theorem standsIn_of_mem_intercalate (hsep : separator.isDigit = false) {pieces : List (List Char)}
    (h : u ∈ pieces) : StandsIn u ([separator].intercalate pieces) := by
  induction pieces with
  | nil => cases h
  | cons p ps ih =>
    cases ps with
    | nil =>
      rw [List.mem_singleton.1 h, List.intercalate_singleton]
      exact .refl p
    | cons q qs =>
      rw [List.intercalate_cons_cons, List.append_assoc, List.singleton_append]
      rcases List.mem_cons.1 h with rfl | h
      · exact standsIn_before hsep u _
      · exact (ih h).trans (standsIn_after hsep p _)

theorem standsIn_of_mem_splitOn (hsep : separator.isDigit = false) (h : u ∈ t.splitOn separator) :
    StandsIn u t := by
  have hjoin := standsIn_of_mem_intercalate hsep h
  rw [List.intercalate_splitOn] at hjoin
  exact hjoin

theorem Nesting.standsIn_of_mem_split {n : Nesting} (hsep : separator.isDigit = false)
    (h : u ∈ n.split separator t) : StandsIn u t := by
  have hjoin := standsIn_of_mem_intercalate hsep h
  rw [n.intercalate_split] at hjoin
  exact hjoin

end DiscoveryFilter.Text
