/-!
# Decimal numerals

A numeral is a non-empty run of ASCII digits. Its value has no bound and leading zeros are
allowed, so `numeralValue` undoes `numeral` but not the other way round.
-/

namespace DiscoveryFilter.Text

/-- A non-empty run of ASCII digits; digits of other scripts do not count. -/
def isNumeral (cs : List Char) : Bool :=
  !cs.isEmpty && cs.all Char.isDigit

/-- The number that a run of digits denotes in base ten. -/
def numeralValue (cs : List Char) : Nat :=
  Nat.ofDigitChars 10 cs 0

/-- The digits of a number, without leading zeros. -/
def numeral (n : Nat) : List Char :=
  Nat.toDigits 10 n

theorem numeralValue_numeral (n : Nat) : numeralValue (numeral n) = n :=
  Nat.ofDigitChars_ten_toDigits

theorem isNumeral_numeral (n : Nat) : isNumeral (numeral n) = true := by
  rw [isNumeral, Bool.and_eq_true, List.all_eq_true]
  constructor
  · simp [numeral, Nat.toDigits_ne_nil]
  · intro c hc
    exact Nat.isDigit_of_mem_toDigits (by decide) (by decide) hc

theorem isDigit_of_isNumeral {cs : List Char} (h : isNumeral cs = true) :
    ∀ c ∈ cs, c.isDigit = true := by
  rw [isNumeral, Bool.and_eq_true, List.all_eq_true] at h
  exact h.2

end DiscoveryFilter.Text
