/-!
# Splitting text at a separator

`Nesting.split` cuts at every separator that lies outside brackets: the depth rises at an opening
bracket and falls at a closing one, but never below zero, so stray closing brackets hide nothing.
`splitFirst` cuts at the first separator only, and `unwrap` takes the pair of characters off that
encloses a text.
-/

namespace DiscoveryFilter.Text

/-- Which characters open and which close a nested part of a text. -/
structure Nesting where
  opens : List Char
  closes : List Char

namespace Nesting

/-- The depth after reading one more character. A closing bracket at depth zero is ignored. -/
def step (n : Nesting) (depth : Nat) (c : Char) : Nat :=
  if n.opens.contains c then depth + 1
  else if n.closes.contains c then depth - 1
  else depth

/-- Splits at the separators met at depth zero, reading from the given depth on. -/
def splitFrom (n : Nesting) (separator : Char) (depth : Nat) : List Char → List (List Char)
  | [] => [[]]
  | c :: cs =>
    if c = separator ∧ depth = 0 then [] :: n.splitFrom separator 0 cs
    else (n.splitFrom separator (n.step depth c) cs).modifyHead (c :: ·)

/-- Splits at the separators outside every bracket. -/
def split (n : Nesting) (separator : Char) (cs : List Char) : List (List Char) :=
  n.splitFrom separator 0 cs

theorem splitFrom_ne_nil (n : Nesting) (separator : Char) (depth : Nat) (cs : List Char) :
    n.splitFrom separator depth cs ≠ [] := by
  induction cs generalizing depth with
  | nil => simp [splitFrom]
  | cons c cs ih =>
    rw [splitFrom]
    split
    · simp
    · cases h : n.splitFrom separator (n.step depth c) cs with
      | nil => exact absurd h (ih _)
      | cons p ps => simp

/-- The pieces with the separators between them give the text back. -/
theorem intercalate_splitFrom (n : Nesting) (separator : Char) (depth : Nat) (cs : List Char) :
    [separator].intercalate (n.splitFrom separator depth cs) = cs := by
  induction cs generalizing depth with
  | nil => rfl
  | cons c cs ih =>
    rw [splitFrom]
    split
    · next h =>
      have := ih 0
      cases hs : n.splitFrom separator 0 cs with
      | nil => exact absurd hs (n.splitFrom_ne_nil _ _ _)
      | cons p ps =>
        rw [hs] at this
        simp [List.intercalate, h.1] at this ⊢
        exact this
    · have := ih (n.step depth c)
      cases hs : n.splitFrom separator (n.step depth c) cs with
      | nil => exact absurd hs (n.splitFrom_ne_nil _ _ _)
      | cons p ps =>
        rw [hs] at this
        cases ps <;> simpa [List.intercalate] using this

/-- The pieces with the separators between them give the text back. -/
theorem intercalate_split (n : Nesting) (separator : Char) (cs : List Char) :
    [separator].intercalate (n.split separator cs) = cs :=
  n.intercalate_splitFrom separator 0 cs

end Nesting

/-- What stands before and after the first separator; nothing when there is none. -/
def splitFirst (separator : Char) : List Char → Option (List Char × List Char)
  | [] => none
  | c :: cs =>
    if c = separator then some ([], cs)
    else (splitFirst separator cs).map fun p => (c :: p.1, p.2)

/-- The inside of a text that starts with `opening` and ends with another character `closing`. -/
def unwrap (opening closing : Char) : List Char → Option (List Char)
  | [] => none
  | c :: cs => if c = opening ∧ cs.getLast? = some closing then some cs.dropLast else none

end DiscoveryFilter.Text
