import DiscoveryFilter.Text.Split
import Mathlib.Data.List.Basic

/-!
# Where texts are cut

Cutting a text at its first separator, at every separator, or at the separators outside brackets
inverts writing pieces with separators between them; each law says for which pieces.
-/

namespace DiscoveryFilter.Text

/-! ## The first separator -/

theorem splitFirst_eq_none_iff {separator : Char} {cs : List Char} :
    splitFirst separator cs = none ↔ separator ∉ cs := by
  induction cs with
  | nil => simp [splitFirst]
  | cons c cs ih =>
    rw [splitFirst, List.mem_cons]
    by_cases hc : c = separator
    · rw [if_pos hc]
      simp [hc]
    · rw [if_neg hc, Option.map_eq_none_iff, ih]
      simp [Ne.symm hc]

theorem splitFirst_append {separator : Char} {before : List Char} (h : separator ∉ before)
    (after : List Char) :
    splitFirst separator (before ++ separator :: after) = some (before, after) := by
  induction before with
  | nil => simp [splitFirst]
  | cons c cs ih =>
    obtain ⟨hc, hcs⟩ := List.ne_and_not_mem_of_not_mem_cons h
    rw [List.cons_append, splitFirst, if_neg (Ne.symm hc), ih hcs]
    rfl

/-- The first piece holds no separator, and the second one is all that follows it. -/
theorem splitFirst_eq_some_iff {separator : Char} {cs before after : List Char} :
    splitFirst separator cs = some (before, after) ↔
      separator ∉ before ∧ cs = before ++ separator :: after := by
  constructor
  · intro h
    induction cs generalizing before with
    | nil => cases h
    | cons c cs ih =>
      rw [splitFirst] at h
      split at h
      · next hc =>
        cases h
        exact ⟨List.not_mem_nil, by rw [hc, List.nil_append]⟩
      · next hc =>
        obtain ⟨⟨first, rest⟩, hsplit, hpair⟩ := Option.map_eq_some_iff.1 h
        cases hpair
        obtain ⟨hnot, rfl⟩ := ih hsplit
        refine ⟨?_, rfl⟩
        intro hmem
        rcases List.mem_cons.1 hmem with heq | hmem
        · exact hc heq.symm
        · exact hnot hmem
  · rintro ⟨h, rfl⟩
    exact splitFirst_append h after

/-! ## Every separator -/

theorem not_mem_of_mem_splitOn {separator : Char} {cs piece : List Char}
    (h : piece ∈ cs.splitOn separator) : separator ∉ piece := by
  induction cs generalizing piece with
  | nil =>
    rw [List.splitOn_nil, List.mem_singleton] at h
    rw [h]
    exact List.not_mem_nil
  | cons c cs ih =>
    rw [List.splitOn_cons_eq_if_modifyHead] at h
    obtain ⟨first, rest, hcut⟩ := List.exists_cons_of_ne_nil (List.splitOn_ne_nil separator cs)
    rw [hcut] at h ih
    by_cases hc : c = separator
    · rw [if_pos (beq_iff_eq.2 hc)] at h
      rcases List.mem_cons.1 h with rfl | h
      · exact List.not_mem_nil
      · exact ih h
    · rw [if_neg (mt beq_iff_eq.1 hc), List.modifyHead_cons] at h
      rcases List.mem_cons.1 h with rfl | h
      · intro hmem
        rcases List.mem_cons.1 hmem with heq | hmem
        · exact hc heq.symm
        · exact ih List.mem_cons_self hmem
      · exact ih (List.mem_cons_of_mem first h)

/-- The pieces hold no separator and, with separators between them, give the text back. -/
theorem splitOn_eq_iff {separator : Char} {cs : List Char} {pieces : List (List Char)} :
    cs.splitOn separator = pieces ↔
      pieces ≠ [] ∧ (∀ p ∈ pieces, separator ∉ p) ∧ [separator].intercalate pieces = cs := by
  constructor
  · rintro rfl
    refine ⟨List.splitOn_ne_nil separator cs, ?_, List.intercalate_splitOn separator⟩
    intro piece hpiece
    exact not_mem_of_mem_splitOn hpiece
  · rintro ⟨hne, hnot, rfl⟩
    exact List.splitOn_intercalate separator hnot hne

/-- What holds of the separator and of the characters of every piece holds throughout. -/
theorem forall_mem_intercalate {separator : Char} {pieces : List (List Char)} {P : Char → Prop}
    (hsep : P separator) (hpieces : ∀ p ∈ pieces, ∀ c ∈ p, P c) :
    ∀ c ∈ [separator].intercalate pieces, P c := by
  induction pieces with
  | nil =>
    intro c hc
    cases hc
  | cons p ps ih =>
    have hp := hpieces p List.mem_cons_self
    have hps := ih fun q hq => hpieces q (List.mem_cons_of_mem p hq)
    cases ps with
    | nil =>
      rw [List.intercalate_singleton]
      exact hp
    | cons q qs =>
      intro c hc
      rw [List.intercalate_cons_cons, List.mem_append, List.mem_append, List.mem_singleton] at hc
      rcases hc with (hc | rfl) | hc
      · exact hp c hc
      · exact hsep
      · exact hps c hc

/-! ## Enclosing characters -/

theorem unwrap_eq_some_iff {opening closing : Char} {cs inner : List Char} :
    unwrap opening closing cs = some inner ↔ cs = opening :: (inner ++ [closing]) := by
  cases cs with
  | nil => simp [unwrap]
  | cons c cs =>
    rw [unwrap, List.cons.injEq]
    constructor
    · intro h
      split at h
      · next hc =>
        obtain ⟨rfl, hlast⟩ := hc
        cases h
        exact ⟨rfl, (List.dropLast_append_getLast? closing hlast).symm⟩
      · cases h
    · rintro ⟨rfl, rfl⟩
      rw [if_pos ⟨rfl, List.getLast?_concat⟩, List.dropLast_concat]

/-! ## Separators outside brackets -/

namespace Nesting

/-- Reading the text from one depth on meets no separator at depth zero and ends at the other
depth. -/
inductive Passes (n : Nesting) (separator : Char) : Nat → List Char → Nat → Prop
  | nil (depth : Nat) : Passes n separator depth [] depth
  | cons {c : Char} {cs : List Char} {depth last : Nat} :
    (c = separator → depth ≠ 0) → Passes n separator (n.step depth c) cs last →
    Passes n separator depth (c :: cs) last

variable {n : Nesting} {separator : Char} {depth middle last : Nat} {u v : List Char}

theorem Passes.append (hu : Passes n separator depth u middle)
    (hv : Passes n separator middle v last) : Passes n separator depth (u ++ v) last := by
  induction hu with
  | nil => exact hv
  | cons hc _ ih => exact .cons hc (ih hv)

/-- A text without brackets keeps the depth, and inside brackets it may hold separators. -/
theorem Passes.of_unbracketed (hopens : ∀ b ∈ n.opens, b ∉ u) (hcloses : ∀ b ∈ n.closes, b ∉ u)
    (hsep : separator ∈ u → depth ≠ 0) : Passes n separator depth u depth := by
  induction u with
  | nil => exact .nil depth
  | cons c cs ih =>
    have hopen : c ∉ n.opens := by
      intro hc
      exact hopens c hc List.mem_cons_self
    have hclose : c ∉ n.closes := by
      intro hc
      exact hcloses c hc List.mem_cons_self
    have hstep : n.step depth c = depth := by
      simp [step, hopen, hclose]
    refine .cons ?_ ?_
    · rintro rfl
      exact hsep List.mem_cons_self
    · rw [hstep]
      apply ih
      · intro b hb hmem
        exact hopens b hb (List.mem_cons_of_mem c hmem)
      · intro b hb hmem
        exact hcloses b hb (List.mem_cons_of_mem c hmem)
      · intro hmem
        exact hsep (List.mem_cons_of_mem c hmem)

/-- One bracket around a text without brackets. -/
theorem Passes.enclosed {opening closing : Char} (ho : opening ∈ n.opens) (hc : closing ∈ n.closes)
    (hne : closing ∉ n.opens) (hsep : opening ≠ separator) (hopens : ∀ b ∈ n.opens, b ∉ u)
    (hcloses : ∀ b ∈ n.closes, b ∉ u) :
    Passes n separator 0 (opening :: (u ++ [closing])) 0 := by
  have hup : n.step 0 opening = 1 := by simp [step, ho]
  have hdown : n.step 1 closing = 0 := by simp [step, hc, hne]
  refine .cons (fun heq => absurd heq hsep) ?_
  rw [hup]
  refine (Passes.of_unbracketed hopens hcloses fun _ => Nat.one_ne_zero).append ?_
  refine .cons (fun _ => Nat.one_ne_zero) ?_
  rw [hdown]
  exact .nil 0

/-- Pieces that are passed, with another character between them. -/
theorem Passes.intercalate {dot : Char} (hdot : Passes n separator 0 [dot] 0)
    {pieces : List (List Char)} (h : ∀ p ∈ pieces, Passes n separator 0 p 0) :
    Passes n separator 0 ([dot].intercalate pieces) 0 := by
  induction pieces with
  | nil => exact .nil 0
  | cons p ps ih =>
    have hp := h p List.mem_cons_self
    have hps := ih fun q hq => h q (List.mem_cons_of_mem p hq)
    cases ps with
    | nil =>
      rw [List.intercalate_singleton]
      exact hp
    | cons q qs =>
      rw [List.intercalate_cons_cons]
      exact (hp.append hdot).append hps

/-- A text that is passed stays in one piece with what comes before the next cut. -/
theorem splitFrom_append (hu : Passes n separator depth u middle) (v : List Char) :
    n.splitFrom separator depth (u ++ v) =
      (n.splitFrom separator middle v).modifyHead (u ++ ·) := by
  induction hu with
  | nil middle =>
    simp only [List.nil_append]
    cases n.splitFrom separator middle v <;> rfl
  | @cons c cs depth last hc _ ih =>
    have hnot : ¬ (c = separator ∧ depth = 0) := by
      rintro ⟨hsep, hzero⟩
      exact hc hsep hzero
    rw [List.cons_append, splitFrom, if_neg hnot, ih, List.modifyHead_modifyHead]
    rfl

/-- A text that is passed as a whole is not cut. -/
theorem split_eq_singleton (hu : Passes n separator 0 u last) : n.split separator u = [u] := by
  have h := splitFrom_append hu []
  rw [List.append_nil] at h
  rw [split, h, splitFrom]
  simp

/-- A text is passed as a whole, or it is cut behind the part that is passed. -/
theorem splitFrom_cases (n : Nesting) (separator : Char) (depth : Nat) (cs : List Char) :
    (∃ last, n.Passes separator depth cs last ∧ n.splitFrom separator depth cs = [cs]) ∨
      ∃ u v, cs = u ++ separator :: v ∧ n.Passes separator depth u 0 ∧
        n.splitFrom separator depth cs = u :: n.split separator v := by
  induction cs generalizing depth with
  | nil => exact .inl ⟨depth, .nil depth, rfl⟩
  | cons c cs ih =>
    rw [splitFrom]
    by_cases hcut : c = separator ∧ depth = 0
    · obtain ⟨rfl, rfl⟩ := hcut
      rw [if_pos ⟨rfl, rfl⟩]
      exact .inr ⟨[], cs, rfl, .nil 0, rfl⟩
    · have hsep : c = separator → depth ≠ 0 := not_and.1 hcut
      rw [if_neg hcut]
      rcases ih (n.step depth c) with ⟨last, hpasses, hsplit⟩ | ⟨u, v, rfl, hpasses, hsplit⟩
      · exact .inl ⟨last, .cons hsep hpasses, by rw [hsplit]; rfl⟩
      · exact .inr ⟨c :: u, v, rfl, .cons hsep hpasses, by rw [hsplit]; rfl⟩

/-- A text without separators is passed from any depth on. -/
theorem Passes.exists_of_not_mem (h : separator ∉ u) (depth : Nat) :
    ∃ last, n.Passes separator depth u last := by
  induction u generalizing depth with
  | nil => exact ⟨depth, .nil depth⟩
  | cons c cs ih =>
    obtain ⟨last, hlast⟩ := ih (List.not_mem_of_not_mem_cons h) (n.step depth c)
    refine ⟨last, .cons ?_ hlast⟩
    rintro rfl
    exact absurd List.mem_cons_self h

/-- A text without separators stays in one piece with what comes after the last cut before it. -/
theorem exists_splitFrom_append (hv : separator ∉ v) (depth : Nat) (u : List Char) :
    ∃ ps p, n.splitFrom separator depth u = ps ++ [p] ∧
      n.splitFrom separator depth (u ++ v) = ps ++ [p ++ v] := by
  induction u generalizing depth with
  | nil =>
    obtain ⟨last, hlast⟩ := Passes.exists_of_not_mem (n := n) hv depth
    have hcut := splitFrom_append hlast []
    rw [List.append_nil] at hcut
    refine ⟨[], [], rfl, ?_⟩
    rw [List.nil_append, hcut, splitFrom]
    simp
  | cons c cs ih =>
    rw [List.cons_append, splitFrom, splitFrom]
    split
    · obtain ⟨ps, p, hu, huv⟩ := ih 0
      exact ⟨[] :: ps, p, by rw [hu, List.cons_append], by rw [huv, List.cons_append]⟩
    · obtain ⟨ps, p, hu, huv⟩ := ih (n.step depth c)
      rw [hu, huv]
      -- The character goes to the first piece, which is the last one if no cut follows.
      cases ps with
      | nil => exact ⟨[], c :: p, rfl, rfl⟩
      | cons q qs => exact ⟨(c :: q) :: qs, p, rfl, rfl⟩

/-- The separator after a text that ends at depth zero cuts. -/
theorem split_append_cons (hu : Passes n separator 0 u 0) (v : List Char) :
    n.split separator (u ++ separator :: v) = u :: n.split separator v := by
  rw [split, splitFrom_append hu, splitFrom, if_pos ⟨rfl, rfl⟩, split]
  simp

/-- Pieces that are passed are cut apart again, also in front of another text. -/
theorem split_intercalate_append_cons {pieces : List (List Char)} (hne : pieces ≠ [])
    (h : ∀ p ∈ pieces, Passes n separator 0 p 0) (v : List Char) :
    n.split separator ([separator].intercalate pieces ++ separator :: v) =
      pieces ++ n.split separator v := by
  induction pieces with
  | nil => exact absurd rfl hne
  | cons p ps ih =>
    have hp := h p List.mem_cons_self
    have hps := fun q hq => h q (List.mem_cons_of_mem p hq)
    cases ps with
    | nil =>
      rw [List.intercalate_singleton]
      exact split_append_cons hp v
    | cons q qs =>
      rw [List.intercalate_cons_cons, List.append_assoc, List.append_assoc, List.singleton_append,
        split_append_cons hp, ih (List.cons_ne_nil q qs) hps]
      rfl

theorem split_intercalate {pieces : List (List Char)} (hne : pieces ≠ [])
    (h : ∀ p ∈ pieces, Passes n separator 0 p 0) :
    n.split separator ([separator].intercalate pieces) = pieces := by
  induction pieces with
  | nil => exact absurd rfl hne
  | cons p ps ih =>
    have hp := h p List.mem_cons_self
    have hps := fun q hq => h q (List.mem_cons_of_mem p hq)
    cases ps with
    | nil =>
      rw [List.intercalate_singleton]
      exact split_eq_singleton hp
    | cons q qs =>
      rw [List.intercalate_cons_cons, List.append_assoc, List.singleton_append,
        split_append_cons hp, ih (List.cons_ne_nil q qs) hps]

/-- A text all of whose pieces are passed leaves no bracket open, so a separator behind it cuts. -/
theorem split_append_cons_of_forall (h : ∀ p ∈ n.split separator u, Passes n separator 0 p 0)
    (v : List Char) :
    n.split separator (u ++ separator :: v) = n.split separator u ++ n.split separator v := by
  have hne : n.split separator u ≠ [] := n.splitFrom_ne_nil separator 0 u
  have hcut := split_intercalate_append_cons hne h v
  rw [n.intercalate_split] at hcut
  exact hcut

end Nesting

end DiscoveryFilter.Text
