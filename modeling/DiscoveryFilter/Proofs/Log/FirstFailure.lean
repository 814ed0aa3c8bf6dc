import DiscoveryFilter.Proofs.Log.Outcome

/-!
# The first failure of a loop

A loop over elements fails with the error of the first element that fails, whether or not it hands
a state from step to step, as long as the state has no part in the failures. `FirstFails` says so
of the list of elements alone.
-/

namespace DiscoveryFilter

variable {α β ε ε' : Type}

/-- A loop over the list fails with the error of the first element that fails. -/
inductive FirstFails (fails : α → ε → Prop) : List α → ε → Prop
  | here {a : α} {as : List α} {e : ε} : fails a e → FirstFails fails (a :: as) e
  | later {a : α} {as : List α} {e : ε} :
    (∀ e, ¬ fails a e) → FirstFails fails as e → FirstFails fails (a :: as) e

namespace FirstFails

variable {fails : α → ε → Prop} {as : List α}

theorem cons_iff {a : α} {e : ε} : FirstFails fails (a :: as) e ↔
    fails a e ∨ (∀ e, ¬ fails a e) ∧ FirstFails fails as e := by
  constructor
  · rintro (h | ⟨hnot, h⟩)
    · exact .inl h
    · exact .inr ⟨hnot, h⟩
  · rintro (h | ⟨hnot, h⟩)
    · exact .here h
    · exact .later hnot h

theorem congr {fails' : α → ε → Prop} (h : ∀ a e, fails a e ↔ fails' a e) {e : ε} :
    FirstFails fails as e ↔ FirstFails fails' as e := by
  rw [show fails = fails' from funext fun a => funext fun e => propext (h a e)]

/-- The loop fails unless none of its elements does. -/
theorem forall_not_iff : (∀ e, ¬ FirstFails fails as e) ↔ ∀ a ∈ as, ∀ e, ¬ fails a e := by
  induction as with
  | nil =>
    constructor
    · intro _ a ha
      cases ha
    · rintro - e ⟨⟩
  | cons a as ih =>
    rw [List.forall_mem_cons, ← ih]
    constructor
    · intro h
      have hnot : ∀ e, ¬ fails a e := fun e ha => h e (.here ha)
      exact ⟨hnot, fun e hrest => h e (.later hnot hrest)⟩
    · rintro ⟨hnot, hrest⟩ e h
      rcases cons_iff.1 h with ha | ⟨-, h⟩
      · exact hnot e ha
      · exact hrest e h

/-- All elements before the one that fails pass. -/
theorem exists_split {e : ε} (h : FirstFails fails as e) :
    ∃ before a after, as = before ++ a :: after ∧ (∀ b ∈ before, ∀ e, ¬ fails b e) ∧
      fails a e := by
  induction h with
  | @here a as e ha => exact ⟨[], a, as, rfl, List.forall_mem_nil _, ha⟩
  | @later a as e hnot _ ih =>
    obtain ⟨before, a', after, rfl, hbefore, ha'⟩ := ih
    exact ⟨a :: before, a', after, rfl, List.forall_mem_cons.2 ⟨hnot, hbefore⟩, ha'⟩

/-- The errors told in other terms. -/
theorem map_iff {f : ε → ε'} {e' : ε'} :
    FirstFails (fun a e' => ∃ e, fails a e ∧ f e = e') as e' ↔
      ∃ e, FirstFails fails as e ∧ f e = e' := by
  have hnone {a : α} : (∀ e', ¬ ∃ e, fails a e ∧ f e = e') ↔ ∀ e, ¬ fails a e := by
    constructor
    · intro h e ha
      exact h (f e) ⟨e, ha, rfl⟩
    · rintro h e' ⟨e, ha, -⟩
      exact h e ha
  induction as with
  | nil =>
    constructor
    · rintro ⟨⟩
    · rintro ⟨e, ⟨⟩, -⟩
  | cons a as ih =>
    simp only [cons_iff, ih, hnone]
    constructor
    · rintro (⟨e, ha, rfl⟩ | ⟨hnot, e, h, rfl⟩)
      · exact ⟨e, .inl ha, rfl⟩
      · exact ⟨e, .inr ⟨hnot, h⟩, rfl⟩
    · rintro ⟨e, ha | ⟨hnot, h⟩, rfl⟩
      · exact .inl ⟨e, ha, rfl⟩
      · exact .inr ⟨hnot, e, h, rfl⟩

theorem append_iff {bs : List α} {e : ε} : FirstFails fails (as ++ bs) e ↔
    FirstFails fails as e ∨ (∀ a ∈ as, ∀ e, ¬ fails a e) ∧ FirstFails fails bs e := by
  induction as with
  | nil =>
    have hnil : ¬ FirstFails fails ([] : List α) e := by
      rintro ⟨⟩
    simp [hnil]
  | cons a as ih =>
    rw [List.cons_append, cons_iff, cons_iff, ih, List.forall_mem_cons]
    tauto

/-- No error occurs if the only one does not. -/
theorem forall_not_and_eq_iff {P : Prop} {only : ε} : (∀ e, ¬ (P ∧ e = only)) ↔ ¬ P := by
  constructor
  · intro h hP
    exact h only ⟨hP, rfl⟩
  · rintro h e ⟨hP, -⟩
    exact h hP

/-- Where only one error can occur, it does not matter which element fails first. -/
theorem and_eq_iff {p : α → Prop} {only e : ε} :
    FirstFails (fun a e => p a ∧ e = only) as e ↔ (∃ a ∈ as, p a) ∧ e = only := by
  induction as with
  | nil =>
    constructor
    · rintro ⟨⟩
    · rintro ⟨⟨a, ha, -⟩, -⟩
      cases ha
  | cons a as ih =>
    rw [cons_iff, ih, forall_not_and_eq_iff, List.exists_mem_cons_iff]
    tauto

end FirstFails

/-- A loop that keeps no state stops at the first element that fails. -/
theorem mapM_eq_error_iff {f : α → Except ε β} {as : List α} {e : ε} :
    as.mapM f = .error e ↔ FirstFails (fun a e => f a = .error e) as e := by
  induction as with
  | nil =>
    constructor
    · intro h
      cases h
    · rintro ⟨⟩
  | cons a as ih =>
    rw [List.mapM_cons, FirstFails.cons_iff, ← ih, bind_eq_error_iff]
    refine or_congr Iff.rfl ?_
    cases ha : f a with
    | error cause => simp
    | ok b => simp [bind_eq_error_iff, pure, Except.pure]

/-- So does a loop whose state has no part in the failures. -/
theorem foldlM_eq_error_iff {f : β → α → Except ε β} {fails : α → ε → Prop}
    (hf : ∀ b a e, f b a = .error e ↔ fails a e) {as : List α} {b : β} {e : ε} :
    as.foldlM f b = .error e ↔ FirstFails fails as e := by
  induction as generalizing b with
  | nil =>
    constructor
    · intro h
      cases h
    · rintro ⟨⟩
  | cons a as ih =>
    rw [List.foldlM_cons, FirstFails.cons_iff, bind_eq_error_iff, hf]
    refine or_congr Iff.rfl ?_
    simp only [ih, ← hf b]
    cases f b a with
    | error cause => simp
    | ok b' => simp

/-! ## The place of the failure -/

section Places

variable {α β ε : Type} {f : β → α → Except ε β} {as : List α} {b : β}

/-- A loop that fails does so at a place up to which it succeeds. -/
theorem foldlM_eq_error_iff_exists_place {e : ε} : as.foldlM f b = .error e ↔
    ∃ i a c, as[i]? = some a ∧ (as.take i).foldlM f b = .ok c ∧ f c a = .error e := by
  induction as generalizing b with
  | nil =>
    constructor
    · intro h
      cases h
    · rintro ⟨i, a, c, ha, -⟩
      cases ha
  | cons a as ih =>
    rw [List.foldlM_cons, bind_eq_error_iff]
    constructor
    · rintro (ha | ⟨b', hb', hrest⟩)
      · exact ⟨0, a, b, rfl, rfl, ha⟩
      · obtain ⟨i, a', c, ha', hc, hfails⟩ := ih.1 hrest
        refine ⟨i + 1, a', c, ha', ?_, hfails⟩
        rw [List.take_succ_cons, List.foldlM_cons, bind_eq_ok_iff]
        exact ⟨b', hb', hc⟩
    · rintro ⟨i, a', c, ha', hc, hfails⟩
      cases i with
      | zero =>
        obtain rfl := Option.some.inj ha'
        obtain rfl := Except.ok.inj hc
        exact .inl hfails
      | succ i =>
        rw [List.take_succ_cons, List.foldlM_cons, bind_eq_ok_iff] at hc
        obtain ⟨b', hb', hc⟩ := hc
        exact .inr ⟨b', hb', ih.2 ⟨i, a', c, ha', hc, hfails⟩⟩

/-- A loop that succeeds does so at each place. -/
theorem exists_ok_of_foldlM_eq_ok {c : β} (h : as.foldlM f b = .ok c) {i : Nat} {a : α}
    (ha : as[i]? = some a) :
    ∃ b' b'', (as.take i).foldlM f b = .ok b' ∧ f b' a = .ok b'' := by
  obtain ⟨hi, rfl⟩ := List.getElem?_eq_some_iff.1 ha
  rw [← List.take_append_drop i as, List.foldlM_append, bind_eq_ok_iff] at h
  obtain ⟨b', hb', hrest⟩ := h
  rw [List.drop_eq_getElem_cons hi, List.foldlM_cons, bind_eq_ok_iff] at hrest
  obtain ⟨b'', hb'', -⟩ := hrest
  exact ⟨b', b'', hb', hb''⟩

/-- If it can be told from the list alone with what a step fails that is reached, then the loop
fails with the error of the first place that fails. -/
theorem foldlM_eq_error_iff_first {refuses : Nat → ε → Prop}
    (hplace : ∀ i e, refuses i e → ∃ a, as[i]? = some a)
    (hstep : ∀ i a c, as[i]? = some a → (as.take i).foldlM f b = .ok c →
      ∀ e, f c a = .error e ↔ refuses i e) {e : ε} :
    as.foldlM f b = .error e ↔ ∃ i, refuses i e ∧ ∀ j < i, ∀ e', ¬ refuses j e' := by
  rw [foldlM_eq_error_iff_exists_place]
  constructor
  · rintro ⟨i, a, c, ha, hc, hfails⟩
    refine ⟨i, (hstep i a c ha hc e).1 hfails, ?_⟩
    intro j hj e' hrefuses
    obtain ⟨a', ha'⟩ := hplace j e' hrefuses
    have hin : (as.take i)[j]? = some a' := by
      rw [List.getElem?_take_of_lt hj, ha']
    obtain ⟨b', b'', hb', hok⟩ := exists_ok_of_foldlM_eq_ok hc hin
    rw [List.take_take, Nat.min_eq_left (Nat.le_of_lt hj)] at hb'
    rw [(hstep j a' b' ha' hb' e').2 hrefuses] at hok
    cases hok
  · rintro ⟨i, hrefuses, hfirst⟩
    obtain ⟨a, ha⟩ := hplace i e hrefuses
    cases hc : (as.take i).foldlM f b with
    | ok c => exact ⟨i, a, c, ha, hc, (hstep i a c ha hc e).2 hrefuses⟩
    | error e' =>
      obtain ⟨j, a', c, ha', hc', hfails⟩ := foldlM_eq_error_iff_exists_place.1 hc
      have hj : j < i := by
        have := (List.getElem?_eq_some_iff.1 ha').1
        rw [List.length_take] at this
        omega
      rw [List.getElem?_take_of_lt hj] at ha'
      rw [List.take_take, Nat.min_eq_left (Nat.le_of_lt hj)] at hc'
      exact absurd ((hstep j a' c ha' hc' e').1 hfails) (hfirst j hj e')

end Places

end DiscoveryFilter
