import Mathlib.Data.List.Induction
import Mathlib.Data.List.Nodup

/-!
# Values put under keys

Panels, rosters and registries are filled by putting values under keys one after the other. What
such a loop leaves under a key is the last value that was put there. Where the keys are kept in
order, a key that is there already is not added again.
-/

namespace DiscoveryFilter

/-- What holds after a loop whose steps add to what holds: it did before, or some step added it. -/
theorem foldl_iff_exists {σ α : Type} {f : σ → α → σ} (holds : σ → Prop) {adds : α → Prop}
    (hstep : ∀ s a, holds (f s a) ↔ holds s ∨ adds a) (s : σ) (as : List α) :
    holds (as.foldl f s) ↔ holds s ∨ ∃ a ∈ as, adds a := by
  induction as generalizing s with
  | nil => simp
  | cons a as ih => rw [List.foldl_cons, ih, hstep, List.exists_mem_cons_iff, or_assoc]

/-- What holds after a loop whose steps either bring it about or spare what holds: some step brought
it about and the steps after that one spared it, or it held before and every step spared it. -/
theorem foldl_iff_last {σ α : Type} {f : σ → α → σ} (holds : σ → Prop) {brings spares : α → Prop}
    (hstep : ∀ s a, holds (f s a) ↔ brings a ∨ spares a ∧ holds s) (s : σ) (as : List α) :
    holds (as.foldl f s) ↔
      (∃ before a after, as = before ++ a :: after ∧ brings a ∧ ∀ later ∈ after, spares later) ∨
        (∀ a ∈ as, spares a) ∧ holds s := by
  induction as generalizing s with
  | nil => simp
  | cons a as ih =>
    rw [List.foldl_cons, ih, hstep, List.forall_mem_cons]
    constructor
    · rintro (⟨before, b, after, rfl, hb, hafter⟩ | ⟨hrest, ha | ⟨ha, hs⟩⟩)
      · exact .inl ⟨a :: before, b, after, rfl, hb, hafter⟩
      · exact .inl ⟨[], a, as, rfl, ha, hrest⟩
      · exact .inr ⟨⟨ha, hrest⟩, hs⟩
    · rintro (⟨before, b, after, hsplit, hb, hafter⟩ | ⟨⟨ha, hrest⟩, hs⟩)
      · cases before with
        | nil =>
          obtain ⟨rfl, rfl⟩ := List.cons.inj hsplit
          exact .inr ⟨hafter, .inl hb⟩
        | cons c before =>
          obtain ⟨rfl, rfl⟩ := List.cons.inj hsplit
          exact .inl ⟨before, b, after, rfl, hb, hafter⟩
      · exact .inr ⟨hrest, .inr ⟨ha, hs⟩⟩

/-- After putting values under their keys in turn, a key holds the last value put under it, and a
key under which nothing was put holds what it held. -/
theorem get_foldl_put {σ κ ν : Type} [DecidableEq κ] {get : σ → κ → Option ν}
    {put : σ → κ → ν → σ}
    (hput : ∀ s k k' v, get (put s k v) k' = if k = k' then some v else get s k')
    (s : σ) (entries : List (κ × ν)) (k : κ) :
    get (entries.foldl (fun s entry => put s entry.1 entry.2) s) k =
      ((entries.filter fun entry => entry.1 == k).getLast?.map Prod.snd).or (get s k) := by
  induction entries generalizing s with
  | nil => rfl
  | cons entry entries ih =>
    rw [List.foldl_cons, ih, hput, List.filter_cons]
    by_cases h : entry.1 = k
    · rw [if_pos h, if_pos (beq_iff_eq.2 h), List.getLast?_cons]
      cases (entries.filter fun entry => entry.1 == k).getLast? <;> rfl
    · rw [if_neg h, if_neg (mt beq_iff_eq.1 h)]

/-- One more element joins those that are listed once only if it is not there. -/
theorem eraseDups_concat {κ : Type} [DecidableEq κ] (ks : List κ) (k : κ) :
    (ks ++ [k]).eraseDups = if k ∈ ks then ks.eraseDups else ks.eraseDups ++ [k] := by
  rw [List.eraseDups_append, List.cons_removeAll, List.nil_removeAll]
  by_cases h : k ∈ ks
  · simp [h]
  · simp [h, List.eraseDups_cons]

theorem nodup_eraseDups {κ : Type} [DecidableEq κ] (ks : List κ) : ks.eraseDups.Nodup := by
  induction ks using List.reverseRecOn with
  | nil => exact List.nodup_nil
  | append_singleton ks k ih =>
    rw [eraseDups_concat]
    split
    · exact ih
    · next hk =>
      rw [← List.concat_eq_append]
      exact ih.concat (mt List.mem_eraseDups.1 hk)

end DiscoveryFilter
