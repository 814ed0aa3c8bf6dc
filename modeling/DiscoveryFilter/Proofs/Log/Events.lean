import DiscoveryFilter.Proofs.Log.Outcome

/-!
# Events of traced computations

A sequence that succeeds reports what its steps report, one after the other. Of a loop it is enough
to know what each step reports of some kind, if the state that it hands on has no part in that.
-/

namespace DiscoveryFilter

namespace Traced

variable {η ε α β γ : Type} {φ : η → Option γ}

theorem events_bind_of_ok {x : Traced η ε α} {a : α} (h : x.outcome = .ok a)
    (f : α → Traced η ε β) : (x >>= f).events = x.events ++ (f a).events := by
  rw [bind_of_ok h]

@[simp] theorem events_ofExcept (x : Except ε α) : (ofExcept x : Traced η ε α).events = [] := rfl

@[simp] theorem events_tell (events : List η) : (tell events : Traced η ε Unit).events = events :=
  rfl

@[simp] theorem events_mapError {ε' : Type} (f : ε → ε') (x : Traced η ε α) :
    (x.mapError f).events = x.events := rfl

@[simp] theorem events_mapEvents {η' : Type} (f : η → η') (x : Traced η ε α) :
    (x.mapEvents f).events = x.events.map f := rfl

/-- What a loop that succeeds reports of some kind, element by element. -/
theorem filterMap_events_mapM {f : α → Traced η ε β} {g : α → List γ}
    (hf : ∀ a b, (f a).outcome = .ok b → (f a).events.filterMap φ = g a) {as : List α}
    {bs : List β} (h : (as.mapM f).outcome = .ok bs) :
    (as.mapM f).events.filterMap φ = as.flatMap g := by
  induction as generalizing bs with
  | nil => rfl
  | cons a as ih =>
    rw [List.mapM_cons] at h ⊢
    obtain ⟨b, hb, h⟩ := outcome_bind_eq_ok_iff.1 h
    obtain ⟨bs', hbs, -⟩ := outcome_bind_eq_ok_iff.1 h
    rw [events_bind_of_ok hb, events_bind_of_ok hbs, events_pure, List.append_nil,
      List.filterMap_append, hf a b hb, ih hbs, List.flatMap_cons]

/-- So does a loop that hands a state from step to step, if the state has no part in it. -/
theorem filterMap_events_foldlM {f : β → α → Traced η ε β} {g : α → List γ}
    (hf : ∀ b a c, (f b a).outcome = .ok c → (f b a).events.filterMap φ = g a) {as : List α}
    {b c : β} (h : (as.foldlM f b).outcome = .ok c) :
    (as.foldlM f b).events.filterMap φ = as.flatMap g := by
  induction as generalizing b with
  | nil => rfl
  | cons a as ih =>
    rw [List.foldlM_cons] at h ⊢
    obtain ⟨b', hb', h⟩ := outcome_bind_eq_ok_iff.1 h
    rw [events_bind_of_ok hb', List.filterMap_append, hf b a b' hb', ih h, List.flatMap_cons]

end Traced

end DiscoveryFilter
