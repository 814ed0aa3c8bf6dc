import DiscoveryFilter.Log.Traced
import Mathlib.Data.List.Forall2

/-!
# Outcomes of traced computations

The outcome of a traced computation is computed by the outcomes of its parts alone, loops
included. A loop that passes over some elements and takes a value from each of the others is
described by `Gathers`, which leaves the events out.
-/

namespace DiscoveryFilter

variable {η η' ε ε' α β γ : Type}

/-! ## Success of a sequence -/

theorem bind_eq_ok_iff {x : Except ε α} {f : α → Except ε β} {b : β} :
    x >>= f = .ok b ↔ ∃ a, x = .ok a ∧ f a = .ok b := by
  cases x with
  | error e => simp [bind, Except.bind]
  | ok a => simp [bind, Except.bind]

theorem map_eq_ok_iff {x : Except ε α} {f : α → β} {b : β} :
    f <$> x = .ok b ↔ ∃ a, x = .ok a ∧ f a = b := by
  cases x with
  | error e => simp [Functor.map, Except.map]
  | ok a => simp [Functor.map, Except.map]

theorem mapError_eq_ok_iff {x : Except ε α} {f : ε → ε'} {a : α} :
    x.mapError f = .ok a ↔ x = .ok a := by
  cases x <;> simp [Except.mapError]

theorem exists_ok_of_isOk {x : Except ε α} (h : x.isOk = true) : ∃ a, x = .ok a := by
  cases x with
  | error e => cases h
  | ok a => exact ⟨a, rfl⟩

theorem mapError_eq_error_iff {x : Except ε α} {f : ε → ε'} {e : ε'} :
    x.mapError f = .error e ↔ ∃ cause, x = .error cause ∧ f cause = e := by
  cases x <;> simp [Except.mapError]

theorem map_eq_error_iff {x : Except ε α} {f : α → β} {e : ε} :
    f <$> x = .error e ↔ x = .error e := by
  cases x <;> simp [Functor.map, Except.map]

theorem toOption_eq_some_iff {x : Except ε α} {a : α} : x.toOption = some a ↔ x = .ok a := by
  cases x <;> simp [Except.toOption]

theorem bind_eq_error_iff {x : Except ε α} {f : α → Except ε β} {e : ε} :
    x >>= f = .error e ↔ x = .error e ∨ ∃ a, x = .ok a ∧ f a = .error e := by
  cases x with
  | error e => simp [bind, Except.bind]
  | ok a => simp [bind, Except.bind]

theorem exists_ok_iff {x : Except ε α} : (∃ a, x = .ok a) ↔ ∀ e, x ≠ .error e := by
  cases x <;> simp

/-- A loop that fails does so at one of its steps. -/
theorem exists_of_mapM_eq_error {f : α → Except ε β} {as : List α} {e : ε}
    (h : as.mapM f = .error e) : ∃ a ∈ as, f a = .error e := by
  induction as with
  | nil => cases h
  | cons a as ih =>
    rw [List.mapM_cons, bind_eq_error_iff] at h
    rcases h with h | ⟨b, -, h⟩
    · exact ⟨a, List.mem_cons_self, h⟩
    · rcases bind_eq_error_iff.1 h with h | ⟨bs, -, h⟩
      · obtain ⟨a', ha', h⟩ := ih h
        exact ⟨a', List.mem_cons_of_mem a ha', h⟩
      · cases h

/-- So does a loop that hands a state from step to step. -/
theorem exists_of_foldlM_eq_error {f : β → α → Except ε β} {as : List α} {b : β} {e : ε}
    (h : as.foldlM f b = .error e) : ∃ b', ∃ a ∈ as, f b' a = .error e := by
  induction as generalizing b with
  | nil => cases h
  | cons a as ih =>
    rw [List.foldlM_cons, bind_eq_error_iff] at h
    rcases h with h | ⟨b', -, h⟩
    · exact ⟨b, a, List.mem_cons_self, h⟩
    · obtain ⟨b'', a', ha', h⟩ := ih h
      exact ⟨b'', a', List.mem_cons_of_mem a ha', h⟩

/-- A loop succeeds exactly when each of its steps does. -/
theorem mapM_eq_ok_iff {f : α → Except ε β} {as : List α} {bs : List β} :
    as.mapM f = .ok bs ↔ List.Forall₂ (fun a b => f a = .ok b) as bs := by
  induction as generalizing bs with
  | nil =>
    rw [List.mapM_nil, List.forall₂_nil_left_iff]
    exact ⟨fun h => (Except.ok.inj h).symm, fun h => h ▸ rfl⟩
  | cons a as ih =>
    rw [List.mapM_cons, List.forall₂_cons_left_iff, bind_eq_ok_iff]
    constructor
    · rintro ⟨b, hb, h⟩
      obtain ⟨bs', hbs, h⟩ := bind_eq_ok_iff.1 h
      exact ⟨b, bs', hb, ih.1 hbs, (Except.ok.inj h).symm⟩
    · rintro ⟨b, bs', hb, hbs, rfl⟩
      exact ⟨b, hb, bind_eq_ok_iff.2 ⟨bs', ih.2 hbs, rfl⟩⟩

/-- A loop over other elements succeeds alike if its steps do. -/
theorem foldlM_eq_ok_of_forall₂ {f : β → α → Except ε β} {as as' : List α}
    (h : List.Forall₂ (fun a a' => ∀ b c, f b a = .ok c → f b a' = .ok c) as as') {b c : β}
    (hok : as.foldlM f b = .ok c) : as'.foldlM f b = .ok c := by
  induction h generalizing b with
  | nil => exact hok
  | cons hstep _ ih =>
    rw [List.foldlM_cons, bind_eq_ok_iff] at hok ⊢
    obtain ⟨b', hb, hrest⟩ := hok
    exact ⟨b', hstep b b' hb, ih hrest⟩

/-- Four steps of one kind. -/
theorem bind_four_eq_ok_iff {f : α → Except ε β} {mk : β → β → β → β → γ} {a b c d : α} {x : γ} :
    (do
        let a ← f a
        let b ← f b
        let c ← f c
        let d ← f d
        return mk a b c d) = .ok x ↔
      ∃ a' b' c' d', List.Forall₂ (fun a b => f a = .ok b) [a, b, c, d] [a', b', c', d'] ∧
        mk a' b' c' d' = x := by
  constructor
  · intro h
    obtain ⟨a', ha, h⟩ := bind_eq_ok_iff.1 h
    obtain ⟨b', hb, h⟩ := bind_eq_ok_iff.1 h
    obtain ⟨c', hc, h⟩ := bind_eq_ok_iff.1 h
    obtain ⟨d', hd, h⟩ := bind_eq_ok_iff.1 h
    exact ⟨a', b', c', d', .cons ha (.cons hb (.cons hc (.cons hd .nil))), Except.ok.inj h⟩
  · rintro ⟨a', b', c', d', hsteps, rfl⟩
    rcases hsteps with _ | ⟨ha, _ | ⟨hb, _ | ⟨hc, _ | ⟨hd, _⟩⟩⟩⟩
    rw [ha, hb, hc, hd]
    rfl

/-- If they fail, one of them does. -/
theorem exists_of_bind_four_eq_error {f : α → Except ε β} {mk : β → β → β → β → γ} {a b c d : α}
    {e : ε} (h : (do
        let a ← f a
        let b ← f b
        let c ← f c
        let d ← f d
        return mk a b c d) = .error e) : ∃ x ∈ [a, b, c, d], f x = .error e := by
  rcases bind_eq_error_iff.1 h with ha | ⟨a', -, h⟩
  · exact ⟨a, by simp, ha⟩
  rcases bind_eq_error_iff.1 h with hb | ⟨b', -, h⟩
  · exact ⟨b, by simp, hb⟩
  rcases bind_eq_error_iff.1 h with hc | ⟨c', -, h⟩
  · exact ⟨c, by simp, hc⟩
  rcases bind_eq_error_iff.1 h with hd | ⟨d', -, h⟩
  · exact ⟨d, by simp, hd⟩
  cases h

namespace Traced

@[simp] theorem outcome_ofExcept (x : Except ε α) : (ofExcept x : Traced η ε α).outcome = x := rfl

@[simp] theorem outcome_attempt (x : Traced η ε α) :
    (x.attempt : Traced η ε' (Except ε α)).outcome = .ok x.outcome := rfl

theorem outcome_map (f : α → β) (x : Traced η ε α) : (f <$> x).outcome = f <$> x.outcome := by
  rw [map_eq_pure_bind, outcome_bind, map_eq_pure_bind]
  rfl

/-- What a sequence that succeeds went through. -/
theorem outcome_bind_eq_ok_iff {x : Traced η ε α} {f : α → Traced η ε β} {b : β} :
    (x >>= f).outcome = .ok b ↔ ∃ a, x.outcome = .ok a ∧ (f a).outcome = .ok b := by
  rw [outcome_bind, bind_eq_ok_iff]

/-- What a sequence that fails went through. -/
theorem outcome_bind_eq_error_iff {x : Traced η ε α} {f : α → Traced η ε β} {e : ε} :
    (x >>= f).outcome = .error e ↔
      x.outcome = .error e ∨ ∃ a, x.outcome = .ok a ∧ (f a).outcome = .error e := by
  rw [outcome_bind, bind_eq_error_iff]

theorem outcome_mapM (f : α → Traced η ε β) (as : List α) :
    (as.mapM f).outcome = as.mapM fun a => (f a).outcome := by
  induction as with
  | nil => rfl
  | cons a as ih =>
    rw [List.mapM_cons, List.mapM_cons, outcome_bind]
    refine congrArg _ (funext fun b => ?_)
    rw [outcome_bind, ih]
    rfl

theorem outcome_foldlM (f : β → α → Traced η ε β) (b : β) (as : List α) :
    (as.foldlM f b).outcome = as.foldlM (fun b a => (f b a).outcome) b := by
  induction as generalizing b with
  | nil => rfl
  | cons a as ih =>
    rw [List.foldlM_cons, List.foldlM_cons, outcome_bind]
    exact congrArg _ (funext fun b => ih b)

end Traced

/-! ## Loops that pass over elements -/

/-- A loop over the first list passes over the elements that it `skips`, takes what each of the
others `yields`, and so gathers the second list. -/
inductive Gathers (skips : α → Prop) (yields : α → β → Prop) : List α → List β → Prop
  | nil : Gathers skips yields [] []
  | skip {a : α} {as : List α} {bs : List β} :
    skips a → Gathers skips yields as bs → Gathers skips yields (a :: as) bs
  | take {a : α} {as : List α} {b : β} {bs : List β} :
    yields a b → Gathers skips yields as bs → Gathers skips yields (a :: as) (b :: bs)

namespace Gathers

variable {skips : α → Prop} {yields : α → β → Prop} {as : List α} {bs : List β}

/-- A loop that marks the elements it passes over by `none`. -/
theorem iff_mapM {f : α → Except ε (Option β)} :
    Gathers (fun a => f a = .ok none) (fun a b => f a = .ok (some b)) as bs ↔
      ∃ marked, as.mapM f = .ok marked ∧ marked.filterMap id = bs := by
  constructor
  · intro h
    induction h with
    | nil => exact ⟨[], rfl, rfl⟩
    | skip ha _ ih =>
      obtain ⟨marked, hmarked, rfl⟩ := ih
      exact ⟨none :: marked, mapM_eq_ok_iff.2 (.cons ha (mapM_eq_ok_iff.1 hmarked)), rfl⟩
    | take hb _ ih =>
      obtain ⟨marked, hmarked, rfl⟩ := ih
      exact ⟨some _ :: marked, mapM_eq_ok_iff.2 (.cons hb (mapM_eq_ok_iff.1 hmarked)), rfl⟩
  · rintro ⟨marked, hmarked, rfl⟩
    have hf := mapM_eq_ok_iff.1 hmarked
    clear hmarked
    induction hf with
    | nil => exact .nil
    | @cons a m _ _ hm _ ih =>
      cases m with
      | none => exact .skip hm ih
      | some b => exact .take hm ih

theorem mono {skips' : α → Prop} {yields' : α → β → Prop} (h : Gathers skips yields as bs)
    (hs : ∀ a, skips a → skips' a) (hy : ∀ a b, yields a b → yields' a b) :
    Gathers skips' yields' as bs := by
  induction h with
  | nil => exact .nil
  | skip ha _ ih => exact .skip (hs _ ha) ih
  | take hb _ ih => exact .take (hy _ _ hb) ih

/-- A loop gathers something unless one of its elements is neither passed over nor taken. -/
theorem exists_iff : (∃ bs, Gathers skips yields as bs) ↔ ∀ a ∈ as, skips a ∨ ∃ b, yields a b := by
  induction as with
  | nil =>
    constructor
    · intro _ a ha
      cases ha
    · intro _
      exact ⟨[], .nil⟩
  | cons a as ih =>
    rw [List.forall_mem_cons, ← ih]
    constructor
    · rintro ⟨bs, h⟩
      cases h with
      | skip ha h => exact ⟨.inl ha, bs, h⟩
      | @take _ _ b bs hb h => exact ⟨.inr ⟨b, hb⟩, bs, h⟩
    · rintro ⟨ha | ⟨b, hb⟩, bs, h⟩
      · exact ⟨bs, .skip ha h⟩
      · exact ⟨b :: bs, .take hb h⟩

/-- What is gathered comes, one value each and in order, from the elements that a test keeps, if
the test tells the elements that are passed over from those that are not. -/
theorem forall₂_filter (h : Gathers skips yields as bs) {keeps : α → Bool}
    (hs : ∀ a, skips a → keeps a = false) (hy : ∀ a b, yields a b → keeps a = true) :
    List.Forall₂ yields (as.filter keeps) bs := by
  induction h with
  | nil => exact .nil
  | skip ha _ ih => rwa [List.filter_cons_of_neg (by simp [hs _ ha])]
  | take hb _ ih => rw [List.filter_cons_of_pos (hy _ _ hb)]; exact .cons hb ih

/-- Where nothing is passed over, every element gives its value. -/
theorem forall₂_of_forall_not (h : Gathers skips yields as bs) (hs : ∀ a ∈ as, ¬ skips a) :
    List.Forall₂ yields as bs := by
  induction h with
  | nil => exact .nil
  | skip ha _ _ => exact absurd ha (hs _ List.mem_cons_self)
  | take hb _ ih => exact .cons hb (ih fun a ha => hs a (List.mem_cons_of_mem _ ha))

/-- Picking elements and picking values by tests that agree. -/
theorem filter (h : Gathers skips yields as bs) {p : α → Bool} {q : β → Bool}
    (hy : ∀ a b, yields a b → p a = q b) : Gathers skips yields (as.filter p) (bs.filter q) := by
  induction h with
  | nil => exact .nil
  | @skip a _ _ ha _ ih =>
    rw [List.filter_cons]
    split
    · exact .skip ha ih
    · exact ih
  | @take a _ b _ hb _ ih =>
    rw [List.filter_cons, List.filter_cons, hy _ _ hb]
    split
    · exact .take hb ih
    · exact ih

/-- A list from which a test picks the elements that give a value. -/
theorem map_filter (p : α → Bool) (f : α → β) (as : List α) :
    Gathers (fun a => ¬ p a = true) (fun a b => p a = true ∧ b = f a) as ((as.filter p).map f) := by
  induction as with
  | nil => exact .nil
  | cons a as ih =>
    by_cases ha : p a = true
    · rw [List.filter_cons_of_pos ha]
      exact .take ⟨ha, rfl⟩ ih
    · rw [List.filter_cons_of_neg ha]
      exact .skip ha ih

/-- A list of elements that fare like those of another gathers the same. -/
theorem of_forall₂ {as' : List α} (h : Gathers skips yields as bs)
    (hlike : List.Forall₂ (fun a a' => (skips a → skips a') ∧ ∀ b, yields a b → yields a' b) as as') :
    Gathers skips yields as' bs := by
  induction h generalizing as' with
  | nil =>
    cases hlike
    exact .nil
  | skip ha _ ih =>
    cases hlike with
    | cons hfare hlike => exact .skip (hfare.1 ha) (ih hlike)
  | take hb _ ih =>
    cases hlike with
    | cons hfare hlike => exact .take (hfare.2 _ hb) (ih hlike)

/-- What is gathered is determined if each element has one fate only. -/
theorem unique {bs' : List β} (h : Gathers skips yields as bs) (h' : Gathers skips yields as bs')
    (hskip : ∀ a b, skips a → ¬ yields a b)
    (hyield : ∀ a b b', yields a b → yields a b' → b = b') : bs = bs' := by
  induction h generalizing bs' with
  | nil =>
    cases h'
    rfl
  | skip ha _ ih =>
    cases h' with
    | skip _ h' => exact ih h'
    | take hb _ => exact absurd hb (hskip _ _ ha)
  | take hb _ ih =>
    cases h' with
    | skip ha _ => exact absurd hb (hskip _ _ ha)
    | take hb' h' => rw [hyield _ _ _ hb hb', ih h']

theorem exists_of_mem (h : Gathers skips yields as bs) {b : β} (hb : b ∈ bs) :
    ∃ a ∈ as, yields a b := by
  induction h with
  | nil => cases hb
  | skip _ _ ih =>
    obtain ⟨a, ha, hab⟩ := ih hb
    exact ⟨a, List.mem_cons_of_mem _ ha, hab⟩
  | take hy _ ih =>
    rcases List.mem_cons.1 hb with rfl | hb
    · exact ⟨_, List.mem_cons_self, hy⟩
    · obtain ⟨a, ha, hab⟩ := ih hb
      exact ⟨a, List.mem_cons_of_mem _ ha, hab⟩

end Gathers

theorem exists_of_forall₂_of_mem {R : α → β → Prop} {as : List α} {bs : List β}
    (h : List.Forall₂ R as bs) {a : α} (ha : a ∈ as) : ∃ b, R a b := by
  induction h with
  | nil => cases ha
  | cons hab _ ih =>
    rcases List.mem_cons.1 ha with rfl | ha
    · exact ⟨_, hab⟩
    · exact ih ha

/-- Two lists related through values in between. -/
theorem forall₂_exists_iff {R : α → γ → Prop} {S : β → γ → Prop} {as : List α} {bs : List β} :
    List.Forall₂ (fun a b => ∃ c, R a c ∧ S b c) as bs ↔
      ∃ cs, List.Forall₂ R as cs ∧ List.Forall₂ S bs cs := by
  constructor
  · intro h
    induction h with
    | nil => exact ⟨[], .nil, .nil⟩
    | cons hab _ ih =>
      obtain ⟨c, hac, hbc⟩ := hab
      obtain ⟨cs, has, hbs⟩ := ih
      exact ⟨c :: cs, .cons hac has, .cons hbc hbs⟩
  · rintro ⟨cs, has, hbs⟩
    induction has generalizing bs with
    | nil =>
      cases hbs
      exact .nil
    | cons hac _ ih =>
      cases hbs with
      | cons hbc hbs => exact .cons ⟨_, hac, hbc⟩ (ih hbs)

/-- A test of the values that comes to a property of what they are made from. -/
theorem any_iff_of_forall₂ {R : α → β → Prop} {as : List α} {bs : List β}
    (h : List.Forall₂ R as bs) {P : α → Prop} {test : β → Bool}
    (htest : ∀ a b, R a b → (test b = true ↔ P a)) : bs.any test = true ↔ ∃ a ∈ as, P a := by
  induction h with
  | nil => simp
  | cons hab _ ih => rw [List.any_cons, Bool.or_eq_true, htest _ _ hab, ih, List.exists_mem_cons_iff]

/-- Tests that agree on related elements. -/
theorem any_eq_of_forall₂ {R : α → β → Prop} {as : List α} {bs : List β}
    (h : List.Forall₂ R as bs) {test : α → Bool} {test' : β → Bool}
    (htest : ∀ a b, R a b → test a = test' b) : as.any test = bs.any test' := by
  rw [Bool.eq_iff_iff, List.any_eq_true]
  refine (any_iff_of_forall₂ h fun a b hab => ?_).symm
  rw [htest a b hab]

/-- The last elements of two lists that are related pointwise. -/
theorem getLast?_of_forall₂ {R : α → β → Prop} {as : List α} {bs : List β}
    (h : List.Forall₂ R as bs) : Option.Rel R as.getLast? bs.getLast? := by
  have hr := List.rel_reverse h
  rw [← List.head?_reverse, ← List.head?_reverse]
  generalize as.reverse = as' at hr ⊢
  generalize bs.reverse = bs' at hr ⊢
  cases hr with
  | nil => exact .none
  | cons hab _ => exact .some hab

theorem exists_of_rel_some_left {R : α → β → Prop} {a : α} {o : Option β}
    (h : Option.Rel R (some a) o) : ∃ b, o = some b ∧ R a b := by
  cases h with
  | some hab => exact ⟨_, rfl, hab⟩

theorem exists_of_rel_some_right {R : α → β → Prop} {o : Option α} {b : β}
    (h : Option.Rel R o (some b)) : ∃ a, o = some a ∧ R a b := by
  cases h with
  | some hab => exact ⟨_, rfl, hab⟩

/-- The first elements of two lists that are related pointwise. -/
theorem head?_of_forall₂ {R : α → β → Prop} {as : List α} {bs : List β}
    (h : List.Forall₂ R as bs) : Option.Rel R as.head? bs.head? := by
  cases h with
  | nil => exact .none
  | cons hab _ => exact .some hab

theorem exists_mem_of_forall₂ {R : α → β → Prop} {as : List α} {bs : List β}
    (h : List.Forall₂ R as bs) {b : β} (hb : b ∈ bs) : ∃ a ∈ as, R a b := by
  induction h with
  | nil => cases hb
  | cons hab _ ih =>
    rcases List.mem_cons.1 hb with rfl | hb
    · exact ⟨_, List.mem_cons_self, hab⟩
    · obtain ⟨a, ha, hab⟩ := ih hb
      exact ⟨a, List.mem_cons_of_mem _ ha, hab⟩

/-! ## One loop over two lists -/

section Loops

variable {m : Type → Type} [Monad m]

theorem foldlM_eq_of_forall₂ {f : β → α → m β} {as as' : List α}
    (h : List.Forall₂ (fun a a' => ∀ b, f b a = f b a') as as') (b : β) :
    as.foldlM f b = as'.foldlM f b := by
  induction h generalizing b with
  | nil => rfl
  | cons ha _ ih =>
    rw [List.foldlM_cons, List.foldlM_cons, ha]
    exact congrArg _ (funext ih)

variable [LawfulMonad m]

theorem mapM_eq_of_forall₂ {f : α → m β} {as as' : List α}
    (h : List.Forall₂ (fun a a' => f a = f a') as as') : as.mapM f = as'.mapM f := by
  induction h with
  | nil => rfl
  | cons ha _ ih => rw [List.mapM_cons, List.mapM_cons, ha, ih]

/-- Elements that leave the state as it is can be left out. -/
theorem foldlM_filter_of_pure {f : β → α → m β} {keep : α → Bool}
    (h : ∀ a, keep a = false → ∀ b, f b a = pure b) (as : List α) (b : β) :
    (as.filter keep).foldlM f b = as.foldlM f b := by
  induction as generalizing b with
  | nil => rfl
  | cons a as ih =>
    rw [List.foldlM_cons]
    cases ha : keep a with
    | false => rw [List.filter_cons_of_neg (by simp [ha]), h a ha, pure_bind, ih]
    | true =>
      rw [List.filter_cons_of_pos ha, List.foldlM_cons]
      exact congrArg _ (funext ih)

/-- What a loop gives that marks the elements it passes over by `none`, element by element. -/
theorem filterMap_mapM_cons (f : α → m (Option β)) (a : α) (as : List α) :
    (fun built => built.filterMap id) <$> (a :: as).mapM f =
      f a >>= fun o => (o.toList ++ ·) <$> (fun built => built.filterMap id) <$> as.mapM f := by
  simp only [List.mapM_cons, map_eq_pure_bind, bind_assoc, pure_bind]
  refine congrArg _ (funext fun o => congrArg _ (funext fun built => ?_))
  cases o <;> rfl

/-- Elements that are passed over can be left out. -/
theorem filterMap_mapM_filter {f : α → m (Option β)} {keep : α → Bool}
    (h : ∀ a, keep a = false → f a = pure none) (as : List α) :
    (fun built => built.filterMap id) <$> (as.filter keep).mapM f =
      (fun built => built.filterMap id) <$> as.mapM f := by
  induction as with
  | nil => rfl
  | cons a as ih =>
    rw [filterMap_mapM_cons]
    cases ha : keep a with
    | false =>
      rw [List.filter_cons_of_neg (by simp [ha]), h a ha, pure_bind, ih]
      exact (id_map _).symm
    | true => rw [List.filter_cons_of_pos ha, filterMap_mapM_cons, ih]

end Loops

end DiscoveryFilter
