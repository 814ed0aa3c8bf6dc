/-!
# Traced computations

A `Traced η ε α` is the outcome of a computation that may fail, together with the events it
reported on the way. Events reported before a failure stay. The outcome of a sequence is that of
the outcomes alone, so a trace never changes what is computed.
-/

namespace DiscoveryFilter

/-- Events in the order they were reported, and a value or an error. -/
structure Traced (η ε α : Type) where
  events : List η
  outcome : Except ε α

namespace Traced

variable {η η' ε ε' α β : Type}

instance : Monad (Traced η ε) where
  pure a := ⟨[], .ok a⟩
  bind x f :=
    match x.outcome with
    | .ok a => ⟨x.events ++ (f a).events, (f a).outcome⟩
    | .error e => ⟨x.events, .error e⟩

instance : MonadExceptOf ε (Traced η ε) where
  throw e := ⟨[], .error e⟩
  tryCatch x handle :=
    match x.outcome with
    | .ok _ => x
    | .error e => ⟨x.events ++ (handle e).events, (handle e).outcome⟩

/-- Reports events. -/
def tell (events : List η) : Traced η ε Unit :=
  ⟨events, .ok ()⟩

/-- A computation that reports nothing. -/
def ofExcept (outcome : Except ε α) : Traced η ε α :=
  ⟨[], outcome⟩

/-- Runs a computation that may fail and hands on what came of it. -/
def attempt (x : Traced η ε α) : Traced η ε' (Except ε α) :=
  ⟨x.events, .ok x.outcome⟩

/-- Restates the error. -/
def mapError (f : ε → ε') (x : Traced η ε α) : Traced η ε' α :=
  ⟨x.events, x.outcome.mapError f⟩

/-- Restates the events. -/
def mapEvents (f : η → η') (x : Traced η ε α) : Traced η' ε α :=
  ⟨x.events.map f, x.outcome⟩

@[simp] theorem outcome_pure (a : α) : (pure a : Traced η ε α).outcome = .ok a := rfl

@[simp] theorem events_pure (a : α) : (pure a : Traced η ε α).events = [] := rfl

@[simp] theorem outcome_throw (e : ε) : (throw e : Traced η ε α).outcome = .error e := rfl

@[simp] theorem outcome_tell (events : List η) : (tell events : Traced η ε Unit).outcome = .ok () :=
  rfl

@[simp] theorem outcome_mapError (f : ε → ε') (x : Traced η ε α) :
    (x.mapError f).outcome = x.outcome.mapError f := rfl

@[simp] theorem outcome_mapEvents (f : η → η') (x : Traced η ε α) :
    (x.mapEvents f).outcome = x.outcome := rfl

/-- The outcome of a sequence is the sequence of the outcomes. -/
theorem outcome_bind (x : Traced η ε α) (f : α → Traced η ε β) :
    (x >>= f).outcome = x.outcome >>= fun a => (f a).outcome := by
  obtain ⟨events, outcome⟩ := x
  cases outcome <;> rfl

theorem bind_of_ok {x : Traced η ε α} {a : α} (h : x.outcome = .ok a) (f : α → Traced η ε β) :
    x >>= f = ⟨x.events ++ (f a).events, (f a).outcome⟩ := by
  obtain ⟨events, outcome⟩ := x
  cases h
  rfl

instance : LawfulMonad (Traced η ε) := by
  refine LawfulMonad.mk' (Traced η ε) (fun x => ?_) (fun a f => ?_) (fun x f g => ?_)
  · obtain ⟨events, outcome⟩ := x
    cases outcome <;> simp [Functor.map]
  · simp [bind, pure]
  · obtain ⟨events, outcome⟩ := x
    cases outcome with
    | error e => rfl
    | ok a =>
      cases h : (f a).outcome <;> simp [bind, h]

end Traced

end DiscoveryFilter
