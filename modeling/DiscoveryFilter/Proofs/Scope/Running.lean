import DiscoveryFilter.Scope.Run
import Mathlib.Data.List.Basic
import Mathlib.Logic.Function.Iterate

/-!
# What runs of a scope keep

The operations on a scope change it only by clearing state, and no panel reads what is cleared.
`Scope.run_keeps_policies` says this of runs: whatever was asked or reset before, an operation gets
the response that the scope would have given at the start.
-/

namespace DiscoveryFilter

namespace Scope

variable {α ρ ω : Type}

/-- What the scope answers to an operation; nothing to a reset. -/
def verdict? (s : Scope α ρ ω) : Operation → Option Bool
  | .judge e => some (s.accepts e)
  | .judgeFor reporter e => s.acceptsFor? reporter e
  | .reset => none

/-- What the scope tells its observers of an operation; nothing of a reporter that it does not
have. -/
def notice? (s : Scope α ρ ω) : Operation → Option Notice
  | .judge e => some (.decided ⟨s.name, none, e, s.accepts e⟩)
  | .judgeFor reporter e =>
    (s.acceptsFor? reporter e).map fun accepted => .decided ⟨s.name, some reporter, e, accepted⟩
  | .reset => some (.reset s.name)

variable [Resettable α] [Resettable ρ]

/-- The second scope is the first after a number of resets: approaches and reporters are where they
were, each with its own state cleared that many times, and the rest is the same. -/
structure Cleared (n : Nat) (s t : Scope α ρ ω) : Prop where
  name : t.name = s.name
  acceptors : t.acceptors = s.acceptors
  observers : t.observers = s.observers
  approaches : t.approaches =
    s.approaches.map fun approach => (approach.1, Resettable.reset^[n] approach.2)
  reporters : t.reporters.entries = s.reporters.entries.map fun entry =>
    (entry.1, ⟨Resettable.reset^[n] entry.2.reporter, entry.2.acceptors⟩)

/-! ## Resets -/

theorem cleared_zero (s : Scope α ρ ω) : Cleared 0 s s where
  name := rfl
  acceptors := rfl
  observers := rfl
  approaches := (List.map_id _).symm
  reporters := (List.map_id _).symm

/-- One reset more clears every state once more. -/
theorem Cleared.reset {n : Nat} {s t : Scope α ρ ω} (h : Cleared n s t) :
    Cleared (n + 1) s t.reset where
  name := h.name
  acceptors := h.acceptors
  observers := h.observers
  approaches := by
    simp only [Scope.reset, h.approaches, List.map_map, Function.iterate_succ_apply']
    rfl
  reporters := by
    simp only [Scope.reset, Roster.map, h.reporters, List.map_map, Function.iterate_succ_apply']
    rfl

theorem cleared_iterate (s : Scope α ρ ω) (n : Nat) : Cleared n s (Scope.reset^[n] s) := by
  induction n with
  | zero => exact cleared_zero s
  | succ n ih =>
    rw [Function.iterate_succ_apply']
    exact ih.reset

theorem reporterPanel?_reset (s : Scope α ρ ω) (reporter : String) :
    s.reset.reporterPanel? reporter = s.reporterPanel? reporter := by
  simp only [reporterPanel?, reset, Roster.get?_map, Option.map_map]
  rfl

/-! ## One operation -/

/-- An operation resets the scope or leaves it as it is. -/
theorem perform_fst (s : Scope α ρ ω) (op : Operation) :
    (s.perform op).1 = if op = .reset then s.reset else s := by
  cases op with
  | judge e => rfl
  | judgeFor reporter e =>
    have hop : ¬ Operation.judgeFor reporter e = .reset := nofun
    rw [if_neg hop, perform]
    cases s.reporterPanel? reporter <;> rfl
  | reset => rfl

/-- Nothing that a response shows is state that a reset clears. -/
theorem perform_snd_reset (s : Scope α ρ ω) (op : Operation) :
    (s.reset.perform op).2 = (s.perform op).2 := by
  cases op with
  | judge e => rfl
  | judgeFor reporter e =>
    simp only [perform, reporterPanel?_reset]
    cases s.reporterPanel? reporter <;> rfl
  | reset => rfl

/-- So the response to an operation does not depend on the operation before it. -/
theorem perform_snd_perform (s : Scope α ρ ω) (op next : Operation) :
    ((s.perform op).1.perform next).2 = (s.perform next).2 := by
  rw [perform_fst]
  split
  · exact perform_snd_reset s next
  · rfl

theorem verdict_perform (s : Scope α ρ ω) (op : Operation) :
    (s.perform op).2.verdict = s.verdict? op := by
  cases op with
  | judge e => rfl
  | judgeFor reporter e =>
    simp only [perform, verdict?, acceptsFor?]
    cases s.reporterPanel? reporter <;> rfl
  | reset => rfl

/-- Every observer is told what there is to tell. -/
theorem deliveries_perform (s : Scope α ρ ω) (op : Operation) :
    (s.perform op).2.deliveries = (s.notice? op).toList.flatMap (Delivery.toAll s.observers) := by
  cases op with
  | judge e => exact (List.flatMap_singleton _ _).symm
  | judgeFor reporter e =>
    simp only [perform, notice?, acceptsFor?]
    cases s.reporterPanel? reporter with
    | none => rfl
    | some p => exact (List.flatMap_singleton _ _).symm
  | reset => exact (List.flatMap_singleton _ _).symm

/-! ## Runs -/

theorem run_fst (s : Scope α ρ ω) (ops : List Operation) :
    (s.run ops).1 = Scope.reset^[ops.count .reset] s := by
  induction ops generalizing s with
  | nil => rfl
  | cons op ops ih =>
    have hrest : (s.run (op :: ops)).1 = ((s.perform op).1.run ops).1 := rfl
    rw [hrest, ih, perform_fst, List.count_cons]
    by_cases hop : op = .reset
    · rw [if_pos hop, hop, beq_self_eq_true, if_pos rfl, Function.iterate_succ_apply]
    · rw [if_neg hop, beq_false_of_ne hop, if_neg Bool.false_ne_true, Nat.add_zero]

theorem run_snd (s : Scope α ρ ω) (ops : List Operation) :
    (s.run ops).2 = ops.map fun op => (s.perform op).2 := by
  induction ops generalizing s with
  | nil => rfl
  | cons op ops ih =>
    have hrest : (s.run (op :: ops)).2 = (s.perform op).2 :: ((s.perform op).1.run ops).2 := rfl
    rw [hrest, ih, List.map_cons]
    simp only [perform_snd_perform]

end Scope

namespace Delivery

variable {ω : Type}

theorem getElem?_toAll (observers : List (Observer ω)) (notice : Notice) (k : Fin observers.length) :
    (toAll observers notice)[(k : Nat)]? = some ⟨observers[k], notice⟩ := by
  rw [toAll, List.getElem?_map, List.getElem?_eq_getElem k.isLt]
  rfl

/-- An observer receives a notice as often as it is listed. -/
theorem received_toAll [DecidableEq ω] (observers : List (Observer ω)) (notice : Notice)
    (observer : Observer ω) :
    received (toAll observers notice) observer =
      List.replicate (observers.count observer) notice := by
  have hlisted : (fun d : Delivery ω => decide (d.observer = observer)) ∘
      (fun observer => ⟨observer, notice⟩) = fun listed => decide (listed = observer) := rfl
  rw [received, toAll, List.filter_map, hlisted, List.filter_eq, List.map_map, List.map_replicate]
  rfl

theorem received_flatMap [DecidableEq ω] {β : Type} (f : β → List (Delivery ω)) (bs : List β)
    (observer : Observer ω) :
    received (bs.flatMap f) observer = bs.flatMap fun b => received (f b) observer := by
  rw [received, List.filter_flatMap, List.map_flatMap]
  rfl

end Delivery

namespace Scope

variable {α ρ ω : Type} [Resettable α] [Resettable ρ]

/-- What reaches a place in the list of observers: every notice, once and in order. -/
theorem run_deliveries_at (s : Scope α ρ ω) (ops : List Operation) (k : Fin s.observers.length) :
    (s.run ops).2.filterMap (fun response => response.deliveries[(k : Nat)]?) =
      (ops.filterMap s.notice?).map fun notice => ⟨s.observers[k], notice⟩ := by
  have hat (op : Operation) : (s.perform op).2.deliveries[(k : Nat)]? =
      (s.notice? op).map fun notice => ⟨s.observers[k], notice⟩ := by
    rw [deliveries_perform]
    cases s.notice? op with
    | none => rfl
    | some notice =>
      rw [Option.toList_some, List.flatMap_singleton, Delivery.getElem?_toAll, Option.map_some]
  rw [run_snd, List.filterMap_map, List.map_filterMap]
  exact List.filterMap_congr fun op _ => hat op

theorem run_deliveries (s : Scope α ρ ω) (ops : List Operation) :
    (s.run ops).2.flatMap Response.deliveries =
      (ops.filterMap s.notice?).flatMap (Delivery.toAll s.observers) := by
  rw [run_snd, List.flatMap_map, List.filterMap_eq_flatMap_toList, List.flatMap_assoc]
  simp only [deliveries_perform]

/-- **Runs clear state and nothing else.** Whatever operations a run performs, each is answered as
the scope would have answered it at the start; approaches and reporters have been cleared once for
each reset and the rest is as it was; and every observer, in each place where it is listed, has
received one notice for each operation of which there is something to tell, in order. -/
theorem run_keeps_policies [DecidableEq ω] (s : Scope α ρ ω) (ops : List Operation) :
    Cleared (ops.count .reset) s (s.run ops).1 ∧
      (s.run ops).2.map Response.verdict = ops.map s.verdict? ∧
      (∀ k : Fin s.observers.length,
        (s.run ops).2.filterMap (fun response => response.deliveries[(k : Nat)]?) =
          (ops.filterMap s.notice?).map fun notice => ⟨s.observers[k], notice⟩) ∧
      ∀ observer, Delivery.received ((s.run ops).2.flatMap Response.deliveries) observer =
        (ops.filterMap s.notice?).flatMap (List.replicate (s.observers.count observer)) := by
  refine ⟨?_, ?_, run_deliveries_at s ops, ?_⟩
  · rw [run_fst]
    exact cleared_iterate s _
  · rw [run_snd, List.map_map]
    exact List.map_congr_left fun op _ => verdict_perform s op
  · intro observer
    rw [run_deliveries, Delivery.received_flatMap]
    simp only [Delivery.received_toAll]

end Scope

end DiscoveryFilter
