import DiscoveryFilter.Panel

/-!
# Panels with one more criterion

One more criterion to exclude lets a panel accept less, one more to include lets it accept more.
There is one exception: a criterion that needs roles takes from a range policy its opinion on nodes
without a role, so that the panel may accept such a node although the criterion is to exclude.
-/

namespace DiscoveryFilter

/-- The entity is a node whose role is unknown. -/
def Entity.IsRoleless : Entity → Prop
  | .node n => n.role = none
  | .endpoint _ => False

namespace RangePolicy

variable (p : RangePolicy) (c : Criterion) (n : Node)

/-- The policy with one more criterion to include. -/
def alsoIncluding : RangePolicy :=
  ⟨p.includes ++ [c], p.excludes⟩

/-- The policy with one more criterion to exclude. -/
def alsoExcluding : RangePolicy :=
  ⟨p.includes, p.excludes ++ [c]⟩

@[simp] theorem isRoleSensitive_alsoIncluding :
    (p.alsoIncluding c).isRoleSensitive = (p.isRoleSensitive || c.isRoleSensitive) := by
  simp only [isRoleSensitive, alsoIncluding, List.any_append, List.any_cons, List.any_nil,
    Bool.or_false]
  exact Bool.or_right_comm _ _ _

@[simp] theorem isRoleSensitive_alsoExcluding :
    (p.alsoExcluding c).isRoleSensitive = (p.isRoleSensitive || c.isRoleSensitive) := by
  simp [isRoleSensitive, alsoExcluding, Bool.or_assoc]

theorem acceptsNode_alsoIncluding :
    (p.alsoIncluding c).acceptsNode n =
      (p.acceptsNode n || !(p.excludes.any fun c => c.holds n) && c.holds n) := by
  simp [acceptsNode, alsoIncluding, Bool.and_or_distrib_left]

theorem acceptsNode_alsoExcluding :
    (p.alsoExcluding c).acceptsNode n = (p.acceptsNode n && !c.holds n) := by
  simp [acceptsNode, alsoExcluding, Bool.and_right_comm]

end RangePolicy

namespace Acceptor

variable {policy : RangePolicy} {c : Criterion} {e : Entity}

/-- What an acceptor does not reject with a further criterion to exclude it does not reject
without. -/
theorem not_rejects_of_alsoExcluding (he : ¬ e.IsRoleless)
    (h : (range (policy.alsoExcluding c)).rejects e = false) : (range policy).rejects e = false := by
  cases e with
  | endpoint p => rfl
  | node n =>
    have hrole : n.role.isSome = true := Option.isSome_iff_ne_none.2 he
    simp only [rejects_range_node, hrole, Bool.true_or, Bool.true_and, Bool.not_eq_false',
      RangePolicy.acceptsNode_alsoExcluding, Bool.and_eq_true] at h ⊢
    exact h.1

/-- What an acceptor does not reject it does not reject with a further criterion to include. -/
theorem not_rejects_alsoIncluding (h : (range policy).rejects e = false) :
    (range (policy.alsoIncluding c)).rejects e = false := by
  cases e with
  | endpoint p => rfl
  | node n =>
    simp only [rejects_range_node, RangePolicy.isRoleSensitive_alsoIncluding,
      RangePolicy.acceptsNode_alsoIncluding, Bool.and_eq_false_iff, Bool.or_eq_false_iff,
      Bool.not_eq_false', Bool.or_eq_true] at h ⊢
    rcases h with ⟨hrole, hroles⟩ | hnode
    · exact .inl ⟨hrole, .inl hroles⟩
    · exact .inr (.inl hnode)

/-- On a node without a role, a further criterion to exclude takes a rejection back only by taking
back the opinion. -/
theorem rejection_withdrawn_iff (he : e.IsRoleless) :
    (range (policy.alsoExcluding c)).rejects e = false ∧ (range policy).rejects e = true ↔
      c.isRoleSensitive = true ∧ policy.isRoleSensitive = false ∧ policy.accepts e = false := by
  cases e with
  | endpoint p => cases he
  | node n =>
    have hrole : n.role = none := he
    rw [rejects_range_node, rejects_range_node, hrole, RangePolicy.isRoleSensitive_alsoExcluding,
      RangePolicy.acceptsNode_alsoExcluding, RangePolicy.accepts]
    -- More to exclude never makes the policy accept the node, so only its opinion can go.
    cases policy.isRoleSensitive <;> cases policy.acceptsNode n <;> simp

end Acceptor

namespace Panel

variable {p : Panel} {name : String} {e : Entity}

/-- No acceptor but the one of the given name has an opinion against the entity. -/
def OthersAccept (p : Panel) (name : String) (e : Entity) : Prop :=
  ∀ other acceptor, other ≠ name → p.get? other = some acceptor →
    acceptor.isApplicable e = true → acceptor.accepts e = true

theorem accepts_insert_iff {acceptor : Acceptor} :
    (p.insert name acceptor).accepts e = true ↔
      acceptor.rejects e = false ∧ p.OthersAccept name e := by
  rw [accepts_iff]
  constructor
  · intro h
    refine ⟨h name acceptor (by simp), ?_⟩
    intro other acceptor' hne hget
    rw [← Acceptor.rejects_eq_false_iff]
    apply h other acceptor'
    rw [get?_insert, if_neg hne.symm, hget]
  · rintro ⟨hself, hothers⟩ other acceptor' hget
    rw [get?_insert] at hget
    split at hget
    · obtain rfl := Option.some.inj hget
      exact hself
    · next hne =>
      rw [Acceptor.rejects_eq_false_iff]
      exact hothers other acceptor' (Ne.symm hne) hget

theorem insert_of_get? {acceptor : Acceptor} (h : p.get? name = some acceptor) :
    p.insert name acceptor = p := by
  apply ext_get?
  intro other
  rw [get?_insert]
  split
  · next heq => rw [← heq, h]
  · rfl

/-- The verdict of a panel told by one of its acceptors and the others. -/
theorem accepts_iff_of_get? {acceptor : Acceptor} (h : p.get? name = some acceptor) :
    p.accepts e = true ↔ acceptor.rejects e = false ∧ p.OthersAccept name e := by
  rw [← accepts_insert_iff, insert_of_get? h]

/-- Another acceptor under the name keeps what the panel accepts if it rejects no more. -/
theorem accepts_insert_of_accepts {old new : Acceptor} (h : p.get? name = some old)
    (hnew : old.rejects e = false → new.rejects e = false) (haccepts : p.accepts e = true) :
    (p.insert name new).accepts e = true := by
  obtain ⟨hold, hothers⟩ := (accepts_iff_of_get? h).1 haccepts
  exact accepts_insert_iff.2 ⟨hnew hold, hothers⟩

/-- Another acceptor under the name lets the panel accept what it did not if the acceptor that was
there was the only one to reject it. -/
theorem newly_accepts_insert_iff {old new : Acceptor} (h : p.get? name = some old) :
    (p.insert name new).accepts e = true ∧ p.accepts e = false ↔
      (new.rejects e = false ∧ old.rejects e = true) ∧ p.OthersAccept name e := by
  rw [← Bool.not_eq_true (p.accepts e), accepts_insert_iff, accepts_iff_of_get? h,
    ← Bool.not_eq_false (old.rejects e)]
  constructor
  · rintro ⟨⟨hnew, hothers⟩, hrejected⟩
    exact ⟨⟨hnew, fun hold => hrejected ⟨hold, hothers⟩⟩, hothers⟩
  · rintro ⟨⟨hnew, hold⟩, hothers⟩
    exact ⟨⟨hnew, hothers⟩, fun haccepts => hold haccepts.1⟩

/-- **One more criterion.** Excluding more, a panel accepts no further entity but a node without a
role, and such a node exactly if the new criterion is the first to need roles and the policy alone
rejected the node. Including more, it accepts whatever it accepted. -/
theorem accepts_with_criterion {policy : RangePolicy} (h : p.get? name = some (.range policy))
    (c : Criterion) (e : Entity) :
    (¬ e.IsRoleless → (p.insert name (.range (policy.alsoExcluding c))).accepts e = true →
        p.accepts e = true) ∧
      (e.IsRoleless →
        ((p.insert name (.range (policy.alsoExcluding c))).accepts e = true ∧
            p.accepts e = false ↔
          c.isRoleSensitive = true ∧
            (∀ c' ∈ policy.includes ++ policy.excludes, c'.isRoleSensitive = false) ∧
            policy.accepts e = false ∧ p.OthersAccept name e)) ∧
      (p.accepts e = true → (p.insert name (.range (policy.alsoIncluding c))).accepts e = true) := by
  refine ⟨fun he haccepts => ?_, fun he => ?_, ?_⟩
  · obtain ⟨hpasses, hothers⟩ := accepts_insert_iff.1 haccepts
    exact (accepts_iff_of_get? h).2 ⟨Acceptor.not_rejects_of_alsoExcluding he hpasses, hothers⟩
  · rw [newly_accepts_insert_iff h, Acceptor.rejection_withdrawn_iff he,
      RangePolicy.isRoleSensitive_eq_false_iff, and_assoc, and_assoc]
  · exact accepts_insert_of_accepts h Acceptor.not_rejects_alsoIncluding

end Panel

namespace Sample

/-- A policy for the addresses of one span. -/
def fence : RangePolicy :=
  ⟨[.within ⟨[.span ⟨⟨10, 0, 0, 0⟩, ⟨10, 0, 255, 255⟩⟩]⟩], []⟩

/-- The policy next to one that selects no port. -/
def fenced : Panel :=
  (Panel.empty.insert "ranges" (.range fence)).insert "services" (.service ⟨.empty, .empty, ∅⟩)

/-- A node with another address, without a role. -/
def stranger : Node :=
  ⟨.v4 ⟨8, 8, 8, 8⟩, none⟩

theorem get?_fenced {name : String} {acceptor : Acceptor} :
    fenced.get? name = some acceptor ↔
      name = "services" ∧ acceptor = .service ⟨.empty, .empty, ∅⟩ ∨
        name = "ranges" ∧ acceptor = .range fence := by
  rw [fenced, Panel.get?_insert, Panel.get?_insert, Panel.get?_empty]
  by_cases hservices : "services" = name
  · subst hservices
    simp [eq_comm]
  · by_cases hranges : "ranges" = name
    · subst hranges
      simp [eq_comm]
    · simp [hservices, hranges, Ne.symm hservices, Ne.symm hranges]

/-- Excluding the clients outside the domain lets the panel accept the stranger. -/
theorem accepts_with_criterion_stranger :
    fenced.get? "ranges" = some (.range fence) ∧ (Entity.node stranger).IsRoleless ∧
    (fenced.insert "ranges" (.range (fence.alsoExcluding (.outscopeClients fun _ => true)))).accepts
      (.node stranger) = true ∧
    fenced.accepts (.node stranger) = false := by
  have hget : fenced.get? "ranges" = some (.range fence) := get?_fenced.2 (.inr ⟨rfl, rfl⟩)
  obtain ⟨-, hroleless, -⟩ :=
    Panel.accepts_with_criterion hget (.outscopeClients fun _ => true) (.node stranger)
  refine ⟨hget, rfl, (hroleless rfl).2 ⟨rfl, ?_, by decide, ?_⟩⟩
  · simp [fence, Criterion.isRoleSensitive]
  · intro other acceptor hne hother happlicable
    rcases get?_fenced.1 hother with ⟨-, rfl⟩ | ⟨hranges, -⟩
    · cases happlicable
    · exact absurd hranges hne

end Sample

end DiscoveryFilter
