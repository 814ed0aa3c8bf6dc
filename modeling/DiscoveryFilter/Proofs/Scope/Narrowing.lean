import DiscoveryFilter.Proofs.Scope.Layers

/-!
# What narrowing keeps of the default policy

A reporter's own acceptors join the default ones under names made from the reporter's name. Where
such a name is taken already, the default acceptor is displaced, and with it goes what it rejects:
this is the one way in which a reporter can accept an entity that its scope rejects. The caller's
acceptors for the reporter itself are left out here.
-/

namespace DiscoveryFilter

namespace Panel

/-- The acceptor stands in the default panel under a name that one of the reporter's own acceptors
takes. -/
def Displaced (default own : Panel) (reporter : String) (acceptor : Acceptor) : Prop :=
  ∃ tag, (own.get? tag).isSome = true ∧
    default.get? (Setup.reporterAcceptorName reporter tag) = some acceptor

/-- A panel narrowed by a reporter's own acceptors. -/
def narrowed (default own : Panel) (reporter : String) : Panel :=
  default.overlay (own.renamed (Setup.reporterAcceptorName reporter))

variable {default own : Panel} {reporter : String}

theorem get?_narrowed_own (tag : String) :
    (default.narrowed own reporter).get? (Setup.reporterAcceptorName reporter tag) =
      (own.get? tag).or (default.get? (Setup.reporterAcceptorName reporter tag)) := by
  rw [narrowed, get?_overlay, get?_renamed (Setup.reporterAcceptorName_injective reporter)]

/-- Under a name that no own acceptor takes, the default acceptor stays. -/
theorem get?_narrowed_of_forall {name : String}
    (h : ∀ tag, Setup.reporterAcceptorName reporter tag = name → own.get? tag = none) :
    (default.narrowed own reporter).get? name = default.get? name := by
  by_cases htag : ∃ tag, Setup.reporterAcceptorName reporter tag = name
  · obtain ⟨tag, rfl⟩ := htag
    rw [get?_narrowed_own, h tag rfl, Option.none_or]
  · rw [narrowed, get?_overlay, get?_renamed_of_forall_ne (not_exists.1 htag), Option.none_or]

/-- Narrowing keeps every default acceptor exactly when own acceptors displace only themselves. -/
theorem narrowed_keeps_iff :
    (∀ name acceptor, default.get? name = some acceptor →
      (default.narrowed own reporter).get? name = some acceptor) ↔
      ∀ tag mine acceptor, own.get? tag = some mine →
        default.get? (Setup.reporterAcceptorName reporter tag) = some acceptor → mine = acceptor := by
  constructor
  · intro hkeep tag mine acceptor hmine hdefault
    have hkept := hkeep _ acceptor hdefault
    rw [get?_narrowed_own, hmine, Option.some_or] at hkept
    exact Option.some.inj hkept
  · intro hsame name acceptor hdefault
    by_cases htaken : ∃ tag, Setup.reporterAcceptorName reporter tag = name ∧ own.get? tag ≠ none
    · obtain ⟨tag, rfl, hown⟩ := htaken
      obtain ⟨mine, hmine⟩ := Option.ne_none_iff_exists'.1 hown
      rw [get?_narrowed_own, hmine, Option.some_or, hsame tag mine acceptor hmine hdefault]
    · rw [get?_narrowed_of_forall, hdefault]
      intro tag htag
      by_contra hown
      exact htaken ⟨tag, htag, hown⟩

/-- Of the entities that the narrowed panel accepts, the default panel accepts those that no
displaced acceptor rejects. -/
theorem accepts_iff_of_narrowed {e : Entity}
    (h : (default.narrowed own reporter).accepts e = true) :
    default.accepts e = true ↔
      ∀ acceptor, Displaced default own reporter acceptor → acceptor.rejects e = false := by
  rw [accepts_iff] at h
  rw [accepts_iff]
  constructor
  · rintro hall acceptor ⟨tag, -, hdefault⟩
    exact hall _ acceptor hdefault
  · intro hdisplaced name acceptor hdefault
    by_cases htaken : ∃ tag, Setup.reporterAcceptorName reporter tag = name ∧ own.get? tag ≠ none
    · obtain ⟨tag, rfl, hown⟩ := htaken
      exact hdisplaced acceptor ⟨tag, Option.isSome_iff_ne_none.2 hown, hdefault⟩
    · refine h name acceptor ?_
      rw [get?_narrowed_of_forall, hdefault]
      intro tag htag
      by_contra hown
      exact htaken ⟨tag, htag, hown⟩

/-- Where no acceptor is displaced, an entity must please both panels. -/
theorem narrowed_accepts_iff (hkept : ∀ acceptor, ¬ Displaced default own reporter acceptor)
    {e : Entity} : (default.narrowed own reporter).accepts e = true ↔
      default.accepts e = true ∧ own.accepts e = true := by
  constructor
  · intro h
    have hdefault : default.accepts e = true := by
      rw [accepts_iff_of_narrowed h]
      intro acceptor hd
      exact absurd hd (hkept acceptor)
    refine ⟨hdefault, ?_⟩
    rw [accepts_iff] at h ⊢
    intro tag mine hmine
    refine h (Setup.reporterAcceptorName reporter tag) mine ?_
    rw [get?_narrowed_own, hmine, Option.some_or]
  · rintro ⟨hdefault, hown⟩
    rw [accepts_iff] at hdefault hown ⊢
    intro name acceptor hname
    rw [narrowed, get?_overlay] at hname
    cases hrenamed : (own.renamed (Setup.reporterAcceptorName reporter)).get? name with
    | none =>
      rw [hrenamed, Option.none_or] at hname
      exact hdefault name acceptor hname
    | some mine =>
      rw [hrenamed, Option.some_or] at hname
      obtain rfl := Option.some.inj hname
      by_cases htag : ∃ tag, Setup.reporterAcceptorName reporter tag = name
      · obtain ⟨tag, rfl⟩ := htag
        rw [get?_renamed (Setup.reporterAcceptorName_injective reporter)] at hrenamed
        exact hown tag mine hrenamed
      · rw [get?_renamed_of_forall_ne (not_exists.1 htag)] at hrenamed
        cases hrenamed

end Panel

namespace Setup

variable {α ρ ω : Type} {s : Setup α ρ ω} {e : Element} {scope : Scope α ρ ω}

/-- The names that narrowing makes are none without a colon. -/
theorem reporterAcceptorName_ne {name : String} (h : ':' ∉ name.toList) (reporter tag : String) :
    reporterAcceptorName reporter tag ≠ name := by
  rintro rfl
  refine h ?_
  simp [reporterAcceptorName]

/-- A displaced acceptor is there because an acceptor plugin or an acceptor of the caller bears a
name of the form that narrowing makes. -/
theorem name_of_displaced {own : Panel} {reporter : String} {acceptor : Acceptor}
    (h : Layered s e scope) (hd : Panel.Displaced scope.acceptors own reporter acceptor) :
    ∃ tag, (own.get? tag).isSome = true ∧
      ((s.catalog.acceptors.get? (reporterAcceptorName reporter tag)).isSome = true ∨
        s.overrides.acceptors[reporterAcceptorName reporter tag]? = some acceptor) := by
  obtain ⟨tag, hown, hdefault⟩ := hd
  obtain ⟨p, hp, hacceptors⟩ := h.acceptors
  refine ⟨tag, hown, ?_⟩
  rw [hacceptors, Panel.get?_overlay] at hdefault
  cases hover : s.overrides.acceptors[reporterAcceptorName reporter tag]? with
  | some caller =>
    have hget : (Panel.mk s.overrides.acceptors).get? (reporterAcceptorName reporter tag) =
      some caller := hover
    rw [hget, Option.some_or] at hdefault
    exact .inr hdefault
  | none =>
    have hget : (Panel.mk s.overrides.acceptors).get? (reporterAcceptorName reporter tag) = none :=
      hover
    rw [hget, Option.none_or] at hdefault
    left
    split at hdefault
    · rw [Panel.get?_insert, Panel.get?_empty,
        if_neg (reporterAcceptorName_ne (by decide) reporter tag).symm] at hdefault
      cases hdefault
    · cases hf : defaultFiltering? e with
      | none =>
        rw [hf] at hp
        obtain rfl := Except.ok.inj hp
        rw [Panel.get?_empty] at hdefault
        cases hdefault
      | some filtering =>
        rw [hf] at hp
        exact AcceptorRegistry.contains_of_get?_buildPanel hp hdefault

/-- What a reporter for which the caller gave no acceptor keeps of the default policy, if `own` is
the panel of its own acceptors. -/
structure Keeps (s : Setup α ρ ω) (scope : Scope α ρ ω) (reporter : String) (slot : Slot ρ)
    (own : Panel) : Prop where
  /-- Every default acceptor is kept exactly when own acceptors displace only themselves. -/
  keeps_iff : (∀ name acceptor, scope.acceptors.get? name = some acceptor →
      slot.acceptors.get? name = some acceptor) ↔
    ∀ tag mine acceptor, own.get? tag = some mine →
      scope.acceptors.get? (reporterAcceptorName reporter tag) = some acceptor → mine = acceptor
  /-- Of the entities that the reporter accepts, the scope accepts those that no displaced acceptor
  rejects. -/
  accepts_iff : ∀ entity, scope.acceptsFor? reporter entity = some true →
    (scope.accepts entity = true ↔
      ∀ acceptor, Panel.Displaced scope.acceptors own reporter acceptor →
        acceptor.rejects entity = false)
  /-- Acceptors are displaced only where a registered acceptor plugin, or an acceptor of the
  caller's, has the name that narrowing makes. -/
  name_of_displaced : ∀ acceptor, Panel.Displaced scope.acceptors own reporter acceptor →
    ∃ tag, (own.get? tag).isSome = true ∧
      ((s.catalog.acceptors.get? (reporterAcceptorName reporter tag)).isSome = true ∨
        s.overrides.acceptors[reporterAcceptorName reporter tag]? = some acceptor)

/-- **What a reporter can accept beyond its scope.** A reporter for which the caller gave no
acceptor accepts an entity that the scope rejects exactly if a displaced acceptor rejects it. -/
theorem keeps_of_load (h : (s.load e).outcome = .ok scope) {reporter : String}
    (hno : s.overrides.reporters[reporter]? = none) {slot : Slot ρ}
    (hslot : scope.reporters.get? reporter = some slot) :
    ∃ d own,
      ((heldItems e reportingTag reporterTag).filter fun d => d.name? == some reporter).getLast? =
        some d ∧
      s.panelOf (ownFiltering d) = .ok own ∧ Keeps s scope reporter slot own := by
  have hlayers := Layered.of_load h
  obtain ⟨d, own, hlast, -, hown, hacceptors⟩ := hlayers.slot reporter slot hslot
  have hpanel : slot.acceptors = scope.acceptors.narrowed own reporter := by
    rw [hacceptors, Overrides.panelFor, hno]
    exact overlay_empty _
  refine ⟨d, own, hlast, hown, ?_, ?_, fun acceptor => name_of_displaced hlayers⟩
  · rw [hpanel]
    exact Panel.narrowed_keeps_iff
  · intro entity hentity
    rw [Scope.acceptsFor?, Scope.reporterPanel?, hslot] at hentity
    refine Panel.accepts_iff_of_narrowed ?_
    rw [← hpanel]
    exact Option.some.inj hentity

end Setup

namespace Sample

theorem exists_audit : ∃ scope slot, (setup.load lab).outcome = .ok scope ∧
    scope.reporters.get? "audit" = some slot := by
  have hsome : ((setup.load lab).outcome.toOption.map fun scope =>
      (scope.reporters.get? "audit").isSome) = some true := by
    decide +kernel
  obtain ⟨scope, h⟩ := exists_load
  rw [h] at hsome
  obtain ⟨slot, hslot⟩ := Option.isSome_iff_exists.1 (Option.some.inj hsome)
  exact ⟨scope, slot, h, hslot⟩

theorem keeps_of_load_lab : ∃ scope slot d own, (setup.load lab).outcome = .ok scope ∧
    setup.overrides.reporters["audit"]? = none ∧ scope.reporters.get? "audit" = some slot ∧
    ((Setup.heldItems lab Setup.reportingTag Setup.reporterTag).filter
      fun d => d.name? == some "audit").getLast? = some d ∧
    setup.panelOf (Setup.ownFiltering d) = .ok own ∧
    Setup.Keeps setup scope "audit" slot own := by
  obtain ⟨scope, slot, h, hslot⟩ := exists_audit
  have hno : setup.overrides.reporters["audit"]? = none := by decide +kernel
  obtain ⟨d, own, hlast, hown, hkeeps⟩ := Setup.keeps_of_load h hno hslot
  exact ⟨scope, slot, d, own, h, hno, hslot, hlast, hown, hkeeps⟩

/-- A reporter for which the caller gave no acceptor accepts a node that its scope rejects. -/
theorem audit_accepts_beyond_lab : ∃ scope, (setup.load lab).outcome = .ok scope ∧
    setup.overrides.reporters["audit"]? = none ∧
    scope.acceptsFor? "audit" insider = some true ∧ scope.accepts insider = false := by
  have hverdicts : ((setup.load lab).outcome.toOption.map fun scope =>
      (scope.acceptsFor? "audit" insider, scope.accepts insider)) = some (some true, false) := by
    decide +kernel
  obtain ⟨scope, h⟩ := exists_load
  rw [h] at hverdicts
  obtain ⟨haudit, hlab⟩ := Prod.ext_iff.1 (Option.some.inj hverdicts)
  exact ⟨scope, h, by decide +kernel, haudit, hlab⟩

end Sample

end DiscoveryFilter
