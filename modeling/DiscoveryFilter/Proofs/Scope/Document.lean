import DiscoveryFilter.Proofs.Keyed
import DiscoveryFilter.Proofs.Log.FirstFailure
import DiscoveryFilter.Scope.Setup

/-!
# Loading a document

The scopes of a document are loaded one after the other, and the loop knows the scopes before.
Whether it stops at a scope element, and with which error, can nevertheless be told from the
elements up to there, as `Setup.Refuses` does. `Setup.loadAll_all_or_nothing` says that a document
loads to all its scopes, or fails with the error of the first element that is refused.
-/

namespace DiscoveryFilter

namespace Setup

variable {α ρ ω : Type} {s : Setup α ρ ω}

/-- The element that holds the scopes of a document: the document itself, or else its first child
of that tag that counts. -/
def HoldsScopes (root holder : Element) : Prop :=
  if root.tag = "scopes" then holder = root else root.element? "scopes" = some holder

/-- The scope element loads to the scope. -/
def Loads (s : Setup α ρ ω) (d : Element) (scope : Scope α ρ ω) : Prop :=
  (s.load d).outcome = .ok scope

/-- The scope element at a place is refused: it does not load, or it loads to a scope whose name is
that of a scope before it. -/
inductive Refuses (s : Setup α ρ ω) (ds : List Element) (i : Nat) : LoadError → Prop
  | fails {d : Element} {error : LoadError} :
    ds[i]? = some d → (s.load d).outcome = .error error → Refuses s ds i error
  | repeats {d earlier : Element} {scope other : Scope α ρ ω} :
    ds[i]? = some d → s.Loads d scope → earlier ∈ ds.take i → s.Loads earlier other →
      other.name = scope.name → Refuses s ds i (.duplicateScope scope.name)

theorem holdsScopes_iff {root holder : Element} :
    HoldsScopes root holder ↔ scopesElement? root = some holder := by
  unfold HoldsScopes scopesElement? scopesTag
  split
  · rw [Option.some.injEq, eq_comm]
  · exact Iff.rfl

theorem loadNext_eq_ok_iff {loaded next : List (Scope α ρ ω)} {d : Element} :
    (s.loadNext loaded d).outcome = .ok next ↔
      ∃ scope, s.Loads d scope ∧ scope.name ∉ loaded.map Scope.name ∧ next = loaded ++ [scope] := by
  unfold loadNext
  rw [Traced.outcome_bind_eq_ok_iff]
  refine exists_congr fun scope => and_congr_right fun _ => ?_
  by_cases hname : scope.name ∈ loaded.map Scope.name
  · simp [hname]
  · simp [hname, eq_comm (a := next)]

theorem loadNext_eq_error_iff {loaded : List (Scope α ρ ω)} {d : Element} {error : LoadError} :
    (s.loadNext loaded d).outcome = .error error ↔
      (s.load d).outcome = .error error ∨
        ∃ scope, s.Loads d scope ∧ scope.name ∈ loaded.map Scope.name ∧
          .duplicateScope scope.name = error := by
  unfold loadNext
  rw [Traced.outcome_bind_eq_error_iff]
  refine or_congr Iff.rfl (exists_congr fun scope => and_congr_right fun _ => ?_)
  by_cases hname : scope.name ∈ loaded.map Scope.name
  · simp [hname, Traced.outcome_map]
  · simp [hname]

/-- A loop adds the scopes of its elements to those with which it starts, if no name comes twice. -/
theorem foldlM_loadNext_eq_ok_iff {loaded all : List (Scope α ρ ω)} {ds : List Element}
    (hloaded : (loaded.map Scope.name).Nodup) :
    ds.foldlM (fun loaded d => (s.loadNext loaded d).outcome) loaded = .ok all ↔
      ∃ scopes, List.Forall₂ s.Loads ds scopes ∧ (all.map Scope.name).Nodup ∧
        all = loaded ++ scopes := by
  induction ds generalizing loaded with
  | nil =>
    constructor
    · intro h
      obtain rfl := Except.ok.inj h
      exact ⟨[], .nil, hloaded, (List.append_nil _).symm⟩
    · rintro ⟨scopes, hscopes, -, rfl⟩
      cases hscopes
      rw [List.append_nil]
      rfl
  | cons d ds ih =>
    rw [List.foldlM_cons, bind_eq_ok_iff]
    constructor
    · rintro ⟨next, hnext, hrest⟩
      obtain ⟨scope, hscope, hnew, rfl⟩ := loadNext_eq_ok_iff.1 hnext
      have hnames : ((loaded ++ [scope]).map Scope.name).Nodup := by
        rw [List.map_append, List.map_singleton, ← List.concat_eq_append]
        exact hloaded.concat hnew
      obtain ⟨scopes, hscopes, hnodup, rfl⟩ := (ih hnames).1 hrest
      exact ⟨scope :: scopes, .cons hscope hscopes, hnodup, List.append_assoc ..⟩
    · rintro ⟨_, hscopes, hnodup, rfl⟩
      cases hscopes with
      | @cons _ scope _ scopes hscope hscopes =>
        have hnames : ((loaded ++ [scope]).map Scope.name).Nodup := by
          rw [← List.singleton_append, ← List.append_assoc, List.map_append] at hnodup
          exact hnodup.of_append_left
        have hnew : scope.name ∉ loaded.map Scope.name := by
          rw [List.map_append] at hnames
          exact fun h => List.disjoint_of_nodup_append hnames h (List.mem_singleton_self _)
        exact ⟨loaded ++ [scope], loadNext_eq_ok_iff.2 ⟨scope, hscope, hnew, rfl⟩,
          (ih hnames).2 ⟨scopes, hscopes, hnodup, (List.append_assoc loaded [scope] scopes).symm⟩⟩

/-- The scopes of a list of elements, if all of them load and no name comes twice. -/
theorem loop_eq_ok_iff {ds : List Element} {scopes : List (Scope α ρ ω)} :
    ds.foldlM (fun loaded d => (s.loadNext loaded d).outcome) [] = .ok scopes ↔
      List.Forall₂ s.Loads ds scopes ∧ (scopes.map Scope.name).Nodup := by
  have hnil : (([] : List (Scope α ρ ω)).map Scope.name).Nodup := List.nodup_nil
  rw [foldlM_loadNext_eq_ok_iff hnil]
  constructor
  · rintro ⟨_, hscopes, hnodup, rfl⟩
    exact ⟨hscopes, hnodup⟩
  · rintro ⟨hscopes, hnodup⟩
    exact ⟨scopes, hscopes, hnodup, rfl⟩

/-- Once the elements before a place have loaded, the loop stops there with the errors with which
the element is refused. -/
theorem loadNext_eq_error_iff_refuses {ds : List Element} {i : Nat} {d : Element}
    {loaded : List (Scope α ρ ω)} (hd : ds[i]? = some d)
    (hloaded : List.Forall₂ s.Loads (ds.take i) loaded) {error : LoadError} :
    (s.loadNext loaded d).outcome = .error error ↔ s.Refuses ds i error := by
  rw [loadNext_eq_error_iff]
  constructor
  · rintro (hfails | ⟨scope, hscope, hname, rfl⟩)
    · exact .fails hd hfails
    · obtain ⟨other, hother, hsame⟩ := List.mem_map.1 hname
      obtain ⟨earlier, hearlier, hloads⟩ := exists_mem_of_forall₂ hloaded hother
      exact .repeats hd hscope hearlier hloads hsame
  · rintro (⟨hd', hfails⟩ | ⟨hd', hscope, hearlier, hother, hsame⟩)
    · obtain rfl := Option.some.inj (hd.symm.trans hd')
      exact .inl hfails
    · obtain rfl := Option.some.inj (hd.symm.trans hd')
      obtain ⟨other', hmem, hother'⟩ := exists_mem_of_forall₂ hloaded.flip hearlier
      obtain rfl := Except.ok.inj (hother.symm.trans hother')
      exact .inr ⟨_, hscope, hsame ▸ List.mem_map_of_mem hmem, rfl⟩

/-- The loop fails with the error of the first element that is refused. -/
theorem loop_eq_error_iff {ds : List Element} {error : LoadError} :
    ds.foldlM (fun loaded d => (s.loadNext loaded d).outcome) [] = .error error ↔
      ∃ i, s.Refuses ds i error ∧ ∀ j < i, ∀ e, ¬ s.Refuses ds j e := by
  apply foldlM_eq_error_iff_first
  · rintro i error (⟨hd, -⟩ | ⟨hd, -, -, -, -⟩)
    · exact ⟨_, hd⟩
    · exact ⟨_, hd⟩
  · intro i d loaded hd hloaded error
    exact loadNext_eq_error_iff_refuses hd (loop_eq_ok_iff.1 hloaded).1

theorem outcome_loadAll (s : Setup α ρ ω) (root : Element) : (s.loadAll root).outcome =
    match scopesElement? root with
    | none => .error .noScopes
    | some holder =>
      (holder.elementsNamed scopeTag).foldlM (fun loaded d => (s.loadNext loaded d).outcome) [] := by
  unfold loadAll
  cases scopesElement? root with
  | none => rfl
  | some holder =>
    simp only [Traced.outcome_bind, Traced.outcome_foldlM]
    exact bind_pure _

/-- **All scopes or none.** A document loads exactly if each of its scope elements does and no two
scopes have the same name, and then to their scopes, in order. Otherwise it fails for want of an
element that holds scopes, or with the error of the first scope element that is refused. -/
theorem loadAll_all_or_nothing (s : Setup α ρ ω) (root : Element) :
    (∀ scopes, (s.loadAll root).outcome = .ok scopes ↔ ∃ holder, HoldsScopes root holder ∧
      List.Forall₂ s.Loads (holder.elementsNamed "scope") scopes ∧
        (scopes.map Scope.name).Nodup) ∧
    (∀ error, (s.loadAll root).outcome = .error error ↔
      (¬ ∃ holder, HoldsScopes root holder) ∧ error = .noScopes ∨
      ∃ holder, HoldsScopes root holder ∧ ∃ i, s.Refuses (holder.elementsNamed "scope") i error ∧
        ∀ j < i, ∀ e, ¬ s.Refuses (holder.elementsNamed "scope") j e) ∧
    LoadError.noScopes.chain = ["configuration has no <scopes> element"] ∧
    ∀ name, (LoadError.duplicateScope name).chain =
      ["scope '" ++ name ++ "' is defined more than once"] := by
  simp only [holdsScopes_iff, outcome_loadAll]
  refine ⟨?_, ?_, rfl, fun name => rfl⟩
  · intro scopes
    cases scopesElement? root with
    | none => simp
    | some holder => simp only [Option.some.injEq, exists_eq_left']; exact loop_eq_ok_iff
  · intro error
    cases scopesElement? root with
    | none => simp [eq_comm]
    | some holder =>
      simp only [Option.some.injEq, exists_eq_left', exists_eq', not_true, false_and, false_or]
      exact loop_eq_error_iff

end Setup

namespace Sample

/-- Nothing is registered. -/
def unequipped : Setup Unit Unit Unit where
  catalog := ⟨.empty, .empty, .empty⟩
  site := ⟨⟨10, 0, 0, 5⟩, RangeSet.empty, (PortCatalog.ofList []).directory, fun _ => false⟩
  overrides := Overrides.empty
  observers := []

/-- Two scopes, a comment, an element of another tag, a scope that is switched off, and more
scopes. Only the first of the two elements that hold scopes counts. -/
def scopes (more : List Element) : Element :=
  let scope name := (Element.ofTag "scope").withAttribute "name" name
  (Element.ofTag "configuration").withChildren
    [(Element.ofTag "scopes").withChildren <|
        [scope "lab", Element.comment "scope", (Element.ofTag "site").withAttribute "name" "lab",
          (scope "lab").withAttribute "active" "off", scope "home"] ++ more,
      (Element.ofTag "scopes").withChildren [scope "lab"]]

/-- Both scopes load. With a third one of the first one's name and a fourth one without a name, the
third one is refused. -/
theorem loadAll_all_or_nothing_scopes :
    (∃ loaded holder, (unequipped.loadAll (scopes [])).outcome = .ok loaded ∧
      loaded.map Scope.name = ["lab", "home"] ∧ Setup.HoldsScopes (scopes []) holder ∧
      List.Forall₂ unequipped.Loads (holder.elementsNamed "scope") loaded) ∧
    ∃ holder i, Setup.HoldsScopes (scopes [(Element.ofTag "scope").withAttribute "name" "lab",
        Element.ofTag "scope"]) holder ∧
      unequipped.Refuses (holder.elementsNamed "scope") i (.duplicateScope "lab") ∧
      ∀ j < i, ∀ e, ¬ unequipped.Refuses (holder.elementsNamed "scope") j e := by
  constructor
  · have hnames : ((unequipped.loadAll (scopes [])).outcome.toOption.map fun loaded =>
        loaded.map Scope.name) = some ["lab", "home"] := by
      decide +kernel
    obtain ⟨loaded, hloaded⟩ : ∃ loaded, (unequipped.loadAll (scopes [])).outcome = .ok loaded :=
      exists_ok_of_isOk (by decide +kernel)
    rw [hloaded] at hnames
    obtain ⟨holder, hholder, hloads, -⟩ :=
      ((Setup.loadAll_all_or_nothing unequipped (scopes [])).1 loaded).1 hloaded
    exact ⟨loaded, holder, hloaded, Option.some.inj hnames, hholder, hloads⟩
  · have hfails := ((Setup.loadAll_all_or_nothing unequipped (scopes
      [(Element.ofTag "scope").withAttribute "name" "lab", Element.ofTag "scope"])).2.1
        (.duplicateScope "lab")).1 rfl
    rcases hfails with ⟨-, hnone⟩ | ⟨holder, hholder, i, hrefuses, hfirst⟩
    · cases hnone
    · exact ⟨holder, i, hholder, hrefuses, hfirst⟩

end Sample

end DiscoveryFilter
