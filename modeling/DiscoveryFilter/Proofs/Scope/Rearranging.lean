import DiscoveryFilter.Proofs.Scope.Likeness

/-!
# The order of siblings

Documents are `Rearranged` if they differ only in the order of siblings with different tags.
`Setup.rearranged_loads_alike` says that they load to the same scopes. Their errors may differ,
since the elements of a policy are built in document order and the first error is reported.
-/

namespace DiscoveryFilter

namespace Element

/-- The elements differ only in the order of children, at any depth: of each tag they have the same
children in the same order, up to the order of children of these. -/
inductive Rearranged : Element → Element → Prop
  | mk {tag : String} {attributes : Std.ExtTreeMap String String} {text : Option String}
    {children children' : List Element} :
    (∀ t, List.Forall₂ Rearranged (children.filter fun c => c.tag == t)
      (children'.filter fun c => c.tag == t)) →
    Rearranged (mk tag attributes text children) (mk tag attributes text children')

theorem Rearranged.sameHead {e e' : Element} (h : Rearranged e e') : SameHead e e' := by
  cases h with
  | mk _ => exact ⟨rfl, rfl⟩

theorem Rearranged.refl (e : Element) : Rearranged e e := by
  induction e with
  | mk tag attributes text children ih =>
    refine .mk fun t => List.forall₂_same.2 fun c hc => ?_
    exact ih c (List.mem_filter.1 hc).1

/-- Children that are rearranged themselves and then permuted, those of each tag in order. -/
theorem Rearranged.of_middle {tag : String} {attributes : Std.ExtTreeMap String String}
    {text : Option String} {children middle children' : List Element}
    (hbelow : List.Forall₂ Rearranged children middle)
    (horder : ∀ t, (middle.filter fun c => c.tag == t) = children'.filter fun c => c.tag == t) :
    Rearranged (.mk tag attributes text children) (.mk tag attributes text children') := by
  refine .mk fun t => ?_
  have htag : ∀ c c', Rearranged c c' → ((c.tag == t) = true ↔ (c'.tag == t) = true) :=
    fun c c' hc => by rw [hc.sameHead.tag]
  rw [← horder]
  exact List.rel_filter htag hbelow

theorem likeness_rearranged : Likeness Rearranged where
  sameHead := Rearranged.sameHead
  text := by
    intro e e' h
    cases h with
    | mk _ => rfl
  elementsNamed := by
    intro e e' h t
    have hcounts : ∀ c c', Rearranged c c' → (c.counts = true ↔ c'.counts = true) :=
      fun c c' hc => by rw [hc.sameHead.counts_eq]
    cases h with
    | mk hchildren =>
      rw [elementsNamed, elementsNamed, elements_eq_filter, elements_eq_filter, List.filter_comm,
        List.filter_comm _ counts]
      exact List.rel_filter hcounts (hchildren t)

theorem Likeness.flip {R : Element → Element → Prop} (hR : Likeness R) : Likeness (flip R) where
  sameHead h := ⟨(hR.sameHead h).tag.symm, (hR.sameHead h).attributes.symm⟩
  text h := (hR.text h).symm
  elementsNamed h tag := List.Forall₂.flip (hR.elementsNamed h tag)

end Element

open Element

/-! ## Like elements load alike -/

section Like

variable {R : Element → Element → Prop}

theorem AcceptorRegistry.BuiltIn.sameBuild {r : AcceptorRegistry} {site : Site} {e e' : Element}
    (hr : r.BuiltIn) (hR : Likeness R) (h : R e e') : r.SameBuild site e e' :=
  ⟨(hR.sameHead h).tag, congrArg Traced.outcome (hr.build_eq hR h)⟩

namespace Setup

variable {α ρ ω : Type} {s : Setup α ρ ω} {e e' : Element}

theorem panelOf_find?_like (hr : s.catalog.acceptors.BuiltIn) (hR : Likeness R) (h : R e e')
    {path : String} {p : Panel} (hp : s.panelOf (e.find? path) = .ok p) :
    s.panelOf (e'.find? path) = .ok p := by
  have hfind := hR.find? h path
  generalize e.find? path = filtering at hfind hp
  generalize e'.find? path = filtering' at hfind ⊢
  cases hfind with
  | none => exact hp
  | some hf =>
    exact AcceptorRegistry.buildPanel_of_forall₂
      (fun tag => (hR.elementsNamed hf tag).imp fun _ _ => hr.sameBuild hR) hp

theorem panelOf_ownFiltering_like (hr : s.catalog.acceptors.BuiltIn) (hR : Likeness R)
    (h : R e e') {p : Panel} (hp : s.panelOf (ownFiltering e) = .ok p) :
    s.panelOf (ownFiltering e') = .ok p := by
  have hfind := hR.element? h filteringTag
  rw [ownFiltering_eq] at hp ⊢
  generalize e.element? filteringTag = filtering at hfind hp
  generalize e'.element? filteringTag = filtering' at hfind ⊢
  cases hfind with
  | none => exact hp
  | some hf =>
    refine AcceptorRegistry.buildPanel_of_forall₂ (fun tag => ?_) hp
    have hbare : ∀ c c', R c c' → ((!c.isBare) = true ↔ (!c'.isBare) = true) :=
      fun c c' hc => by rw [hR.isBare_eq hc]
    rw [elementsNamed_keeping, elementsNamed_keeping]
    exact (List.rel_filter hbare (hR.elementsNamed hf tag)).imp fun _ _ => hr.sameBuild hR

theorem defaultPanel_like (hr : s.catalog.acceptors.BuiltIn) (hR : Likeness R) (h : R e e')
    {d : Panel} (hd : (s.defaultPanel e).outcome = .ok d) :
    (s.defaultPanel e').outcome = .ok d := by
  obtain ⟨p, hp, rfl⟩ := defaultPanel_eq_ok_iff.1 hd
  exact defaultPanel_eq_ok_iff.2 ⟨p, panelOf_find?_like hr hR h hp, rfl⟩

theorem makesSlot_like (hc : s.catalog.Plain) (hR : Likeness R) (h : R e e') {p : Panel}
    {entry : String × Slot ρ} (hm : s.MakesSlot p e entry) : s.MakesSlot p e' entry := by
  obtain ⟨hmakes, own, hown, hacceptors⟩ := hm
  exact ⟨(hc.reporters.makes_iff (hR.sameHead h)).1 hmakes, own,
    panelOf_ownFiltering_like hc.acceptors hR h hown, hacceptors⟩

theorem reporters_like (hc : s.catalog.Plain) (hR : Likeness R) (h : R e e') {name : String}
    {p : Panel} {built : Roster (Slot ρ)} (hb : (s.reporters name e p).outcome = .ok built) :
    (s.reporters name e' p).outcome = .ok built := by
  obtain ⟨entries, hg, rfl⟩ := reporters_eq_ok_iff.1 hb
  refine reporters_eq_ok_iff.2 ⟨entries, hg.of_forall₂ ?_, rfl⟩
  refine (heldItems_like hR h reportingTag reporterTag).imp fun d d' hd => ?_
  exact ⟨(Registry.misses_iff_of_sameHead (hR.sameHead hd)).1, fun _ => makesSlot_like hc hR hd⟩

theorem load_like (hc : s.catalog.Plain) (hR : Likeness R) (h : R e e') {scope : Scope α ρ ω}
    (hload : (s.load e).outcome = .ok scope) : (s.load e').outcome = .ok scope := by
  obtain ⟨name, approaches, d, built, hname, happroaches, hd, hbuilt, rfl⟩ :=
    load_eq_ok_iff.1 hload
  rw [(hR.sameHead h).name?_eq] at hname
  rw [approaches_eq hc.approaches hR h] at happroaches
  exact load_eq_ok_iff.2 ⟨name, approaches, d, built, hname, happroaches,
    defaultPanel_like hc.acceptors hR h hd, reporters_like hc hR h hbuilt, rfl⟩

theorem loadNext_like (hc : s.catalog.Plain) (hR : Likeness R) (h : R e e')
    {loaded scopes : List (Scope α ρ ω)} (hload : (s.loadNext loaded e).outcome = .ok scopes) :
    (s.loadNext loaded e').outcome = .ok scopes := by
  obtain ⟨scope, hscope, hnext⟩ := Traced.outcome_bind_eq_ok_iff.1 hload
  exact Traced.outcome_bind_eq_ok_iff.2 ⟨scope, load_like hc hR h hscope, hnext⟩

theorem loadAll_like (hc : s.catalog.Plain) (hR : Likeness R) (h : R e e')
    {scopes : List (Scope α ρ ω)} (hload : (s.loadAll e).outcome = .ok scopes) :
    (s.loadAll e').outcome = .ok scopes := by
  have hholder := scopesElement?_like hR h
  unfold loadAll at hload ⊢
  generalize scopesElement? e = holder at hholder hload
  generalize scopesElement? e' = holder' at hholder ⊢
  cases hholder with
  | none => exact hload
  | some hheld =>
    obtain ⟨loaded, hloop, hlast⟩ := Traced.outcome_bind_eq_ok_iff.1 hload
    refine Traced.outcome_bind_eq_ok_iff.2 ⟨loaded, ?_, hlast⟩
    rw [Traced.outcome_foldlM] at hloop ⊢
    exact foldlM_eq_ok_of_forall₂ ((hR.elementsNamed hheld scopeTag).imp
      fun _ _ hd _ _ => loadNext_like hc hR hd) hloop

/-- **The order of siblings is irrelevant.** If acceptors are built in and the factories of
approaches and reporters read the heads of their elements only, then documents that differ in the
order of siblings with different tags load to the same scopes, or neither of them loads. -/
theorem rearranged_loads_alike (hc : s.catalog.Plain) {root root' : Element}
    (h : Rearranged root root') (scopes : List (Scope α ρ ω)) :
    (s.loadAll root).outcome = .ok scopes ↔ (s.loadAll root').outcome = .ok scopes :=
  ⟨loadAll_like hc likeness_rearranged h, loadAll_like hc likeness_rearranged.flip h⟩

end Setup

end Like

namespace Sample

/-- The scope `lab` with siblings in another order in three places. -/
def shuffled : Element :=
  ((Element.ofTag "scope").withAttribute "name" "lab").withChildren
    [(Element.ofTag "reporting").withChildren
      [reporter "audit" [including "ranges" "range" "10.0.7.0/24"],
        (Element.ofTag "configuration").withChildren
          [(Element.ofTag "filtering").withChildren
            [including "services" "service" "*", including "ranges" "range" "10.0.0.0/8"]],
        reporter "cmdb" [including "services" "service" "80", Element.ofTag "ranges"],
        reporter "audit" [including "ranges" "range" "*"]]]

theorem filter_swap {a b : Element} (h : a.tag ≠ b.tag) (es : List Element) (t : String) :
    ((a :: b :: es).filter fun c => c.tag == t) = (b :: a :: es).filter fun c => c.tag == t := by
  by_cases ha : a.tag = t
  · have hb : (b.tag == t) = false := beq_false_of_ne (ha ▸ Ne.symm h)
    simp [ha, hb]
  · simp [List.filter_cons, ha]

theorem rearranged_lab : Rearranged lab shuffled := by
  have hswap {a b : Element} (h : a.tag ≠ b.tag) :
      Rearranged ((Element.ofTag "filtering").withChildren [a, b])
        ((Element.ofTag "filtering").withChildren [b, a]) :=
    .of_middle (List.forall₂_same.2 fun c _ => .refl c) (filter_swap h [])
  have hdefault : Rearranged
      ((Element.ofTag "configuration").withChildren [(Element.ofTag "filtering").withChildren
        [including "ranges" "range" "10.0.0.0/8", including "services" "service" "*"]])
      ((Element.ofTag "configuration").withChildren [(Element.ofTag "filtering").withChildren
        [including "services" "service" "*", including "ranges" "range" "10.0.0.0/8"]]) :=
    .of_middle (.cons (hswap (by decide)) .nil) fun _ => rfl
  have hcmdb : Rearranged
      (reporter "cmdb" [Element.ofTag "ranges", including "services" "service" "80"])
      (reporter "cmdb" [including "services" "service" "80", Element.ofTag "ranges"]) :=
    .of_middle (.cons (hswap (by decide)) .nil) fun _ => rfl
  refine .of_middle (.cons (.of_middle ?_ (filter_swap (by decide) _)) .nil) fun _ => rfl
  exact .cons hdefault (.cons (.refl _) (.cons hcmdb (.cons (.refl _) .nil)))

theorem rearranged_loads_alike_lab : labeled.catalog.Plain ∧
    Rearranged (document [lab]) (document [shuffled]) ∧
    ∃ scopes, (labeled.loadAll (document [lab])).outcome = .ok scopes ∧
      (labeled.loadAll (document [shuffled])).outcome = .ok scopes := by
  have hdocuments : Rearranged (document [lab]) (document [shuffled]) := by
    refine .of_middle (.cons (.of_middle ?_ fun _ => rfl) .nil) fun _ => rfl
    exact .cons rearranged_lab .nil
  have hok : (labeled.loadAll (document [lab])).outcome.isOk = true := by decide +kernel
  obtain ⟨scopes, hscopes⟩ := exists_ok_of_isOk hok
  exact ⟨plain_labeled, hdocuments, scopes, hscopes,
    (Setup.rearranged_loads_alike plain_labeled hdocuments scopes).1 hscopes⟩

end Sample

end DiscoveryFilter
