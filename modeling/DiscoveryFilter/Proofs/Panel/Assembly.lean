import DiscoveryFilter.Proofs.Log.Outcome
import DiscoveryFilter.Proofs.Panel.Overlay
import DiscoveryFilter.Registry

/-!
# Panels assembled from elements

A registry turns elements into entries of a panel: one for each element whose plugin it knows,
named by the tag. `Skips` and `Yields` say what becomes of one element; panels built from
scratch and panels that are extended gather the same entries and differ only in their names.
-/

namespace DiscoveryFilter

namespace Registry

variable {kind : PluginKind} {φ : Type} {r : Registry kind φ} {name : String}

theorem find_eq_ok_iff {factory : φ} : r.find name = .ok factory ↔ r.get? name = some factory := by
  unfold find
  cases r.get? name <;> simp

theorem find_eq_error_iff {cause : PluginError} :
    r.find name = .error cause ↔ r.get? name = none ∧ cause = .unknownPlugin kind name := by
  unfold find
  cases r.get? name <;> simp [eq_comm]

end Registry

namespace AcceptorRegistry

variable {r : AcceptorRegistry} {site : Site}

/-- Building the acceptor of the element comes to an unknown plugin. -/
def Skips (r : AcceptorRegistry) (site : Site) (e : Element) : Prop :=
  ∃ cause, (r.build e site).outcome = .error cause ∧ cause.isUnknownPlugin = true

/-- The element builds the acceptor of the entry, which bears the tag as its name. -/
def Yields (r : AcceptorRegistry) (site : Site) (e : Element) (entry : String × Acceptor) : Prop :=
  e.tag = entry.1 ∧ (r.build e site).outcome = .ok entry.2

/-- What one step of extending a panel can do when it does not stop. -/
theorem extendBy_eq_ok_iff {rename : String → String} {skipped : PluginError → String → Event}
    {p q : Panel} {e : Element} :
    (r.extendBy site rename skipped p e).outcome = .ok q ↔
      (r.Skips site e ∧ q = p) ∨
        ∃ acceptor, r.Yields site e (e.tag, acceptor) ∧ q = p.insert (rename e.tag) acceptor := by
  unfold extendBy
  rw [Traced.outcome_bind_eq_ok_iff]
  simp only [Traced.outcome_attempt, Traced.outcome_mapEvents, Except.ok.injEq, exists_eq_left',
    Skips, Yields, true_and]
  cases hb : (r.build e site).outcome with
  | ok acceptor => simp [eq_comm (a := q)]
  | error cause =>
    cases hc : cause.isUnknownPlugin with
    | true => simp [hc, Traced.outcome_map, eq_comm (a := q)]
    | false => simp [hc]

/-- A step stops with the errors of the build, but for unknown plugins. -/
theorem extendBy_eq_error_iff {rename : String → String} {skipped : PluginError → String → Event}
    {p : Panel} {e : Element} {cause : PluginError} :
    (r.extendBy site rename skipped p e).outcome = .error cause ↔
      (r.build e site).outcome = .error cause ∧ cause.isUnknownPlugin = false := by
  unfold extendBy
  rw [Traced.outcome_bind_eq_error_iff]
  simp only [Traced.outcome_attempt, Traced.outcome_mapEvents, Except.ok.injEq, exists_eq_left',
    reduceCtorEq, false_or]
  cases hb : (r.build e site).outcome with
  | ok acceptor => simp
  | error other =>
    cases hc : other.isUnknownPlugin with
    | true =>
      simp only [hc, if_true, Traced.outcome_bind, Traced.outcome_tell]
      constructor
      · intro h
        cases h
      · rintro ⟨h, hcause⟩
        rw [← Except.error.inj h, hc] at hcause
        cases hcause
    | false =>
      simp only [hc, Bool.false_eq_true, if_false, Traced.outcome_throw, Except.error.injEq]
      constructor
      · rintro rfl
        exact ⟨rfl, hc⟩
      · exact And.left

theorem isUnknownPlugin_of_extend {rename : String → String}
    {skipped : PluginError → String → Event} {p : Panel} {es : List Element} {cause : PluginError}
    (h : (r.extend site rename skipped p es).outcome = .error cause) :
    cause.isUnknownPlugin = false := by
  rw [extend, Traced.outcome_foldlM] at h
  obtain ⟨q, e, -, hstep⟩ := exists_of_foldlM_eq_error h
  exact (extendBy_eq_error_iff.1 hstep).2

/-- Extending a panel inserts the entries that the elements yield, under their new names. -/
theorem extend_eq_ok_iff {rename : String → String} {skipped : PluginError → String → Event}
    {p q : Panel} {es : List Element} :
    (r.extend site rename skipped p es).outcome = .ok q ↔
      ∃ entries, Gathers (r.Skips site) (r.Yields site) es entries ∧
        q = p.insertAll (entries.map fun entry => (rename entry.1, entry.2)) := by
  unfold extend
  rw [Traced.outcome_foldlM]
  induction es generalizing p with
  | nil =>
    constructor
    · intro h
      exact ⟨[], .nil, (Except.ok.inj h).symm⟩
    · rintro ⟨entries, hg, rfl⟩
      cases hg
      rfl
  | cons e es ih =>
    rw [List.foldlM_cons, bind_eq_ok_iff]
    constructor
    · rintro ⟨p', hstep, h⟩
      obtain ⟨entries, hg, rfl⟩ := ih.1 h
      rcases extendBy_eq_ok_iff.1 hstep with ⟨hs, rfl⟩ | ⟨acceptor, hy, rfl⟩
      · exact ⟨entries, .skip hs hg, rfl⟩
      · exact ⟨_, .take hy hg, rfl⟩
    · rintro ⟨entries, hg, rfl⟩
      cases hg with
      | skip hs hg => exact ⟨p, extendBy_eq_ok_iff.2 (.inl ⟨hs, rfl⟩), ih.2 ⟨entries, hg, rfl⟩⟩
      | @take _ _ entry entries hy hg =>
        obtain ⟨name, acceptor⟩ := entry
        obtain ⟨rfl, hb⟩ := hy
        have hstep : (r.extendBy site rename skipped p e).outcome =
            .ok (p.insert (rename e.tag) acceptor) :=
          extendBy_eq_ok_iff.2 (.inr ⟨acceptor, ⟨rfl, hb⟩, rfl⟩)
        exact ⟨_, hstep, ih.2 ⟨entries, hg, rfl⟩⟩

theorem buildPanel_eq_ok_iff {filtering : Element} {q : Panel} :
    (r.buildPanel filtering site).outcome = .ok q ↔
      ∃ entries, Gathers (r.Skips site) (r.Yields site) filtering.elements entries ∧
        q = Panel.ofList entries := by
  have hmap (entries : List (String × Acceptor)) :
      (entries.map fun entry => (id entry.1, entry.2)) = entries := List.map_id entries
  simp only [buildPanel, Traced.outcome_bind_eq_ok_iff, Traced.outcome_tell, Traced.outcome_pure,
    Except.ok.injEq, extend_eq_ok_iff, hmap, Panel.ofList]
  constructor
  · rintro ⟨_, ⟨entries, hg, rfl⟩, _, _, rfl⟩
    exact ⟨entries, hg, rfl⟩
  · rintro ⟨entries, hg, rfl⟩
    exact ⟨_, ⟨entries, hg, rfl⟩, (), trivial, rfl⟩

/-- No panel fails to be built for want of a plugin. -/
theorem isUnknownPlugin_of_buildPanel {filtering : Element} {cause : PluginError}
    (h : (r.buildPanel filtering site).outcome = .error cause) : cause.isUnknownPlugin = false := by
  rcases Traced.outcome_bind_eq_error_iff.1 h with h | ⟨p, -, h⟩
  · exact isUnknownPlugin_of_extend h
  · cases h

/-- Extending a panel by the elements below one lays over it the panel that they build from
scratch, renamed. -/
theorem extend_eq_ok_iff_overlay {rename : String → String} (hf : Function.Injective rename)
    {skipped : PluginError → String → Event} {p q : Panel} {filtering : Element} :
    (r.extend site rename skipped p filtering.elements).outcome = .ok q ↔
      ∃ own, (r.buildPanel filtering site).outcome = .ok own ∧
        q = p.overlay (own.renamed rename) := by
  simp only [extend_eq_ok_iff, buildPanel_eq_ok_iff, Panel.insertAll_map_rename hf]
  constructor
  · rintro ⟨entries, hg, rfl⟩
    exact ⟨_, ⟨entries, hg, rfl⟩, rfl⟩
  · rintro ⟨_, ⟨entries, hg, rfl⟩, rfl⟩
    exact ⟨entries, hg, rfl⟩

/-- Under a tag whose plugin is known wherever it occurs, the last element of that tag counts. -/
theorem get?_of_gathers {es : List Element} {entries : List (String × Acceptor)}
    (hg : Gathers (r.Skips site) (r.Yields site) es entries) (tag : String)
    (hknown : ∀ e : Element, e.tag = tag → ¬ r.Skips site e) :
    Option.Rel (fun e acceptor => (r.build e site).outcome = .ok acceptor)
      (es.filter fun e => e.tag == tag).getLast? ((Panel.ofList entries).get? tag) := by
  have hsame : ∀ e entry, r.Yields site e entry → (e.tag == tag) = (entry.1 == tag) :=
    fun e entry hy => by rw [hy.1]
  have hpairs := getLast?_of_forall₂ ((hg.filter hsame).forall₂_of_forall_not fun e he =>
    hknown e (beq_iff_eq.1 (List.mem_filter.1 he).2))
  rw [Panel.ofList, Panel.get?_insertAll, Panel.get?_empty, Option.or_none]
  generalize (es.filter fun e => e.tag == tag).getLast? = last at hpairs ⊢
  generalize (entries.filter fun entry => entry.1 == tag).getLast? = entry at hpairs ⊢
  cases hpairs with
  | none => exact .none
  | some hy => exact .some hy.2

/-- The elements have the same tag and build the same acceptor or fail alike. -/
def SameBuild (r : AcceptorRegistry) (site : Site) (e e' : Element) : Prop :=
  e.tag = e'.tag ∧ (r.build e site).outcome = (r.build e' site).outcome

theorem SameBuild.skips {e e' : Element} (h : r.SameBuild site e e') (hs : r.Skips site e) :
    r.Skips site e' := by
  obtain ⟨cause, hcause, hunknown⟩ := hs
  exact ⟨cause, h.2.symm.trans hcause, hunknown⟩

theorem SameBuild.yields {e e' : Element} (h : r.SameBuild site e e') {entry : String × Acceptor}
    (hy : r.Yields site e entry) : r.Yields site e' entry :=
  ⟨h.1.symm.trans hy.1, h.2.symm.trans hy.2⟩

theorem not_yields_of_skips {e : Element} {entry : String × Acceptor} (hs : r.Skips site e) :
    ¬ r.Yields site e entry := by
  rintro ⟨-, hb⟩
  obtain ⟨cause, hcause, -⟩ := hs
  rw [hb] at hcause
  cases hcause

theorem yields_unique {e : Element} {entry entry' : String × Acceptor}
    (h : r.Yields site e entry) (h' : r.Yields site e entry') : entry = entry' :=
  Prod.ext (h.1.symm.trans h'.1) (Except.ok.inj (h.2.symm.trans h'.2))

/-- The order of elements with different tags has no part in the panel that they build. -/
theorem buildPanel_of_forall₂ {filtering filtering' : Element}
    (h : ∀ tag, List.Forall₂ (r.SameBuild site) (filtering.elementsNamed tag)
      (filtering'.elementsNamed tag)) {q : Panel}
    (hq : (r.buildPanel filtering site).outcome = .ok q) :
    (r.buildPanel filtering' site).outcome = .ok q := by
  obtain ⟨entries, hg, rfl⟩ := buildPanel_eq_ok_iff.1 hq
  have hfate : ∀ e' ∈ filtering'.elements,
      r.Skips site e' ∨ ∃ entry, r.Yields site e' entry := by
    intro e' he'
    obtain ⟨e, he, hsame⟩ := exists_mem_of_forall₂ (h e'.tag)
      (List.mem_filter.2 ⟨he', beq_self_eq_true e'.tag⟩)
    exact (Gathers.exists_iff.1 ⟨entries, hg⟩ e (List.mem_filter.1 he).1).imp hsame.skips
      fun ⟨entry, hy⟩ => ⟨entry, hsame.yields hy⟩
  obtain ⟨entries', hg'⟩ := Gathers.exists_iff.2 hfate
  refine buildPanel_eq_ok_iff.2 ⟨entries', hg', Panel.ext_get? fun name => ?_⟩
  -- under a name only the elements of that tag count, and their order is kept
  have htag : ∀ e entry, r.Yields site e entry → (e.tag == name) = (entry.1 == name) :=
    fun e entry hy => by rw [hy.1]
  have hmoved := (hg.filter htag).of_forall₂ ((h name).imp fun e e' hsame =>
    ⟨hsame.skips, fun _ => hsame.yields⟩)
  have heq := hmoved.unique (hg'.filter htag) (fun _ _ => not_yields_of_skips)
    fun _ _ _ => yields_unique
  rw [Panel.ofList, Panel.ofList, Panel.get?_insertAll, Panel.get?_insertAll, heq]

/-- A name of the panel is a name that some element names and the registry knows. -/
theorem contains_of_get?_buildPanel {filtering : Element} {q : Panel} {name : String}
    {acceptor : Acceptor} (h : (r.buildPanel filtering site).outcome = .ok q)
    (hq : q.get? name = some acceptor) : (r.get? name).isSome = true := by
  obtain ⟨entries, hg, rfl⟩ := buildPanel_eq_ok_iff.1 h
  rw [Panel.ofList, Panel.get?_insertAll, Panel.get?_empty, Option.or_none] at hq
  obtain ⟨entry, hlast, rfl⟩ := Option.map_eq_some_iff.1 hq
  obtain ⟨hm, hname⟩ := List.mem_filter.1 (List.mem_of_getLast? hlast)
  obtain ⟨e, -, htag, hb⟩ := hg.exists_of_mem hm
  obtain ⟨factory, hfind, -⟩ := Traced.outcome_bind_eq_ok_iff.1 hb
  rw [htag, beq_iff_eq.1 hname, Traced.outcome_ofExcept, Registry.find_eq_ok_iff] at hfind
  rw [hfind]
  rfl

end AcceptorRegistry

end DiscoveryFilter
