import DiscoveryFilter.Proofs.Log.FirstFailure
import DiscoveryFilter.Proofs.Panel.Assembly

/-!
# What a panel is built from

The elements below a filtering element are built one after the other. The first one that is refused
stops the build. Of the acceptors that are built under one tag, the last one counts, and an element
that comes to an unknown plugin takes nothing away.
-/

namespace DiscoveryFilter

namespace AcceptorRegistry

variable {r : AcceptorRegistry} {site : Site} {e : Element}

/-- What the factory of the element's tag builds; nothing if there is no such factory or it
fails. -/
def built? (r : AcceptorRegistry) (site : Site) (e : Element) : Option Acceptor :=
  (r.get? e.tag).bind fun factory => (factory e site).outcome.toOption

/-- The factory of the element's tag fails, and not for want of a plugin. -/
def Refuses (r : AcceptorRegistry) (site : Site) (e : Element) (cause : PluginError) : Prop :=
  ∃ factory, r.get? e.tag = some factory ∧ (factory e site).outcome = .error cause ∧
    cause.isUnknownPlugin = false

/-! ## One element -/

theorem built?_eq_some_iff {acceptor : Acceptor} :
    r.built? site e = some acceptor ↔ (r.build e site).outcome = .ok acceptor := by
  simp only [built?, build, Option.bind_eq_some_iff, Traced.outcome_bind_eq_ok_iff,
    Traced.outcome_ofExcept, Registry.find_eq_ok_iff, toOption_eq_some_iff]

theorem refuses_iff {cause : PluginError} : r.Refuses site e cause ↔
    (r.build e site).outcome = .error cause ∧ cause.isUnknownPlugin = false := by
  rw [build, Traced.outcome_bind_eq_error_iff, Traced.outcome_ofExcept, Registry.find_eq_error_iff]
  simp only [Registry.find_eq_ok_iff, Refuses]
  constructor
  · rintro ⟨factory, hfactory, hcause, hknown⟩
    exact ⟨.inr ⟨factory, hfactory, hcause⟩, hknown⟩
  · rintro ⟨⟨-, rfl⟩ | ⟨factory, hfactory, hcause⟩, hknown⟩
    · cases hknown
    · exact ⟨factory, hfactory, hcause, hknown⟩

theorem built?_of_skips (h : r.Skips site e) : r.built? site e = none := by
  obtain ⟨cause, hcause, -⟩ := h
  rw [Option.eq_none_iff_forall_ne_some]
  intro acceptor hbuilt
  rw [built?_eq_some_iff, hcause] at hbuilt
  cases hbuilt

/-! ## One after the other -/

/-- The panel that is extended has no part in what stops the loop. -/
theorem extend_eq_error_iff {rename : String → String} {skipped : PluginError → String → Event}
    {p : Panel} {es : List Element} {cause : PluginError} :
    (r.extend site rename skipped p es).outcome = .error cause ↔
      FirstFails (r.Refuses site) es cause := by
  rw [extend, Traced.outcome_foldlM]
  refine foldlM_eq_error_iff ?_
  intro p e cause
  rw [extendBy_eq_error_iff, refuses_iff]

theorem buildPanel_eq_error_iff {filtering : Element} {cause : PluginError} :
    (r.buildPanel filtering site).outcome = .error cause ↔
      FirstFails (r.Refuses site) filtering.elements cause := by
  simp only [buildPanel, Traced.outcome_bind_eq_error_iff, Traced.outcome_tell,
    Traced.outcome_pure, reduceCtorEq, and_false, exists_false, or_false]
  exact extend_eq_error_iff

/-- The entries of one name are what the elements of that tag build. -/
theorem filter_of_gathers {es : List Element} {entries : List (String × Acceptor)}
    (hg : Gathers (r.Skips site) (r.Yields site) es entries) (tag : String) :
    (entries.filter fun entry => entry.1 == tag).map Prod.snd =
      (es.filter fun e => e.tag == tag).filterMap (r.built? site) := by
  induction hg with
  | nil => rfl
  | @skip e es entries hs _ ih =>
    rw [ih, List.filter_cons]
    split
    · rw [List.filterMap_cons_none (built?_of_skips hs)]
    · rfl
  | @take e es entry entries hy _ ih =>
    obtain ⟨htag, hbuilt⟩ := hy
    rw [List.filter_cons, List.filter_cons, htag]
    split
    · rw [List.map_cons, List.filterMap_cons_some (built?_eq_some_iff.2 hbuilt), ih]
    · exact ih

theorem get?_of_buildPanel {filtering : Element} {q : Panel}
    (h : (r.buildPanel filtering site).outcome = .ok q) (tag : String) :
    q.get? tag = ((filtering.elementsNamed tag).filterMap (r.built? site)).getLast? := by
  obtain ⟨entries, hg, rfl⟩ := buildPanel_eq_ok_iff.1 h
  rw [Panel.ofList, Panel.get?_insertAll, Panel.get?_empty, Option.or_none, ← List.getLast?_map,
    filter_of_gathers hg, Element.elementsNamed]

theorem exists_get?_iff_of_buildPanel {filtering : Element} {q : Panel}
    (h : (r.buildPanel filtering site).outcome = .ok q) (tag : String) :
    (∃ acceptor, q.get? tag = some acceptor) ↔
      ∃ e ∈ filtering.elements, e.tag = tag ∧ (r.built? site e).isSome = true := by
  rw [get?_of_buildPanel h, ← Option.ne_none_iff_exists', ne_eq, List.getLast?_eq_none_iff,
    List.filterMap_eq_nil_iff]
  simp [Element.elementsNamed, Option.isSome_iff_ne_none]

/-- **What a panel is built from.** The first element that is refused gives the error of the build.
If none is, the build gives a panel that has under each tag the last acceptor that an element of
that tag builds; its names are the tags of the elements that build one, and it is empty exactly if
none does. -/
theorem buildPanel_keeps_last_built (r : AcceptorRegistry) (filtering : Element) (site : Site) :
    (∀ cause, (r.buildPanel filtering site).outcome = .error cause ↔
        FirstFails (r.Refuses site) filtering.elements cause) ∧
      ((∀ e ∈ filtering.elements, ∀ cause, ¬ r.Refuses site e cause) ↔
        ∃ q, (r.buildPanel filtering site).outcome = .ok q ∧
          (∀ tag, q.get? tag =
            ((filtering.elementsNamed tag).filterMap (r.built? site)).getLast?) ∧
          (∀ tag, tag ∈ q.names ↔
            ∃ e ∈ filtering.elements, e.tag = tag ∧ (r.built? site e).isSome = true) ∧
          (q.isEmpty = true ↔ ∀ e ∈ filtering.elements, r.built? site e = none)) := by
  refine ⟨fun cause => buildPanel_eq_error_iff, ?_⟩
  simp only [← FirstFails.forall_not_iff, ← buildPanel_eq_error_iff, ← ne_eq, ← exists_ok_iff]
  refine exists_congr fun q => ⟨fun hq => ?_, And.left⟩
  have hnames (tag : String) := exists_get?_iff_of_buildPanel hq tag
  refine ⟨hq, get?_of_buildPanel hq, fun tag => Panel.mem_names_iff.trans (hnames tag), ?_⟩
  rw [Panel.isEmpty_iff]
  constructor
  · intro hempty e he
    by_contra hbuilt
    obtain ⟨acceptor, hget⟩ := (hnames e.tag).2 ⟨e, he, rfl, Option.isSome_iff_ne_none.2 hbuilt⟩
    rw [hempty e.tag] at hget
    cases hget
  · intro hnone tag
    by_contra hget
    obtain ⟨e, he, -, hbuilt⟩ := (hnames tag).1 (Option.ne_none_iff_exists'.1 hget)
    rw [hnone e he] at hbuilt
    cases hbuilt

end AcceptorRegistry

namespace Sample

/-- Builds an acceptor with the opinion that the text of the element gives. Without a text it comes
to an unknown plugin. -/
def opinionFactory : Factory Acceptor := fun e _ =>
  match e.text with
  | some "yes" => pure (.custom (fun _ => true) fun _ => true)
  | some "no" => pure (.custom (fun _ => true) fun _ => false)
  | some _ => throw (.missingAttribute e.tag "opinion")
  | none => throw (.unknownPlugin .acceptor "opinion")

def opinions : AcceptorRegistry :=
  Registry.ofList [("gate", opinionFactory), ("door", opinionFactory)]

/-- A site without managed ranges and known ports. -/
def bareSite : Site where
  agent := ⟨10, 0, 0, 5⟩
  managed := RangeSet.empty
  ports := (PortCatalog.ofList []).directory
  outOfScope := fun _ => false

/-- Elements with and without an opinion, among them one that nobody registered and one that is
switched off, and some more elements. -/
def gates (more : List Element) : Element :=
  (Element.ofTag "filtering").withChildren <|
    [(Element.ofTag "gate").withText "yes", Element.ofTag "wall",
      (Element.ofTag "gate").withText "no", Element.comment "gate", Element.ofTag "gate",
      ((Element.ofTag "gate").withText "yes").withAttribute "active" "no",
      (Element.ofTag "door").withText "yes"] ++ more

def judgements (p : Panel) : List (String × Bool) :=
  p.toList.map fun entry => (entry.1, entry.2.accepts (.node ⟨.v6 "::1", none⟩))

/-- The second opinion on gates is the last one that comes to an acceptor. Of the texts that are no
opinion, the first is refused. -/
theorem buildPanel_keeps_last_built_gates :
    (∃ q, (opinions.buildPanel (gates []) bareSite).outcome = .ok q ∧
      judgements q = [("door", true), ("gate", false)] ∧
      (∀ tag, q.get? tag =
        (((gates []).elementsNamed tag).filterMap (opinions.built? bareSite)).getLast?) ∧
      ∀ tag, tag ∈ q.names ↔
        ∃ e ∈ (gates []).elements, e.tag = tag ∧ (opinions.built? bareSite e).isSome = true) ∧
    FirstFails (opinions.Refuses bareSite)
      (gates [(Element.ofTag "door").withText "ajar", (Element.ofTag "gate").withText "shut"]).elements
      (.missingAttribute "door" "opinion") := by
  have hbuilds := AcceptorRegistry.buildPanel_keeps_last_built opinions
  constructor
  · have hfacts : ((opinions.buildPanel (gates []) bareSite).outcome.toOption.map judgements) =
        some [("door", true), ("gate", false)] := by
      decide +kernel
    have hno : ∀ e ∈ (gates []).elements, ∀ cause, ¬ opinions.Refuses bareSite e cause := by
      rw [← FirstFails.forall_not_iff]
      intro cause hfails
      rw [((hbuilds (gates []) bareSite).1 cause).2 hfails] at hfacts
      cases hfacts
    obtain ⟨q, hq, hlast, hnames, -⟩ := (hbuilds (gates []) bareSite).2.1 hno
    rw [hq] at hfacts
    exact ⟨q, hq, Option.some.inj hfacts, hlast, hnames⟩
  · exact ((hbuilds _ bareSite).1 _).1 rfl

end Sample

end DiscoveryFilter
