import DiscoveryFilter.Proofs.Scope.Loading

/-!
# The layers of a loaded scope

The panels of a scope are laid over one another: configured acceptors or, failing these, the
managed ranges; the caller's acceptors; for a reporter its own acceptors under names of its own,
and the caller's acceptors for that reporter. `Layered` says so layer by layer, and
`Layered.of_load` that it holds of every scope that is loaded.
-/

namespace DiscoveryFilter

/-- The caller's acceptors for a reporter. -/
def Overrides.panelFor (o : Overrides) (reporter : String) : Panel :=
  ⟨o.reporters[reporter]?.getD ∅⟩

theorem Roster.modify_of_not_mem {β : Type} {r : Roster β} {name : String} (h : name ∉ r.names)
    (f : β → β) : r.modify name f = r := by
  have hentries : (r.modify name f).entries = r.entries := by
    refine (List.map_congr_left fun entry hm => ?_).trans (List.map_id r.entries)
    have hne : entry.1 ≠ name := fun heq => h (heq ▸ List.mem_map_of_mem hm)
    exact congrArg (Prod.mk entry.1) (if_neg hne)
  obtain ⟨entries, hnodup⟩ := r
  simp only [modify, map, mk.injEq] at hentries ⊢
  exact hentries

namespace Setup

variable {α ρ ω : Type} {s : Setup α ρ ω} {e : Element} {scope : Scope α ρ ω}

/-- The same setup, but with one more acceptor that the caller gives for a reporter. -/
def overriding (s : Setup α ρ ω) (reporter name : String) (acceptor : Acceptor) : Setup α ρ ω :=
  { s with overrides := s.overrides.withReporterAcceptor reporter name acceptor }

/-- How a scope comes out of its element. -/
structure Layered (s : Setup α ρ ω) (e : Element) (scope : Scope α ρ ω) : Prop where
  /-- What the filtering element builds, or the managed ranges if that is no acceptor, and the
  caller's acceptors over it. -/
  acceptors : ∃ p, s.panelOf (defaultFiltering? e) = .ok p ∧
    scope.acceptors =
      (if p.isEmpty then Panel.empty.insert "ranges" (.range (RangePolicy.managedOnly s.site))
        else p).overlay ⟨s.overrides.acceptors⟩
  acceptors_nonempty : scope.acceptors.isEmpty = false
  /-- One approach for each element whose plugin is registered, in order. -/
  approaches : List.Forall₂ (s.catalog.approaches.Makes s.site)
    ((heldItems e "serverDetectionApproach" "approach").filter s.catalog.approaches.knows)
    scope.approaches
  /-- The registered names of reporter elements, each where it comes first. -/
  reporter_names : scope.reporters.names =
    (((heldItems e "reporting" "reporter").filter s.catalog.reporters.knows).filterMap
      Element.name?).eraseDups
  /-- A reporter comes from the last element of its name. Over the default panel lie its own
  acceptors under new names, and over these the caller's for that reporter. -/
  slot : ∀ name slot, scope.reporters.get? name = some slot → ∃ d own,
    ((heldItems e "reporting" "reporter").filter fun d => d.name? == some name).getLast? = some d ∧
    s.catalog.reporters.Makes s.site d (name, slot.reporter) ∧
    s.panelOf (ownFiltering d) = .ok own ∧
    slot.acceptors = (scope.acceptors.overlay (own.renamed fun tag => name ++ ":" ++ tag)).overlay
      (s.overrides.panelFor name)

/-! ## The caller's acceptors for reporters -/

theorem overlay_empty (p : Panel) : p.overlay ⟨∅⟩ = p :=
  Panel.ext_get? fun name => p.get?_overlay ⟨∅⟩ name

/-- What the caller gives for a reporter lies over that reporter's panel. -/
theorem overrideReporters_eq_map (s : Setup α ρ ω) (built : Roster (Slot ρ)) :
    s.overrideReporters built = built.map fun name slot =>
      { slot with acceptors := slot.acceptors.overlay (s.overrides.panelFor name) } := by
  unfold overrideReporters Overrides.panelFor
  congr 1
  funext name slot
  cases s.overrides.reporters[name]? with
  | none => exact congrArg (Slot.mk slot.reporter) (overlay_empty slot.acceptors).symm
  | some acceptors =>
    exact congrArg (Slot.mk slot.reporter) (slot.acceptors.insertAll_toList ⟨acceptors⟩)

theorem get?_overrideReporters (built : Roster (Slot ρ)) (name : String) :
    (s.overrideReporters built).get? name = (built.get? name).map fun slot =>
      { slot with acceptors := slot.acceptors.overlay (s.overrides.panelFor name) } := by
  rw [overrideReporters_eq_map, Roster.get?_map]

theorem names_overrideReporters (built : Roster (Slot ρ)) :
    (s.overrideReporters built).names = built.names :=
  Roster.names_map _ built

theorem panelFor_withReporterAcceptor (o : Overrides) (reporter name other : String)
    (acceptor : Acceptor) :
    (o.withReporterAcceptor reporter name acceptor).panelFor other =
      if other = reporter then (o.panelFor other).insert name acceptor else o.panelFor other := by
  simp only [Overrides.panelFor, Overrides.withReporterAcceptor, Std.ExtTreeMap.getElem?_insert,
    Std.compare_eq_iff_eq]
  by_cases h : reporter = other
  · subst h
    simp [Panel.insert]
  · simp [h, Ne.symm h]

/-- One more acceptor for a reporter goes into the panel of that reporter and nowhere else. -/
theorem overrideReporters_overriding (s : Setup α ρ ω) (reporter name : String)
    (acceptor : Acceptor) (built : Roster (Slot ρ)) :
    (s.overriding reporter name acceptor).overrideReporters built =
      (s.overrideReporters built).modify reporter fun slot =>
        { slot with acceptors := slot.acceptors.insert name acceptor } := by
  have hinsert (p q : Panel) : p.overlay (q.insert name acceptor) =
      (p.overlay q).insert name acceptor := by
    apply Panel.ext_get?
    intro other
    rw [Panel.get?_overlay, Panel.get?_insert, Panel.get?_insert, Panel.get?_overlay]
    split <;> rfl
  simp only [overrideReporters_eq_map, Roster.modify, Roster.map, overriding, List.map_map,
    Roster.mk.injEq]
  apply List.map_congr_left
  intro entry _
  simp only [Function.comp, panelFor_withReporterAcceptor]
  split
  · rw [hinsert]
  · rfl

theorem load_overriding (h : (s.load e).outcome = .ok scope) (reporter name : String)
    (acceptor : Acceptor) :
    ((s.overriding reporter name acceptor).load e).outcome =
      .ok { scope with
        reporters := scope.reporters.modify reporter fun slot =>
          { slot with acceptors := slot.acceptors.insert name acceptor } } := by
  obtain ⟨title, approaches, d, built, hname, happroaches, hd, hbuilt, rfl⟩ := load_eq_ok_iff.1 h
  refine load_eq_ok_iff.2 ⟨title, approaches, d, built, hname, happroaches, hd, hbuilt, ?_⟩
  rw [overrideReporters_overriding]
  rfl

/-! ## Layer by layer -/

/-- A panel that falls back to the managed ranges holds an acceptor, and what is laid over it takes
none away. -/
theorem isEmpty_overlay_fallback (s : Setup α ρ ω) (p q : Panel) :
    ((if p.isEmpty then s.managedOnly else p).overlay q).isEmpty = false := by
  have hbase : (if p.isEmpty then s.managedOnly else p).isEmpty = false := by
    cases hp : p.isEmpty with
    | true =>
      refine Panel.isEmpty_eq_false_iff.2
        ⟨RangePolicy.pluginName, .range (RangePolicy.managedOnly s.site), ?_⟩
      simp [managedOnly]
    | false => simpa using hp
  obtain ⟨name, acceptor, hget⟩ := Panel.isEmpty_eq_false_iff.1 hbase
  rw [Panel.isEmpty_eq_false_iff]
  cases hq : q.get? name with
  | none => exact ⟨name, acceptor, by rw [Panel.get?_overlay, hq, hget]; rfl⟩
  | some caller => exact ⟨name, caller, by rw [Panel.get?_overlay, hq]; rfl⟩

/-- The names under which the elements that are taken make their values. -/
theorem map_fst_of_forall₂ {es : List Element} {entries : List (String × Slot ρ)} {p : Panel}
    (h : List.Forall₂ (s.MakesSlot p) es entries) :
    entries.map Prod.fst = es.filterMap Element.name? := by
  induction h with
  | nil => rfl
  | cons hm _ ih => rw [List.map_cons, List.filterMap_cons_some hm.1.1, ih]

theorem names_of_gathers {es : List Element} {entries : List (String × Slot ρ)} {p : Panel}
    (h : Gathers s.catalog.reporters.Misses (s.MakesSlot p) es entries) :
    (Roster.ofList entries).names =
      ((es.filter s.catalog.reporters.knows).filterMap Element.name?).eraseDups := by
  have hpairs := h.forall₂_filter (fun _ => Registry.knows_of_misses)
    fun _ _ hm => Registry.knows_of_makes hm.1
  rw [Roster.names_ofList, map_fst_of_forall₂ hpairs]

/-- A reporter that is there was made by the last element of its name. -/
theorem slot_of_gathers {es : List Element} {entries : List (String × Slot ρ)} {p : Panel}
    (h : Gathers s.catalog.reporters.Misses (s.MakesSlot p) es entries) {name : String}
    {slot : Slot ρ} (hslot : (Roster.ofList entries).get? name = some slot) :
    ∃ d, (es.filter fun d => d.name? == some name).getLast? = some d ∧
      s.MakesSlot p d (name, slot) := by
  rw [Roster.get?_ofList] at hslot
  obtain ⟨entry, hlast, rfl⟩ := Option.map_eq_some_iff.1 hslot
  obtain ⟨hmem, hname⟩ := List.mem_filter.1 (List.mem_of_getLast? hlast)
  obtain rfl := beq_iff_eq.1 hname
  obtain ⟨maker, -, ⟨-, factory, hregistered, -⟩, -⟩ := h.exists_of_mem hmem
  have hsame : ∀ d (other : String × Slot ρ), s.MakesSlot p d other →
      (d.name? == some entry.1) = (other.1 == entry.1) := by
    intro d other hm
    rw [hm.1.1]
    rfl
  -- the name is registered, as it made a reporter; so no element of that name was passed over
  have hknown : ∀ d ∈ es.filter fun d => d.name? == some entry.1,
      ¬ s.catalog.reporters.Misses d := by
    rintro d hd ⟨other, hother, hmissing⟩
    have heq : some other = some entry.1 := hother.symm.trans (beq_iff_eq.1 (List.mem_filter.1 hd).2)
    rw [Option.some.inj heq, hregistered] at hmissing
    exact Option.some_ne_none _ hmissing
  have hpairs := getLast?_of_forall₂ ((h.filter hsame).forall₂_of_forall_not hknown)
  rw [hlast] at hpairs
  generalize (es.filter fun d => d.name? == some entry.1).getLast? = last at hpairs ⊢
  cases hpairs with
  | some hm => exact ⟨_, rfl, hm⟩

theorem Layered.of_load (h : (s.load e).outcome = .ok scope) : Layered s e scope := by
  obtain ⟨title, approaches, d, built, -, happroaches, hd, hbuilt, rfl⟩ := load_eq_ok_iff.1 h
  obtain ⟨p, hp, rfl⟩ := defaultPanel_eq_ok_iff.1 hd
  obtain ⟨entries, hentries, rfl⟩ := reporters_eq_ok_iff.1 hbuilt
  refine
    { acceptors := ⟨p, (congrArg s.panelOf (defaultFiltering?_eq e)).trans hp, rfl⟩
      acceptors_nonempty := s.isEmpty_overlay_fallback p _
      approaches := ?_
      reporter_names := ?_
      slot := ?_ }
  · exact (approaches_eq_ok_iff.1 happroaches).forall₂_filter (fun _ => Registry.knows_of_misses)
      fun _ _ => Registry.knows_of_makes
  · exact (names_overrideReporters _).trans (names_of_gathers hentries)
  · intro name slot hslot
    rw [get?_overrideReporters, Option.map_eq_some_iff] at hslot
    obtain ⟨plain, hplain, rfl⟩ := hslot
    obtain ⟨maker, hlast, hmakes, own, hown, hacceptors⟩ := slot_of_gathers hentries hplain
    refine ⟨maker, own, hlast, hmakes, hown, ?_⟩
    show plain.acceptors.overlay _ = _
    rw [hacceptors]
    rfl

/-- **The layers of a loaded scope.** The scope is `Layered`. A further acceptor that the caller
gives for a reporter goes into that reporter's panel under its name and changes nothing else, and
one for a reporter that the scope does not have changes nothing at all. -/
theorem layers_of_load (h : (s.load e).outcome = .ok scope) :
    Layered s e scope ∧
      ∀ reporter name acceptor, ((s.overriding reporter name acceptor).load e).outcome =
        .ok (if reporter ∈ scope.reporters.names then
            { scope with
              reporters := scope.reporters.modify reporter fun slot =>
                { slot with acceptors := slot.acceptors.insert name acceptor } }
          else scope) := by
  refine ⟨.of_load h, fun reporter name acceptor => ?_⟩
  rw [load_overriding h]
  split
  · rfl
  · next habsent => rw [Roster.modify_of_not_mem habsent]

end Setup

/-! ## A scope with collisions -/

namespace Sample

def item (tag text : String) : Element :=
  (Element.ofTag tag).withText text

/-- An acceptor element with one identifier to include. -/
def including (plugin itemTag identifier : String) : Element :=
  (Element.ofTag plugin).withChildren
    [(Element.ofTag "include").withChildren [item itemTag identifier]]

def reporter (name : String) (acceptors : List Element) : Element :=
  ((Element.ofTag "reporter").withAttribute "name" name).withChildren
    [(Element.ofTag "filtering").withChildren acceptors]

def approach (name : String) : Element :=
  (Element.ofTag "approach").withAttribute "name" name

/-- Two reporters, the first of which is configured twice, and a default policy. -/
def lab : Element :=
  ((Element.ofTag "scope").withAttribute "name" "lab").withChildren
    [(Element.ofTag "reporting").withChildren
      [(Element.ofTag "configuration").withChildren
          [(Element.ofTag "filtering").withChildren
            [including "ranges" "range" "10.0.0.0/8", including "services" "service" "*"]],
        reporter "audit" [including "ranges" "range" "10.0.7.0/24"],
        reporter "cmdb" [Element.ofTag "ranges", including "services" "service" "80"],
        reporter "audit" [including "ranges" "range" "*"]]]

def site : Site where
  agent := ⟨10, 0, 0, 5⟩
  managed := ⟨[.block (Block.host ⟨10, 0, 0, 5⟩)]⟩
  ports := (PortCatalog.ofList [⟨80, true, "http"⟩]).directory
  outOfScope := fun _ => false

/-- Rejects everything. -/
def refusal : Acceptor :=
  .custom (fun _ => true) fun _ => false

/-- The caller puts an acceptor under a name that a reporter's own acceptor will take. -/
def setup : Setup Unit Unit Unit where
  catalog :=
    { acceptors := .standard
      approaches := .empty
      reporters := Registry.ofList [("audit", fun _ _ => pure ()), ("cmdb", fun _ _ => pure ())] }
  site := site
  overrides := (Overrides.empty.withAcceptor "audit:ranges" refusal).withReporterAcceptor
    "cmdb" "ranges" refusal
  observers := []

theorem exists_load : ∃ scope, (setup.load lab).outcome = .ok scope :=
  exists_ok_of_isOk (by decide +kernel)

/-- The same setup with one approach. -/
def probing : Setup Unit Unit Unit :=
  { setup with
    catalog := { setup.catalog with approaches := Registry.ofList [("probe", fun _ _ => pure ())] } }

/-- The scope `lab` with approaches. One is configured twice, one is switched off, and one has no
plugin; those of the second element do not count. -/
def probedLab : Element :=
  lab.withChildren
    [(Element.ofTag "serverDetectionApproach").withChildren
        [approach "probe", (approach "probe").withAttribute "active" "off", approach "ghost",
          approach "probe"],
      (Element.ofTag "serverDetectionApproach").withChildren [approach "probe"]]

/-- A node that the acceptors of the caller make the scope reject. -/
def insider : Entity :=
  .node ⟨.v4 ⟨10, 1, 2, 3⟩, none⟩

/-- The acceptors of a reporter by name, each with whether it rejects an entity. -/
def rejections (scope : Scope Unit Unit Unit) (reporter : String) (e : Entity) :
    List (String × Bool) :=
  (scope.reporterPanel? reporter).elim [] fun p =>
    p.toList.map fun entry => (entry.1, entry.2.rejects e)

/-- The approaches and reporters of `probedLab`. The caller's acceptor `audit:ranges` rejects the
node; the first reporter's own one, which does not, takes its place there and nowhere else. -/
structure ProbedLab (scope : Scope Unit Unit Unit) : Prop where
  approaches : scope.approaches.map Prod.fst = ["probe", "probe"]
  reporter_names : scope.reporters.names = ["audit", "cmdb"]
  audit : rejections scope "audit" insider =
    [("audit:ranges", false), ("ranges", false), ("services", false)]
  cmdb : rejections scope "cmdb" insider =
    [("audit:ranges", true), ("cmdb:services", false), ("ranges", true), ("services", false)]

theorem layers_of_load_lab : ∃ scope, (probing.load probedLab).outcome = .ok scope ∧
    Setup.Layered probing probedLab scope ∧ ProbedLab scope ∧
    ((probing.overriding "nobody" "ranges" refusal).load probedLab).outcome =
      .ok (if "nobody" ∈ scope.reporters.names then
          { scope with
            reporters := scope.reporters.modify "nobody" fun slot =>
              { slot with acceptors := slot.acceptors.insert "ranges" refusal } }
        else scope) := by
  have hfacts : ((probing.load probedLab).outcome.toOption.map fun scope =>
      (scope.approaches.map Prod.fst, scope.reporters.names,
        ["audit", "cmdb"].map fun reporter => rejections scope reporter insider)) =
      some (["probe", "probe"], ["audit", "cmdb"],
        [[("audit:ranges", false), ("ranges", false), ("services", false)],
          [("audit:ranges", true), ("cmdb:services", false), ("ranges", true),
            ("services", false)]]) := by
    decide +kernel
  cases hload : (probing.load probedLab).outcome with
  | error cause =>
    rw [hload] at hfacts
    cases hfacts
  | ok scope =>
    rw [hload] at hfacts
    simp only [Except.toOption, Option.map_some, Option.some.injEq, Prod.mk.injEq, List.map_cons,
      List.map_nil, List.cons.injEq, and_true] at hfacts
    obtain ⟨happroaches, hnames, haudit, hcmdb⟩ := hfacts
    have hlayers := Setup.layers_of_load hload
    exact ⟨scope, rfl, hlayers.1, ⟨happroaches, hnames, haudit, hcmdb⟩,
      hlayers.2 "nobody" "ranges" refusal⟩

end Sample

end DiscoveryFilter
