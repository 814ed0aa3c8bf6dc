import DiscoveryFilter.Proofs.Panel.Overlay

/-!
# Panels in the making

A host makes a panel step by step: it inserts acceptors, starts over with a list of them, and keeps
those of some names. `Held` tells from the steps alone what the panel has under a name in the end,
and everything that a panel answers is told by what it holds.
-/

namespace DiscoveryFilter

/-- A step in the making of a panel. -/
inductive Edit where
  /-- Puts an acceptor under a name, in place of the one that was there. -/
  | insert (name : String) (acceptor : Acceptor)
  /-- Starts over with acceptors under their names, put there one after the other. -/
  | collect (entries : List (String × Acceptor))
  /-- Keeps the acceptors under the given names. -/
  | subset (names : List String)

namespace Edit

/-- The step puts the acceptor under the name, and no other after it. -/
def Puts (name : String) (acceptor : Acceptor) : Edit → Prop
  | .insert other new => other = name ∧ new = acceptor
  | .collect entries => ∃ before after, entries = before ++ (name, acceptor) :: after ∧
      ∀ entry ∈ after, entry.1 ≠ name
  | .subset _ => False

/-- What is under the name stays there. -/
def Spares (name : String) : Edit → Prop
  | .insert other _ => other ≠ name
  | .collect _ => False
  | .subset names => name ∈ names

/-- The steps that insert some entries one after the other. -/
def inserts (entries : List (String × Acceptor)) : List Edit :=
  entries.map fun entry => .insert entry.1 entry.2

end Edit

/-- The acceptor was put under the name, and all later steps spared it. -/
def Held (edits : List Edit) (name : String) (acceptor : Acceptor) : Prop :=
  ∃ before edit after, edits = before ++ edit :: after ∧ edit.Puts name acceptor ∧
    ∀ later ∈ after, later.Spares name

/-- The acceptor shows no service policy, or it is the one that it shows. -/
def Acceptor.ShowsItself (a : Acceptor) : Prop :=
  ∀ policy, a.face = .service policy → a = .service policy

namespace Panel

/-- The panel after one more step. -/
def edit (p : Panel) : Edit → Panel
  | .insert name acceptor => p.insert name acceptor
  | .collect entries => ofList entries
  | .subset names => p.subset names

/-- The panel that is made by some steps from the empty one. -/
def edited (edits : List Edit) : Panel :=
  edits.foldl edit empty

/-- The names of the panel that are not among the given ones. -/
def namesBeside (p : Panel) (names : List String) : List String :=
  p.names.filter fun name => !names.contains name

variable {p : Panel} {name : String} {acceptor : Acceptor} {e : Entity}

/-! ## Subsets -/

/-- A subset holds what the panel holds under the given names. -/
theorem get?_subset (p : Panel) (names : List String) (name : String) :
    (p.subset names).get? name = if name ∈ names then p.get? name else none := by
  have hentry {entry : String × Acceptor} (hm : entry ∈ names.filterMap fun name =>
      (p.get? name).map fun acceptor => (name, acceptor)) :
      entry.1 ∈ names ∧ p.get? entry.1 = some entry.2 := by
    obtain ⟨other, hother, hmap⟩ := List.mem_filterMap.1 hm
    obtain ⟨acceptor, hget, rfl⟩ := Option.map_eq_some_iff.1 hmap
    exact ⟨hother, hget⟩
  have habsent (h : ¬ (name ∈ names ∧ ∃ acceptor, p.get? name = some acceptor)) :
      (p.subset names).get? name = none := by
    rw [← get?_empty name]
    apply get?_insertAll_of_forall_ne
    rintro entry hm rfl
    obtain ⟨hname, hget⟩ := hentry hm
    exact h ⟨hname, entry.2, hget⟩
  split
  · next hname =>
    cases hget : p.get? name with
    | none =>
      apply habsent
      rintro ⟨-, acceptor, hsome⟩
      rw [hget] at hsome
      cases hsome
    | some acceptor =>
      have hmem : (name, acceptor) ∈ names.filterMap fun name =>
          (p.get? name).map fun acceptor => (name, acceptor) :=
        List.mem_filterMap.2 ⟨name, hname, by rw [hget, Option.map_some]⟩
      apply get?_insertAll_of_mem hmem
      intro other hm
      have hother := (hentry hm).2
      rw [hget] at hother
      exact (Option.some.inj hother).symm
  · next hname =>
    apply habsent
    intro h
    exact hname h.1

/-- Neither the order nor the number of the names has a part in the subset. -/
theorem subset_congr {names names' : List String} (h : ∀ name, name ∈ names ↔ name ∈ names') :
    p.subset names = p.subset names' := by
  apply ext_get?
  intro name
  rw [get?_subset, get?_subset]
  simp only [h]

theorem mem_namesBeside_iff {names : List String} :
    name ∈ p.namesBeside names ↔ (∃ acceptor, p.get? name = some acceptor) ∧ name ∉ names := by
  rw [namesBeside, List.mem_filter, mem_names_iff]
  simp

/-- A subset rejects nothing that the panel accepts. -/
theorem accepts_subset (h : p.accepts e = true) (names : List String) :
    (p.subset names).accepts e = true := by
  rw [accepts_iff] at h ⊢
  intro name acceptor hget
  rw [get?_subset] at hget
  split at hget
  · exact h name acceptor hget
  · cases hget

/-- Every acceptor of the panel is under one of the names or under a name beside them. -/
theorem accepts_iff_subsets (p : Panel) (names : List String) (e : Entity) :
    p.accepts e = true ↔
      (p.subset names).accepts e = true ∧ (p.subset (p.namesBeside names)).accepts e = true := by
  constructor
  · intro h
    exact ⟨accepts_subset h names, accepts_subset h _⟩
  · rintro ⟨hnames, hbeside⟩
    rw [accepts_iff] at hnames hbeside ⊢
    intro name acceptor hget
    by_cases hname : name ∈ names
    · apply hnames name acceptor
      rw [get?_subset, if_pos hname, hget]
    · apply hbeside name acceptor
      rw [get?_subset, if_pos (mem_namesBeside_iff.2 ⟨⟨acceptor, hget⟩, hname⟩), hget]

/-! ## Steps -/

theorem get?_ofList_eq_some_iff {entries : List (String × Acceptor)} :
    (ofList entries).get? name = some acceptor ↔
      ∃ before after, entries = before ++ (name, acceptor) :: after ∧
        ∀ entry ∈ after, entry.1 ≠ name := by
  have hstep (q : Panel) (entry : String × Acceptor) :
      (q.insert entry.1 entry.2).get? name = some acceptor ↔
        entry = (name, acceptor) ∨ entry.1 ≠ name ∧ q.get? name = some acceptor := by
    rw [get?_insert, Prod.ext_iff]
    by_cases hname : entry.1 = name <;> simp [hname]
  refine (foldl_iff_last (fun q : Panel => q.get? name = some acceptor) hstep empty entries).trans ?_
  simp only [get?_empty, reduceCtorEq, and_false, or_false]
  constructor
  · rintro ⟨before, entry, after, hsplit, rfl, hafter⟩
    exact ⟨before, after, hsplit, hafter⟩
  · rintro ⟨before, after, hsplit, hafter⟩
    exact ⟨before, _, after, hsplit, rfl, hafter⟩

/-- What is under a name after a step was put there by it, or was there and was spared. -/
theorem get?_edit_eq_some_iff (p : Panel) (step : Edit) : (p.edit step).get? name = some acceptor ↔
    step.Puts name acceptor ∨ step.Spares name ∧ p.get? name = some acceptor := by
  cases step with
  | insert other new =>
    simp only [edit, get?_insert, Edit.Puts, Edit.Spares]
    by_cases hname : other = name <;> simp [hname]
  | collect entries =>
    simp only [edit, get?_ofList_eq_some_iff, Edit.Puts, Edit.Spares, false_and, or_false]
  | subset names =>
    simp only [edit, get?_subset, Edit.Puts, Edit.Spares, false_or]
    by_cases hname : name ∈ names <;> simp [hname]

/-- The run of the steps leaves what they put there last. -/
theorem get?_edited_eq_some_iff (edits : List Edit) :
    (edited edits).get? name = some acceptor ↔ Held edits name acceptor := by
  refine (foldl_iff_last (fun p : Panel => p.get? name = some acceptor) get?_edit_eq_some_iff empty
    edits).trans ?_
  simp only [get?_empty, reduceCtorEq, and_false, or_false]
  rfl

theorem edited_append (before after : List Edit) :
    edited (before ++ after) = after.foldl edit (edited before) :=
  List.foldl_append

theorem foldl_edit_inserts (p : Panel) (entries : List (String × Acceptor)) :
    (Edit.inserts entries).foldl edit p = p.insertAll entries :=
  List.foldl_map

/-- The order of insertions under different names has no part in the panel. -/
theorem insertAll_congr {entries entries' : List (String × Acceptor)}
    (h : ∀ name, (entries.filter fun entry => entry.1 == name) =
      entries'.filter fun entry => entry.1 == name) : p.insertAll entries = p.insertAll entries' := by
  apply ext_get?
  intro name
  rw [get?_insertAll, get?_insertAll, h]

/-! ## What panels answer -/

/-- The names of a port are those that the service policies which the panel's acceptors show have
for it. -/
theorem mem_portNames_iff {port : Port} {service : String} :
    service ∈ p.portNames port ↔ ∃ name acceptor policy services, p.get? name = some acceptor ∧
      acceptor.face = .service policy ∧ policy.portNames? port = some services ∧
        service ∈ services := by
  rw [portNames, Std.ExtTreeSet.mem_ofList, List.contains_iff_mem, List.mem_flatMap]
  constructor
  · rintro ⟨services, hservices, hmem⟩
    obtain ⟨⟨name, acceptor⟩, hentry, hnames⟩ := List.mem_filterMap.1 hservices
    obtain ⟨policy, hface, hport⟩ := Option.bind_eq_some_iff.1 hnames
    exact ⟨name, acceptor, policy, services, mem_toList_iff.1 hentry,
      Acceptor.service?_eq_some_iff.1 hface, hport, Std.ExtTreeSet.mem_toList.1 hmem⟩
  · rintro ⟨name, acceptor, policy, services, hget, hface, hport, hmem⟩
    refine ⟨services, List.mem_filterMap.2 ⟨(name, acceptor), mem_toList_iff.2 hget, ?_⟩,
      Std.ExtTreeSet.mem_toList.2 hmem⟩
    exact Option.bind_eq_some_iff.2 ⟨policy, Acceptor.service?_eq_some_iff.2 hface, hport⟩

/-- **Panels are told by their making.** Whatever steps a panel is made by, it holds under each name
what was put there last, if all later steps spared it. It accepts an entity unless an acceptor that
it holds has an opinion against it, and so do any subset and the rest between them. Neither the
order of insertions under different names nor the repetition of names in a subset has a part in it.
Its names of a port are those of the service policies that its acceptors show, which are the service
policies that it holds unless an acceptor shows a policy other than itself. -/
theorem answers_of_edited (edits : List Edit) :
    (∀ name acceptor, (edited edits).get? name = some acceptor ↔ Held edits name acceptor) ∧
      (∀ e, (edited edits).accepts e = true ↔ ∀ name acceptor, Held edits name acceptor →
        acceptor.isApplicable e = true → acceptor.accepts e = true) ∧
      (∀ names e, (edited edits).accepts e = true ↔
        ((edited edits).subset names).accepts e = true ∧
          ((edited edits).subset ((edited edits).namesBeside names)).accepts e = true) ∧
      (∀ entries entries' after,
        (∀ name, (entries.filter fun entry => entry.1 == name) =
          entries'.filter fun entry => entry.1 == name) →
        edited (edits ++ Edit.inserts entries ++ after) =
            edited (edits ++ Edit.inserts entries' ++ after) ∧
          edited (edits ++ [.collect entries] ++ after) =
            edited (edits ++ [.collect entries'] ++ after)) ∧
      (∀ names names', (∀ name, name ∈ names ↔ name ∈ names') →
        (edited edits).subset names = (edited edits).subset names') ∧
      (∀ port service, service ∈ (edited edits).portNames port ↔
        ∃ name acceptor policy services, Held edits name acceptor ∧
          acceptor.face = .service policy ∧ policy.portNames? port = some services ∧
            service ∈ services) ∧
      ((∀ name acceptor, Held edits name acceptor → acceptor.ShowsItself) →
        ∀ port service, service ∈ (edited edits).portNames port ↔
          ∃ name policy services, Held edits name (.service policy) ∧
            policy.portNames? port = some services ∧ service ∈ services) := by
  have hnames (port : Port) (service : String) : service ∈ (edited edits).portNames port ↔
      ∃ name acceptor policy services, Held edits name acceptor ∧
        acceptor.face = .service policy ∧ policy.portNames? port = some services ∧
          service ∈ services := by
    simp only [mem_portNames_iff, get?_edited_eq_some_iff]
  refine ⟨fun _ _ => get?_edited_eq_some_iff edits, fun e => ?_, accepts_iff_subsets _, ?_, ?_,
    hnames, ?_⟩
  · simp only [accepts_iff, get?_edited_eq_some_iff, Acceptor.rejects_eq_false_iff]
  · intro entries entries' after h
    have hcollect (p : Panel) : p.edit (.collect entries) = p.edit (.collect entries') :=
      insertAll_congr h
    simp only [edited_append, foldl_edit_inserts, insertAll_congr h, List.foldl_cons,
      List.foldl_nil, hcollect, and_self]
  · intro names names' h
    exact subset_congr h
  · intro hshows port service
    rw [hnames]
    constructor
    · rintro ⟨name, acceptor, policy, services, hheld, hface, hport, hmem⟩
      obtain rfl := hshows name acceptor hheld policy hface
      exact ⟨name, policy, services, hheld, hport, hmem⟩
    · rintro ⟨name, policy, services, hheld, hport, hmem⟩
      exact ⟨name, _, policy, services, hheld, rfl, hport, hmem⟩

end Panel

namespace Sample

/-- An acceptor with one opinion on everything. -/
def always (verdict : Bool) : Acceptor :=
  .custom (fun _ => true) fun _ => verdict

/-- One acceptor is replaced, another one is dropped. -/
def edits : List Edit :=
  [.collect [("audit", always false), ("vendor", always false)], .insert "audit" (always true),
    .subset ["audit", "ranges", "audit"]]

/-- The subset drops `vendor`, and `audit` was replaced before it. -/
theorem held_edits {name : String} {acceptor : Acceptor} (h : Held edits name acceptor) :
    acceptor = always true := by
  have hget := (Panel.get?_edited_eq_some_iff edits).2 h
  simp only [edits, Panel.edited, List.foldl_cons, List.foldl_nil, Panel.edit, Panel.get?_subset,
    Panel.get?_insert, Panel.ofList, Panel.insertAll] at hget
  split at hget
  · next hmem =>
    split at hget
    · exact (Option.some.inj hget).symm
    · split at hget
      · next hvendor =>
        subst hvendor
        exact absurd hmem (by decide)
      · rw [Panel.get?_empty] at hget
        cases hget
  · cases hget

/-- A service policy that includes one port under one name. -/
def http : ServicePolicy :=
  ⟨.ofList [80], .empty, (∅ : PortNames).insert 80 (.ofList ["http"])⟩

/-- An acceptor that rejects everything and shows a service policy. -/
def portal : Acceptor :=
  .custom (fun _ => true) (fun _ => false) (.service http)

theorem answers_of_edited_audit :
    Held edits "audit" (always true) ∧ (Panel.edited edits).get? "audit" = some (always true) ∧
    (∀ e, (Panel.edited edits).accepts e = true) ∧
    Panel.edited (edits ++ Edit.inserts [("vendor", always false), ("audit", always false),
        ("audit", always true)] ++ [.subset ["audit"]]) =
      Panel.edited (edits ++ Edit.inserts [("audit", always false), ("audit", always true),
        ("vendor", always false)] ++ [.subset ["audit"]]) ∧
    (Panel.edited edits).subset ["audit", "ranges", "audit"] =
      (Panel.edited edits).subset ["ranges", "audit"] ∧
    (∀ port service, service ∉ (Panel.edited edits).portNames port) ∧
    "http" ∈ (Panel.edited (edits ++ [.insert "portal" portal])).portNames 80 := by
  obtain ⟨hget, haccepts, -, horder, hnames, hports, -⟩ := Panel.answers_of_edited edits
  have hheld : Held edits "audit" (always true) := by
    refine ⟨[_], _, [_], rfl, ⟨rfl, rfl⟩, ?_⟩
    simp [Edit.Spares]
  have hhttp : http.portNames? 80 = some (.ofList ["http"]) :=
    Std.ExtTreeMap.getElem?_insert_self
  obtain ⟨-, -, -, -, -, hportal, -⟩ :=
    Panel.answers_of_edited (edits ++ [.insert "portal" portal])
  refine ⟨hheld, (hget _ _).2 hheld, ?_, ?_, hnames _ _ (by simp [or_comm]), ?_,
    (hportal 80 "http").2 ⟨"portal", portal, http, _,
      ⟨edits, _, [], rfl, ⟨rfl, rfl⟩, List.forall_mem_nil _⟩, rfl, hhttp, by simp⟩⟩
  · intro e
    rw [haccepts]
    intro name acceptor h _
    rw [held_edits h]
    rfl
  · refine (horder _ _ _ fun name => ?_).1
    by_cases haudit : "audit" = name
    · subst haudit
      rfl
    · have hdrop : ("audit" == name) = false := beq_false_of_ne haudit
      by_cases hvendor : "vendor" = name <;> simp [hdrop, hvendor]
  · intro port service hservice
    obtain ⟨name, acceptor, policy, _, h, hface, -⟩ := (hports port service).1 hservice
    rw [held_edits h] at hface
    cases hface

end Sample

end DiscoveryFilter
