import DiscoveryFilter.Panel
import DiscoveryFilter.Proofs.Keyed
import Mathlib.Logic.Function.Basic

/-!
# Overlaid panels

`Panel.overlay` lays the acceptors of one panel over those of another, and `Panel.renamed` moves
acceptors to other names. Inserting acceptors one after the other, as panels are built, comes to
an overlay: under each name the last acceptor counts.
-/

namespace DiscoveryFilter

namespace Panel

/-- The acceptors of both panels. Under a name of both, the acceptor of the second one counts. -/
def overlay (p q : Panel) : Panel :=
  ⟨p.acceptors ∪ q.acceptors⟩

/-- The same acceptors, each under a new name made from its old one. -/
def renamed (p : Panel) (rename : String → String) : Panel :=
  ofList (p.toList.map fun entry => (rename entry.1, entry.2))

theorem get?_overlay (p q : Panel) (name : String) :
    (p.overlay q).get? name = (q.get? name).or (p.get? name) :=
  Std.ExtTreeMap.getElem?_union

theorem mem_names_iff {p : Panel} {name : String} :
    name ∈ p.names ↔ ∃ acceptor, p.get? name = some acceptor := by
  rw [names, Std.ExtTreeMap.mem_keys, ← Std.ExtTreeMap.isSome_getElem?_iff_mem,
    Option.isSome_iff_exists, get?]

theorem isEmpty_iff {p : Panel} : p.isEmpty = true ↔ ∀ name, p.get? name = none := by
  rw [isEmpty, Std.ExtTreeMap.isEmpty_iff]
  constructor
  · intro h name
    rw [get?, h, Std.ExtTreeMap.getElem?_empty]
  · intro h
    apply Std.ExtTreeMap.ext_getElem?
    intro name
    rw [Std.ExtTreeMap.getElem?_empty]
    exact h name

theorem isEmpty_eq_false_iff {p : Panel} :
    p.isEmpty = false ↔ ∃ name acceptor, p.get? name = some acceptor := by
  rw [← Bool.not_eq_true, isEmpty_iff, not_forall]
  exact exists_congr fun name => Option.ne_none_iff_exists'

/-! ## One acceptor after the other -/

/-- The last entry of a name counts, and a name without an entry keeps its acceptor. -/
theorem get?_insertAll (p : Panel) (entries : List (String × Acceptor)) (name : String) :
    (p.insertAll entries).get? name =
      ((entries.filter fun entry => entry.1 == name).getLast?.map Prod.snd).or (p.get? name) :=
  get_foldl_put get?_insert p entries name

theorem get?_insertAll_of_forall_ne {p : Panel} {entries : List (String × Acceptor)} {name : String}
    (h : ∀ entry ∈ entries, entry.1 ≠ name) : (p.insertAll entries).get? name = p.get? name := by
  have hnil : (entries.filter fun entry => entry.1 == name) = [] :=
    List.filter_eq_nil_iff.2 fun entry hm => mt beq_iff_eq.1 (h entry hm)
  rw [get?_insertAll, hnil, List.getLast?_nil, Option.map_none, Option.none_or]

theorem get?_insertAll_of_mem {p : Panel} {entries : List (String × Acceptor)} {name : String}
    {acceptor : Acceptor} (hm : (name, acceptor) ∈ entries)
    (hu : ∀ other, (name, other) ∈ entries → other = acceptor) :
    (p.insertAll entries).get? name = some acceptor := by
  have hne : (entries.filter fun entry => entry.1 == name) ≠ [] :=
    List.ne_nil_of_mem (List.mem_filter.2 ⟨hm, beq_self_eq_true name⟩)
  obtain ⟨last, hlast⟩ := Option.ne_none_iff_exists'.1 (mt List.getLast?_eq_none_iff.1 hne)
  obtain ⟨hmem, hname⟩ := List.mem_filter.1 (List.mem_of_getLast? hlast)
  obtain rfl := beq_iff_eq.1 hname
  rw [get?_insertAll, hlast, Option.map_some, Option.some_or, hu last.2 hmem]

/-- Inserting what a panel holds lays the panel over. -/
theorem insertAll_toList (p q : Panel) : p.insertAll q.toList = p.overlay q := by
  apply ext_get?
  intro name
  rw [get?_overlay]
  cases hq : q.get? name with
  | none =>
    apply get?_insertAll_of_forall_ne
    intro entry hm hname
    rw [← hname, mem_toList_iff.1 hm] at hq
    exact Option.some_ne_none _ hq
  | some acceptor =>
    apply get?_insertAll_of_mem (mem_toList_iff.2 hq)
    intro other hm
    rw [mem_toList_iff, hq] at hm
    exact (Option.some.inj hm).symm

/-! ## New names -/

section Renamed

variable {rename : String → String}

theorem get?_renamed (hf : Function.Injective rename) (p : Panel) (name : String) :
    (p.renamed rename).get? (rename name) = p.get? name := by
  cases hp : p.get? name with
  | none =>
    rw [← get?_empty (rename name)]
    apply get?_insertAll_of_forall_ne
    intro entry hm hname
    obtain ⟨old, hold, rfl⟩ := List.mem_map.1 hm
    rw [← hf hname, mem_toList_iff.1 hold] at hp
    exact Option.some_ne_none _ hp
  | some acceptor =>
    apply get?_insertAll_of_mem (List.mem_map.2 ⟨_, mem_toList_iff.2 hp, rfl⟩)
    intro other hm
    obtain ⟨old, hold, heq⟩ := List.mem_map.1 hm
    obtain ⟨hname, rfl⟩ := Prod.ext_iff.1 heq
    rw [← hf hname] at hp
    exact Option.some.inj ((mem_toList_iff.1 hold).symm.trans hp)

theorem get?_renamed_of_forall_ne {name : String} (h : ∀ old, rename old ≠ name) (p : Panel) :
    (p.renamed rename).get? name = none := by
  rw [← get?_empty name]
  apply get?_insertAll_of_forall_ne
  intro entry hm
  obtain ⟨old, -, rfl⟩ := List.mem_map.1 hm
  exact h old.1

/-- Inserting entries under new names lays the panel of the entries, renamed, over. -/
theorem insertAll_map_rename (hf : Function.Injective rename) (p : Panel)
    (entries : List (String × Acceptor)) :
    p.insertAll (entries.map fun entry => (rename entry.1, entry.2)) =
      p.overlay ((ofList entries).renamed rename) := by
  apply ext_get?
  intro name
  rw [get?_overlay]
  by_cases hname : ∃ old, rename old = name
  · obtain ⟨old, rfl⟩ := hname
    have hfilter : (fun entry : String × Acceptor => entry.1 == rename old) ∘
        (fun entry : String × Acceptor => (rename entry.1, entry.2)) =
          fun entry => entry.1 == old := by
      funext entry
      exact Bool.eq_iff_iff.2 (by simp only [Function.comp, beq_iff_eq, hf.eq_iff])
    rw [get?_renamed hf, ofList, get?_insertAll, get?_insertAll, get?_empty, List.filter_map,
      hfilter, List.getLast?_map, Option.map_map, Option.or_none]
    rfl
  · have hne : ∀ old, rename old ≠ name := not_exists.1 hname
    rw [get?_renamed_of_forall_ne hne, Option.none_or]
    apply get?_insertAll_of_forall_ne
    intro entry hm
    obtain ⟨old, -, rfl⟩ := List.mem_map.1 hm
    exact hne old.1

end Renamed

end Panel

end DiscoveryFilter
