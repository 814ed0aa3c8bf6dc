import DiscoveryFilter.Proofs.Policy.Failure
import DiscoveryFilter.Proofs.RangeSet.Listing
import Mathlib.Logic.Relation

/-!
# Range policies told by their identifiers

`RangePolicy.build` succeeds on lists of `IsRangeIdentifier`s and on no others. The policy depends
on its lists only by what they say of nodes (`SaysSame`), so a list may be reworded: ordered anew,
given one of its identifiers again, or have a range set cut in two at a comma. One such change is a
`Rewording`, and what it keeps is kept by any number of them.
-/

namespace DiscoveryFilter

open Text

/-- Blanks around it aside, the identifier is one of five words or the text of a range set. -/
def IsRangeIdentifier (identifier : String) : Prop :=
  trimmed identifier ∈
      ["probe_ranges", "ddm_related_connections", "outscope_clients", "outscope_servers", "*"] ∨
    ∃ ranges, RangeSet.parse (trimmed identifier) = .ok ranges

/-- One change in the wording of a list of identifiers. -/
inductive Rewording : List String → List String → Prop
  /-- The identifiers in another order. -/
  | reorder {ids ids' : List String} : ids.Perm ids' → Rewording ids ids'
  /-- An identifier of the list once more. -/
  | again {ids : List String} {id : String} : id ∈ ids → Rewording ids (id :: ids)
  /-- Two range sets instead of one that joins them by a comma. -/
  | cut (before after : List String) {a b : String} {A B : RangeSet} :
    RangeSet.parse a = .ok A → RangeSet.parse b = .ok B →
      Rewording (before ++ (a ++ "," ++ b) :: after) (before ++ a :: b :: after)

/-- The lists agree in all that a range policy takes from them. -/
structure SaysSame (ids ids' : List String) : Prop where
  nil_iff : ids = [] ↔ ids' = []
  accepted_iff : (∀ id ∈ ids, IsRangeIdentifier id) ↔ ∀ id ∈ ids', IsRangeIdentifier id
  roles_iff : (∃ id ∈ ids, trimmed id ∈ roleIdentifiers) ↔
    ∃ id ∈ ids', trimmed id ∈ roleIdentifiers
  names_iff : ∀ site n, (∃ id ∈ ids, NamesNode site n (trimmed id)) ↔
    ∃ id ∈ ids', NamesNode site n (trimmed id)

/-! ## Identifiers that are range sets -/

section Literals

variable {identifier : String} {R : RangeSet}

/-- None of the five words is the text of a range set. -/
theorem RangeSymbol.ofIdentifier?_of_parse (h : RangeSet.parse identifier = .ok R) :
    ofIdentifier? identifier = none := by
  have hrefused : ∀ row ∈ table, (RangeSet.parse row.1).isOk = false := by decide +kernel
  rw [ofIdentifier?_eq_none_iff]
  intro row hrow heq
  have hrow := hrefused row hrow
  rw [← heq, RangeSet.parse_trimmed, h] at hrow
  cases hrow

theorem Criterion.ofIdentifier_of_parse (h : RangeSet.parse identifier = .ok R) (site : Site) :
    ofIdentifier site identifier = .ok (.within R) := by
  rw [ofIdentifier, RangeSymbol.ofIdentifier?_of_parse h, RangeSet.parse_trimmed, h]
  rfl

theorem isRangeIdentifier_of_parse (h : RangeSet.parse identifier = .ok R) :
    IsRangeIdentifier identifier :=
  .inr ⟨R, (RangeSet.parse_trimmed identifier).trans h⟩

theorem not_mem_roleIdentifiers_of_parse (h : RangeSet.parse identifier = .ok R) :
    trimmed identifier ∉ roleIdentifiers :=
  Criterion.not_mem_roleIdentifiers
    (RangeSymbol.ofIdentifier?_eq_none_iff.1 (RangeSymbol.ofIdentifier?_of_parse h))

/-- A range set names the nodes whose addresses it holds. -/
theorem namesNode_iff_of_parse (h : RangeSet.parse identifier = .ok R) (site : Site) (n : Node) :
    NamesNode site n (trimmed identifier) ↔ R.contains n.address = true :=
  (Criterion.holds_iff_of_ofIdentifier (Criterion.ofIdentifier_of_parse h site) n).symm

end Literals

/-- An identifier is refused with some cause unless it is one. -/
theorem isRangeIdentifier_iff {identifier : String} :
    IsRangeIdentifier identifier ↔ ∀ cause, ¬ RefusesIdentifier identifier cause := by
  have hwords :
      ["probe_ranges", "ddm_related_connections", "outscope_clients", "outscope_servers", "*"] =
        RangeSymbol.table.map Prod.fst := rfl
  unfold IsRangeIdentifier RefusesIdentifier
  rw [hwords, List.mem_map, exists_ok_iff]
  simp only [not_and_or, not_forall, not_not, exists_prop, forall_or_left, eq_comm, ne_eq]

/-! ## Reworded lists -/

namespace SaysSame

variable {ids ids' : List String}

theorem equivalence : Equivalence SaysSame where
  refl _ := ⟨Iff.rfl, Iff.rfl, Iff.rfl, fun _ _ => Iff.rfl⟩
  symm h := ⟨h.nil_iff.symm, h.accepted_iff.symm, h.roles_iff.symm,
    fun site n => (h.names_iff site n).symm⟩
  trans h h' := ⟨h.nil_iff.trans h'.nil_iff, h.accepted_iff.trans h'.accepted_iff,
    h.roles_iff.trans h'.roles_iff, fun site n => (h.names_iff site n).trans (h'.names_iff site n)⟩

/-- Order and number of the identifiers do not matter. -/
theorem of_mem_iff (h : ∀ id, id ∈ ids ↔ id ∈ ids') : SaysSame ids ids' where
  nil_iff := by simp only [List.eq_nil_iff_forall_not_mem, h]
  accepted_iff := by simp only [h]
  roles_iff := by simp only [h]
  names_iff site n := by simp only [h]

theorem exists_mem_cut_iff {P : String → Prop} {before after : List String} {a b c : String}
    (h : P c ↔ P a ∨ P b) :
    (∃ id ∈ before ++ c :: after, P id) ↔ ∃ id ∈ before ++ a :: b :: after, P id := by
  simp only [List.mem_append, List.mem_cons, or_and_right, exists_or, exists_eq_left, h, or_assoc]

/-- A comma between two range sets says what the two say. -/
theorem of_cut {a b : String} {A B : RangeSet} (ha : RangeSet.parse a = .ok A)
    (hb : RangeSet.parse b = .ok B) (before after : List String) :
    SaysSame (before ++ (a ++ "," ++ b) :: after) (before ++ a :: b :: after) := by
  have hab : RangeSet.parse (a ++ "," ++ b) = .ok ⟨A.ranges ++ B.ranges⟩ := by
    rw [RangeSet.parse_append_of_parse ha, hb]
    rfl
  refine ⟨by simp, ?_, ?_, fun site n => ?_⟩
  · simp only [List.forall_mem_append, List.forall_mem_cons, isRangeIdentifier_of_parse hab,
      isRangeIdentifier_of_parse ha, isRangeIdentifier_of_parse hb, true_and]
  · apply exists_mem_cut_iff
    simp only [not_mem_roleIdentifiers_of_parse hab, not_mem_roleIdentifiers_of_parse ha,
      not_mem_roleIdentifiers_of_parse hb, or_self]
  · apply exists_mem_cut_iff
    rw [namesNode_iff_of_parse hab, namesNode_iff_of_parse ha, namesNode_iff_of_parse hb,
      RangeSet.contains_append, Bool.or_eq_true]

theorem of_rewording (h : Rewording ids ids') : SaysSame ids ids' := by
  cases h with
  | reorder hperm => exact of_mem_iff fun _ => hperm.mem_iff
  | again hid =>
    apply of_mem_iff
    intro id
    rw [List.mem_cons]
    constructor
    · exact .inr
    · rintro (rfl | hmem)
      · exact hid
      · exact hmem
  | cut before after ha hb => exact of_cut ha hb before after

/-- Any number of changes in wording, forth and back. -/
theorem of_rewordings (h : Relation.EqvGen Rewording ids ids') : SaysSame ids ids' :=
  equivalence.eqvGen_iff.1 (h.mono fun _ _ => of_rewording)

end SaysSame

/-! ## The policy -/

namespace RangePolicy

variable {site : Site} {ids ids' : Identifiers} {p p' : RangePolicy}

theorem exists_build_iff : (∃ p, (build site ids).outcome = .ok p) ↔
    ∀ id ∈ ids.includes ++ ids.excludes, IsRangeIdentifier id := by
  simp only [exists_ok_iff, ne_eq, build_eq_error_iff, FirstFails.forall_not_iff,
    isRangeIdentifier_iff]

/-- Policies from lists that say the same have the same opinions. -/
theorem opinions_eq_of_saysSame (hincludes : SaysSame ids.includes ids'.includes)
    (hexcludes : SaysSame ids.excludes ids'.excludes) (hp : (build site ids).outcome = .ok p)
    (hp' : (build site ids').outcome = .ok p') (e : Entity) :
    p'.isApplicable e = p.isApplicable e ∧ p'.accepts e = p.accepts e := by
  have hroles : p'.isRoleSensitive = p.isRoleSensitive := by
    rw [Bool.eq_iff_iff, isRoleSensitive_iff_of_build hp, isRoleSensitive_iff_of_build hp']
    simp only [List.mem_append, or_and_right, exists_or, hincludes.roles_iff, hexcludes.roles_iff]
  have hnodes (n : Node) : p'.acceptsNode n = p.acceptsNode n := by
    have hnone (ids : List String) : (∀ id ∈ ids, ¬ NamesNode site n (trimmed id)) ↔
        ¬ ∃ id ∈ ids, NamesNode site n (trimmed id) := by
      simp only [not_exists, not_and]
    rw [Bool.eq_iff_iff, acceptsNode_iff_of_build hp, acceptsNode_iff_of_build hp', hnone, hnone,
      hexcludes.names_iff, hincludes.names_iff]
    simp only [hincludes.nil_iff]
  cases e with
  | node n => exact ⟨by simp only [isApplicable, hroles], hnodes n⟩
  | endpoint _ => exact ⟨rfl, rfl⟩

/-- **What a range policy is built from.** A policy is built exactly if each identifier is one;
otherwise the first that is not, those to include first, tells the error. The policy accepts the
nodes that no identifier to exclude names and that one to include names; the managed nodes count as
named if there is none to include. Rewording the lists changes no opinion. -/
theorem build_from_identifiers (site : Site) (ids : Identifiers) :
    ((∃ p, (build site ids).outcome = .ok p) ↔
        ∀ id ∈ ids.includes ++ ids.excludes, IsRangeIdentifier id) ∧
      (∀ cause, (build site ids).outcome = .error cause ↔
        FirstFails RefusesIdentifier (ids.includes ++ ids.excludes) cause) ∧
      ∀ p, (build site ids).outcome = .ok p →
        (∀ n, p.acceptsNode n = true ↔
          (∀ id ∈ ids.excludes, ¬ NamesNode site n (trimmed id)) ∧
            (ids.includes = [] ∧ site.managed.contains n.address = true ∨
              ∃ id ∈ ids.includes, NamesNode site n (trimmed id))) ∧
        ∀ ids' : Identifiers, Relation.EqvGen Rewording ids.includes ids'.includes →
          Relation.EqvGen Rewording ids.excludes ids'.excludes →
            ∃ p', (build site ids').outcome = .ok p' ∧
              ∀ e, p'.isApplicable e = p.isApplicable e ∧ p'.accepts e = p.accepts e := by
  refine ⟨exists_build_iff, fun _ => build_eq_error_iff, fun p hp => ⟨fun n => ?_, ?_⟩⟩
  · rw [acceptsNode_iff_of_build hp]
    apply and_congr_right
    intro _
    split
    · next hnil => simp [hnil]
    · next hne => simp [hne]
  · intro ids' hincludes hexcludes
    have hincludes := SaysSame.of_rewordings hincludes
    have hexcludes := SaysSame.of_rewordings hexcludes
    have haccepted : ∀ id ∈ ids'.includes ++ ids'.excludes, IsRangeIdentifier id := by
      rw [List.forall_mem_append, ← hincludes.accepted_iff, ← hexcludes.accepted_iff,
        ← List.forall_mem_append]
      exact exists_build_iff.1 ⟨p, hp⟩
    obtain ⟨p', hp'⟩ := exists_build_iff.2 haccepted
    exact ⟨p', hp', opinions_eq_of_saysSame hincludes hexcludes hp hp'⟩

end RangePolicy

namespace Sample

/-- The addresses that start with ten. -/
def tens : RangeSet :=
  ⟨[.span ⟨⟨10, 0, 0, 0⟩, ⟨10, 255, 255, 255⟩⟩]⟩

/-- A site that takes the addresses it does not manage for outside its domain. -/
def branch : Site where
  agent := ⟨10, 0, 0, 5⟩
  managed := tens
  ports := (PortCatalog.ofList []).directory
  outOfScope := tens.outside

/-- A list of two range sets next to a word, with blanks here and there. -/
def worded : Identifiers :=
  ⟨["192.168.{1,3}.*" ++ "," ++ " 172.16.0.0/12", " probe_ranges "], ["outscope_clients"]⟩

/-- The range sets apart, and words said twice. -/
def reworded : Identifiers :=
  ⟨[" probe_ranges ", "192.168.{1,3}.*", " 172.16.0.0/12", " probe_ranges "],
    ["outscope_clients", "outscope_clients"]⟩

theorem build_from_identifiers_reworded :
    (∀ id ∈ worded.includes ++ worded.excludes, IsRangeIdentifier id) ∧
    Relation.EqvGen Rewording worded.includes reworded.includes ∧
    Relation.EqvGen Rewording worded.excludes reworded.excludes ∧
    ∃ p p', (RangePolicy.build branch worded).outcome = .ok p ∧
      (RangePolicy.build branch reworded).outcome = .ok p' ∧
      (∀ e, p'.isApplicable e = p.isApplicable e ∧ p'.accepts e = p.accepts e) ∧
      p.acceptsNode ⟨.v4 ⟨10, 1, 2, 3⟩, some .server⟩ = true := by
  obtain ⟨A, hA⟩ : ∃ A, RangeSet.parse "192.168.{1,3}.*" = .ok A :=
    exists_ok_of_isOk (by decide +kernel)
  obtain ⟨B, hB⟩ : ∃ B, RangeSet.parse " 172.16.0.0/12" = .ok B :=
    exists_ok_of_isOk (by decide +kernel)
  have hcut := Rewording.cut [] [" probe_ranges "] hA hB
  have hincludes : Relation.EqvGen Rewording worded.includes reworded.includes :=
    .trans _ _ _ (.rel _ _ hcut) (.rel _ _ (.again (by decide)))
  have hexcludes : Relation.EqvGen Rewording worded.excludes reworded.excludes :=
    .rel _ _ (.again (by decide))
  obtain ⟨hbuilt, -, hpolicy⟩ := RangePolicy.build_from_identifiers branch worded
  obtain ⟨p, hp⟩ : ∃ p, (RangePolicy.build branch worded).outcome = .ok p :=
    exists_ok_of_isOk (by decide +kernel)
  obtain ⟨hnodes, hreworded⟩ := hpolicy p hp
  obtain ⟨p', hp', hsame⟩ := hreworded reworded hincludes hexcludes
  refine ⟨hbuilt.1 ⟨p, hp⟩, hincludes, hexcludes, p, p', hp, hp', hsame, (hnodes _).2 ⟨?_, .inr ?_⟩⟩
  · intro id hid
    obtain rfl := List.mem_singleton.1 hid
    have htrimmed : trimmed "outscope_clients" = "outscope_clients" := by decide
    simp [htrimmed, NamesNode]
  · have htrimmed : trimmed " probe_ranges " = "probe_ranges" := by decide
    refine ⟨" probe_ranges ", by decide, ?_⟩
    rw [htrimmed]
    exact (by decide : branch.managed.contains (.v4 ⟨10, 1, 2, 3⟩) = true)

end Sample

end DiscoveryFilter
