import DiscoveryFilter.Proofs.Keyed
import DiscoveryFilter.Scope.Roster

/-!
# Rosters filled one value after the other

`Roster.ofList` names every value once, in the order in which the names come first, and under each
name the last value counts.
-/

namespace DiscoveryFilter

namespace Roster

variable {β : Type}

theorem names_foldl_push {r : Roster β} {names : List String} (h : r.names = names.eraseDups)
    (entries : List (String × β)) :
    (entries.foldl (fun r entry => r.push entry.1 entry.2) r).names =
      (names ++ entries.map Prod.fst).eraseDups := by
  induction entries generalizing r names with
  | nil => simpa using h
  | cons entry entries ih =>
    have hpush : (r.push entry.1 entry.2).names = (names ++ [entry.1]).eraseDups := by
      rw [names_push, h, eraseDups_concat]
      simp only [List.mem_eraseDups]
    rw [List.foldl_cons, ih hpush, List.map_cons, List.append_assoc, List.singleton_append]

/-- The names in the order in which they come first, each once. -/
theorem names_ofList (entries : List (String × β)) :
    (ofList entries).names = (entries.map Prod.fst).eraseDups := by
  have hempty : (empty : Roster β).names = List.eraseDups [] := rfl
  rw [ofList, names_foldl_push hempty, List.nil_append]

/-- Under each name the last value. -/
theorem get?_ofList (entries : List (String × β)) (name : String) :
    (ofList entries).get? name =
      (entries.filter fun entry => entry.1 == name).getLast?.map Prod.snd :=
  (get_foldl_put get?_push empty entries name).trans Option.or_none

end Roster

end DiscoveryFilter
