/-!
# Rosters

A `Roster` keeps values by name in the order in which the names came first. Adding a value under a
name that is there replaces the value and keeps the place.
-/

namespace DiscoveryFilter

/-- Values in order, each under a name of its own. -/
structure Roster (β : Type) where
  entries : List (String × β)
  names_nodup : (entries.map Prod.fst).Nodup

namespace Roster

variable {β : Type}

def names (r : Roster β) : List String :=
  r.entries.map Prod.fst

def empty : Roster β :=
  ⟨[], List.nodup_nil⟩

def size (r : Roster β) : Nat :=
  r.entries.length

def isEmpty (r : Roster β) : Bool :=
  r.entries.isEmpty

def get? (r : Roster β) (name : String) : Option β :=
  (r.entries.find? fun entry => entry.1 == name).map (·.2)

/-- Changes every value, knowing its name. -/
def map (f : String → β → β) (r : Roster β) : Roster β where
  entries := r.entries.map fun entry => (entry.1, f entry.1 entry.2)
  names_nodup := by
    rw [List.map_map]
    exact r.names_nodup

/-- Changes the value under a name, if there is one. -/
def modify (r : Roster β) (name : String) (f : β → β) : Roster β :=
  r.map fun other value => if other = name then f value else value

/-- Puts a value under a name: in the place of the value that is there, else at the end. -/
def push (r : Roster β) (name : String) (value : β) : Roster β :=
  if h : name ∈ r.names then r.modify name fun _ => value
  else
    { entries := r.entries ++ [(name, value)]
      names_nodup := by
        rw [List.map_append, List.nodup_append]
        refine ⟨r.names_nodup, List.nodup_cons.2 ⟨List.not_mem_nil, List.nodup_nil⟩, ?_⟩
        intro a ha b hb hab
        have hb : b = name := List.mem_singleton.1 hb
        exact h (hb ▸ hab ▸ ha) }

@[simp] theorem names_map (f : String → β → β) (r : Roster β) : (r.map f).names = r.names := by
  simp [names, map]

@[simp] theorem names_modify (r : Roster β) (name : String) (f : β → β) :
    (r.modify name f).names = r.names :=
  names_map _ r

/-- A name that is there keeps its place, and a new one comes last. -/
theorem names_push (r : Roster β) (name : String) (value : β) :
    (r.push name value).names = if name ∈ r.names then r.names else r.names ++ [name] := by
  unfold push
  split
  · exact names_modify ..
  · rw [names, names, List.map_append, List.map_singleton]

theorem get?_map (f : String → β → β) (r : Roster β) (name : String) :
    (r.map f).get? name = (r.get? name).map (f name) := by
  simp only [get?, map]
  generalize r.entries = entries
  induction entries with
  | nil => rfl
  | cons entry entries ih =>
    by_cases h : entry.1 = name
    · simp [h]
    · simpa [List.find?_cons, h] using ih

theorem get?_eq_none_iff {r : Roster β} {name : String} : r.get? name = none ↔ name ∉ r.names := by
  simp only [get?, names, Option.map_eq_none_iff, List.find?_eq_none, List.mem_map, beq_iff_eq]
  exact ⟨fun h ⟨entry, hm, hn⟩ => h entry hm hn, fun h entry hm hn => h ⟨entry, hm, hn⟩⟩

@[simp] theorem get?_push (r : Roster β) (name other : String) (value : β) :
    (r.push name value).get? other = if name = other then some value else r.get? other := by
  unfold push
  split
  · next h =>
    rw [modify, get?_map]
    by_cases hn : name = other
    · subst hn
      obtain ⟨old, hold⟩ := Option.ne_none_iff_exists'.1 (mt get?_eq_none_iff.1 (not_not_intro h))
      simp [hold]
    · simp [hn, eq_comm]
  · next h =>
    by_cases hn : name = other
    · subst hn
      have hnone := get?_eq_none_iff.2 h
      simp only [get?, Option.map_eq_none_iff] at hnone
      simp [get?, List.find?_append, hnone]
    · simp [get?, List.find?_append, hn]

/-- Puts values under their names one after the other. -/
def ofList (entries : List (String × β)) : Roster β :=
  entries.foldl (fun r entry => r.push entry.1 entry.2) empty

end Roster

end DiscoveryFilter
