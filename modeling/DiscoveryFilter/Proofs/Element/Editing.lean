import DiscoveryFilter.Proofs.Element.Likeness

/-!
# Editing elements

An element keeps some of its children, loses some of those that count, or has some of them changed.
Each edit is told by what look-ups by tag find afterwards.
-/

namespace DiscoveryFilter

namespace Element

/-- The element without the children that fail a test. -/
def keeping (e : Element) (keep : Element → Bool) : Element :=
  mk e.tag e.attributes e.text (e.children.filter keep)

/-- The element without the children that count and pass a test. -/
def without (e : Element) (drop : Element → Bool) : Element :=
  e.keeping fun c => !(c.counts && drop c)

/-- The element with the children changed that count and pass a test. -/
def changing (e : Element) (which : Element → Bool) (change : Element → Element) : Element :=
  mk e.tag e.attributes e.text (e.children.map fun c => if c.counts && which c then change c else c)

/-- The element with the first child of a tag changed, among the children that count. -/
def changingFirst (e : Element) (tag : String) (change : Element → Element) : Element :=
  mk e.tag e.attributes e.text
    (e.children.replaceF fun c => if c.counts && c.tag == tag then some (change c) else none)

/-! ## Leaving children out -/

theorem elements_keeping (e : Element) (keep : Element → Bool) :
    (e.keeping keep).elements = e.elements.filter keep := by
  simp only [elements, keeping, children, List.filter_filter, Bool.and_comm]

theorem elementsNamed_keeping (e : Element) (keep : Element → Bool) (tag : String) :
    (e.keeping keep).elementsNamed tag = (e.elementsNamed tag).filter keep := by
  rw [elementsNamed, elements_keeping, List.filter_comm, ← elementsNamed]

theorem elements_without (e : Element) (drop : Element → Bool) :
    (e.without drop).elements = e.elements.filter fun c => !drop c := by
  rw [without, elements_keeping]
  apply List.filter_congr
  intro c hc
  have hcounts : c.counts = true := c.counts_eq.trans (List.mem_filter.1 hc).2
  rw [hcounts, Bool.true_and]

/-- Only children of one tag are left out. -/
theorem elementsNamed_without (e : Element) (tag t : String) (drop : Element → Bool) :
    (e.without fun c => c.tag == tag && drop c).elementsNamed t =
      if t = tag then (e.elementsNamed t).filter fun c => !drop c else e.elementsNamed t := by
  rw [elementsNamed, elements_without, List.filter_comm, ← elementsNamed]
  split
  · next h =>
    apply List.filter_congr
    intro c hc
    rw [beq_iff_eq.1 (List.mem_filter.1 hc).2, h, beq_self_eq_true, Bool.true_and]
  · next h =>
    apply List.filter_eq_self.2
    intro c hc
    rw [beq_iff_eq.1 (List.mem_filter.1 hc).2, beq_false_of_ne h]
    rfl

/-! ## Changing children -/

/-- Changing the first element that passes a test changes what the test finds first. -/
theorem find?_replaceF {α : Type} {p : α → Bool} {f : α → α} (h : ∀ a, p a = true → p (f a) = true)
    (as : List α) :
    (as.replaceF fun a => if p a then some (f a) else none).find? p = (as.find? p).map f := by
  induction as with
  | nil => rfl
  | cons a as ih =>
    rw [List.replaceF_cons]
    cases ha : p a with
    | true => simp [ha, h a ha]
    | false => simp [ha, ih]

/-- What fails another test before and after the change has no part in it. -/
theorem filter_replaceF {α : Type} {p q : α → Bool} {f : α → α}
    (h : ∀ a, p a = true → q a = false ∧ q (f a) = false) (as : List α) :
    (as.replaceF fun a => if p a then some (f a) else none).filter q = as.filter q := by
  induction as with
  | nil => rfl
  | cons a as ih =>
    rw [List.replaceF_cons]
    cases ha : p a with
    | true => simp [h a ha]
    | false => simp [List.filter_cons, ih]

theorem element?_eq_find? (e : Element) (tag : String) :
    e.element? tag = e.children.find? fun c => c.counts && c.tag == tag := by
  rw [element?_eq_head?, tagged, List.head?_filter]

theorem children_changing (e : Element) (which : Element → Bool) (change : Element → Element) :
    (e.changing which change).children =
      e.children.map fun c => if c.counts && which c then change c else c := rfl

theorem children_changingFirst (e : Element) (tag : String) (change : Element → Element) :
    (e.changingFirst tag change).children = e.children.replaceF fun c =>
      if c.counts && c.tag == tag then some (change c) else none := rfl

section Change

variable {change : Element → Element} (hchange : ∀ c, SameHead c (change c))
include hchange

/-- Only children of one tag are changed. -/
theorem elementsNamed_changing (e : Element) (tag t : String) (which : Element → Bool) :
    (e.changing (fun c => c.tag == tag && which c) change).elementsNamed t =
      if t = tag then (e.elementsNamed t).map fun c => if which c then change c else c
      else e.elementsNamed t := by
  have hkept : (fun c : Element => c.counts && c.tag == t) ∘
      (fun c => if c.counts && (c.tag == tag && which c) then change c else c) =
        fun c => c.counts && c.tag == t := by
    funext c
    simp only [Function.comp]
    split
    · rw [← (hchange c).tag, ← (hchange c).counts_eq]
    · rfl
  rw [elementsNamed_eq_tagged, elementsNamed_eq_tagged, tagged, tagged, children_changing, List.filter_map, hkept]
  split
  · next h =>
    apply List.map_congr_left
    intro c hc
    obtain ⟨hcounts, htag⟩ := Bool.and_eq_true_iff.1 (List.mem_filter.1 hc).2
    rw [hcounts, ← h, htag, Bool.true_and, Bool.true_and]
  · next h =>
    refine (List.map_congr_left fun c hc => ?_).trans (List.map_id _)
    obtain ⟨-, htag⟩ := Bool.and_eq_true_iff.1 (List.mem_filter.1 hc).2
    rw [beq_iff_eq.1 htag, beq_false_of_ne h, Bool.false_and, Bool.and_false]
    rfl

theorem elementsNamed_changingFirst_of_ne (e : Element) {tag t : String} (h : t ≠ tag) :
    (e.changingFirst tag change).elementsNamed t = e.elementsNamed t := by
  rw [elementsNamed_eq_tagged, elementsNamed_eq_tagged, tagged, tagged,
    children_changingFirst]
  apply filter_replaceF
  intro c hc
  obtain ⟨-, htag⟩ := Bool.and_eq_true_iff.1 hc
  have hne : (c.tag == t) = false := by
    rw [beq_iff_eq.1 htag]
    exact beq_false_of_ne (Ne.symm h)
  rw [← (hchange c).tag, hne, Bool.and_false, Bool.and_false]
  exact ⟨rfl, rfl⟩

theorem element?_changingFirst_of_ne (e : Element) {tag t : String} (h : t ≠ tag) :
    (e.changingFirst tag change).element? t = e.element? t := by
  rw [← head?_elementsNamed, elementsNamed_changingFirst_of_ne hchange e h, head?_elementsNamed]

theorem element?_changingFirst (e : Element) (tag : String) :
    (e.changingFirst tag change).element? tag = (e.element? tag).map change := by
  rw [element?_eq_find?, element?_eq_find?, children_changingFirst]
  apply find?_replaceF
  intro c hc
  rwa [← (hchange c).tag, ← (hchange c).counts_eq]

end Change

end Element

end DiscoveryFilter
