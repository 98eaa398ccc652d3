import Mathlib.Data.List.Sort
import Mathlib.Order.Lattice

/-!
# Listings cut into pages

A service lists the elements of a collection in the order of their positions, at most
`n` at a time.  A request gives the position after which to go on (none at the start);
the page says, when elements are left over, at which position to go on: that of its
last item.  Each page is computed on the collection as it is at that moment.

What a client that walks through the pages needs is here: nothing between two pages is
skipped (`mem_items_or_later`), the positions advance (`lt_next`), and so the number of
elements still to come falls (`length_after_next_lt`).
-/

set_option autoImplicit false

namespace Foundation

/-- A page of a listing, and the position at which the next one goes on. -/
structure Page (α π : Type) where
  items : List α
  next : Option π
  deriving DecidableEq, Repr

namespace Page

variable {α π : Type} [LinearOrder π] (pos : α → π)

/-- The elements that lie strictly after the marker. -/
def after (marker : Option π) (l : List α) : List α :=
  l.filter fun a => marker.all fun m => decide (m < pos a)

/-- The page of at most `n` elements after the marker. -/
def of (n : ℕ) (marker : Option π) (l : List α) : Page α π :=
  let rest := (after pos marker l).insertionSort fun a b => pos a ≤ pos b
  ⟨rest.take n, if n < rest.length then (rest.take n).getLast?.map pos else none⟩

variable {pos} {n : ℕ} {marker : Option π} {l : List α}

/-- Without a marker, every element is still to come. -/
@[simp] theorem after_none (l : List α) : after pos none l = l := by
  simp [after]

/-- An element is still to come if it is there and lies after the marker. -/
theorem mem_after {a : α} : a ∈ after pos marker l ↔ a ∈ l ∧ ∀ m ∈ marker, m < pos a := by
  cases marker <;> simp [after]

/-- The items of a page were still to come. -/
theorem mem_of_mem_items {a : α} (h : a ∈ (of pos n marker l).items) :
    a ∈ after pos marker l :=
  (List.mem_insertionSort _).mp (List.mem_of_mem_take h)

/-- A page says to go on only after an item of its own. -/
theorem exists_of_next {m : π} (hm : (of pos n marker l).next = some m) :
    ∃ a ∈ (of pos n marker l).items, pos a = m := by
  unfold of at hm ⊢
  dsimp only at hm ⊢
  split at hm
  · obtain ⟨a, ha, rfl⟩ := Option.map_eq_some_iff.mp hm
    exact ⟨a, List.mem_of_getLast? ha, rfl⟩
  · cases hm

/-- A page without items is the last one. -/
theorem next_eq_none_of_items_eq_nil (h : (of pos n marker l).items = []) :
    (of pos n marker l).next = none := by
  rw [Option.eq_none_iff_forall_ne_some]
  intro m hm
  obtain ⟨a, ha, -⟩ := exists_of_next hm
  rw [h] at ha
  cases ha

/-- The positions advance from page to page. -/
theorem lt_next {m : π} (hm : (of pos n marker l).next = some m) : ∀ m' ∈ marker, m' < m := by
  obtain ⟨a, ha, rfl⟩ := exists_of_next hm
  exact (mem_after.mp (mem_of_mem_items ha)).2

/-- **No element is skipped.**  An element after the marker is on the page, or the page
goes on and the element comes after the position at which it does. -/
theorem mem_items_or_later (hn : 0 < n)
    (hinj : ∀ a ∈ l, ∀ b ∈ l, pos a = pos b → a = b) {a : α} (ha : a ∈ after pos marker l) :
    a ∈ (of pos n marker l).items ∨
      ∃ m, (of pos n marker l).next = some m ∧ m < pos a := by
  have hsorted := List.pairwise_insertionSort (fun a b : α => pos a ≤ pos b) (after pos marker l)
  have hmem : a ∈ (after pos marker l).insertionSort fun a b => pos a ≤ pos b :=
    (List.mem_insertionSort _).mpr ha
  have hsub : ∀ b ∈ (after pos marker l).insertionSort fun a b => pos a ≤ pos b, b ∈ l :=
    fun b hb => (mem_after.mp ((List.mem_insertionSort _).mp hb)).1
  unfold of
  dsimp only
  generalize (after pos marker l).insertionSort (fun a b => pos a ≤ pos b) = rest at *
  by_cases hitem : a ∈ rest.take n
  · exact .inl hitem
  have hdrop : a ∈ rest.drop n := by
    rw [← List.take_append_drop n rest] at hmem
    exact (List.mem_append.mp hmem).resolve_left hitem
  have hlen : n < rest.length := by
    have := List.length_pos_of_mem hdrop
    simp only [List.length_drop] at this
    omega
  have hne : rest.take n ≠ [] := by
    intro h
    have := congrArg List.length h
    simp only [List.length_take, List.length_nil] at this
    omega
  obtain ⟨z, hz⟩ : ∃ z, (rest.take n).getLast? = some z :=
    ⟨_, List.getLast?_eq_some_getLast hne⟩
  have hzmem : z ∈ rest.take n := List.mem_of_getLast? hz
  have hle : pos z ≤ pos a := by
    rw [← List.take_append_drop n rest] at hsorted
    exact (List.pairwise_append.mp hsorted).2.2 z hzmem a hdrop
  refine .inr ⟨pos z, by rw [if_pos hlen, hz, Option.map_some], ?_⟩
  refine lt_of_le_of_ne hle ?_
  intro heq
  have := hinj z (hsub z (List.mem_of_mem_take hzmem)) a (hsub a hmem) heq
  exact hitem (this ▸ hzmem)

/-- A shorter collection leaves no more to come. -/
theorem length_after_le {l' : List α} (h : l'.Sublist l) :
    (after pos marker l').length ≤ (after pos marker l).length :=
  (h.filter _).length_le

/-- **The walk through the pages ends**: from one page to the next, fewer elements are
still to come. -/
theorem length_after_next_lt {m : π} (hm : (of pos n marker l).next = some m) :
    (after pos (some m) l).length < (after pos marker l).length := by
  have hadvance := lt_next hm
  obtain ⟨a, ha, rfl⟩ := exists_of_next hm
  have hfilter : after pos (some (pos a)) l =
      (after pos marker l).filter fun b => decide (pos a < pos b) := by
    unfold after
    rw [List.filter_filter]
    apply List.filter_congr
    intro b _
    rw [Bool.eq_iff_iff]
    simp only [Option.all_some, decide_eq_true_eq, Bool.and_eq_true, Option.all_eq_true]
    constructor
    · intro hb
      exact ⟨hb, fun m' hm' => (hadvance m' hm').trans hb⟩
    · exact fun hb => hb.1
  rw [hfilter, List.length_filter_lt_length_iff_exists]
  exact ⟨a, mem_of_mem_items ha, by simp⟩

end Page

end Foundation
