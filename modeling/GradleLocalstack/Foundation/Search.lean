import GradleLocalstack.Foundation.Prog
import GradleLocalstack.Foundation.Paging

/-!
# Looking for an item page by page

The loop asks for a page, stops if what it looks for is on it, and otherwise goes on at
the position the page gives, until there is none.  On a collection that does not change
meanwhile it ends and finds what is there, whatever the page size.
-/

set_option autoImplicit false

namespace Foundation

variable {ω ε α π : Type}

/-- Is there an item for which `found` holds? -/
def searchPages (fetch : Option π → Prog ω ε (Page α π)) (found : α → Bool)
    (bound : ω → ℕ) : Prog ω ε Bool :=
  Prog.loop bound (fun marker => do
    let p ← fetch marker
    if p.items.any found then pure (.inr true)
    else if p.next.isSome then pure (.inl p.next)
    else pure (.inr false)) none

/-- **The search rule.**  `J` is kept by every request for a page of `view`. -/
theorem wp_searchPages [LinearOrder π] {pos : α → π} {n : ℕ} {view : List α}
    {fetch : Option π → Prog ω ε (Page α π)} {found : α → Bool} {bound : ω → ℕ}
    {E : ε → ω → Prop} (J : ω → Prop) (hn : 0 < n)
    (hinj : ∀ a ∈ view, ∀ b ∈ view, pos a = pos b → a = b)
    (hfetch : ∀ marker w, J w →
      (fetch marker).wp (fun p w' => J w' ∧ p = Page.of pos n marker view) E w)
    (w : ω) (hJ : J w) (hbound : view.length < bound w) :
    (searchPages fetch found bound).wp (fun r w' => J w' ∧ r = view.any found) E w := by
  -- what is looked for lies after the marker, if it is there at all
  let I : ℕ → Option π → ω → Prop := fun k marker w => J w ∧
    (∀ a ∈ view, found a = true → a ∈ Page.after pos marker view) ∧
    (Page.after pos marker view).length ≤ k
  have hstart : I view.length none w := ⟨hJ, fun a ha _ => by simpa using ha, by simp⟩
  apply Prog.wp_loop I _ view.length none w hbound hstart
  rintro k marker w₁ ⟨hJ₁, hleft, hlen⟩
  rw [Prog.wp_bind]
  apply Prog.wp_conseq (hfetch marker w₁ hJ₁)
  rintro _ w₂ ⟨hJ₂, rfl⟩
  by_cases hany : (Page.of pos n marker view).items.any found = true
  · rw [if_pos hany]
    refine ⟨hJ₂, ?_⟩
    obtain ⟨a, ha, hfound⟩ := List.any_eq_true.mp hany
    have hmem : a ∈ view := (Page.mem_after.mp (Page.mem_of_mem_items ha)).1
    exact (List.any_eq_true.mpr ⟨a, hmem, hfound⟩).symm
  · rw [if_neg hany]
    have hnot : ∀ a ∈ (Page.of pos n marker view).items, found a ≠ true := by
      intro a ha hfound
      exact hany (List.any_eq_true.mpr ⟨a, ha, hfound⟩)
    have hlater : ∀ a ∈ view, found a = true →
        ∃ m, (Page.of pos n marker view).next = some m ∧ m < pos a := by
      intro a ha hfound
      cases Page.mem_items_or_later hn hinj (hleft a ha hfound) with
      | inl hitem => exact absurd hfound (hnot a hitem)
      | inr hlater => exact hlater
    cases hnext : (Page.of pos n marker view).next with
    | none =>
      refine ⟨hJ₂, ?_⟩
      symm
      rw [Bool.eq_false_iff]
      intro hany'
      obtain ⟨a, ha, hfound⟩ := List.any_eq_true.mp hany'
      obtain ⟨m, hm, -⟩ := hlater a ha hfound
      rw [hnext] at hm
      cases hm
    | some m =>
      refine ⟨(Page.after pos (some m) view).length, ?_, hJ₂, ?_, le_refl _⟩
      · exact (Page.length_after_next_lt hnext).trans_le hlen
      · intro a ha hfound
        obtain ⟨m', hm', hlt⟩ := hlater a ha hfound
        rw [hnext] at hm'
        cases hm'
        exact Page.mem_after.mpr ⟨ha, by simpa using hlt⟩

end Foundation
