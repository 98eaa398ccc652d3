import GradleLocalstack.Foundation.Prog
import GradleLocalstack.Foundation.Paging

/-!
# Emptying a collection page by page

The loop deletes every item of a page, asks for the next page if there is one, and goes
on with that.  The collection shrinks while it is listed: the next page is computed on
what the deletions left.  `wp_drainPages` says that the loop ends and leaves nothing,
whatever the page size: everything up to the position at which the next page starts has
been deleted, and everything after it is still to come.
-/

set_option autoImplicit false

namespace Foundation

variable {ω ε α π : Type}

/-- Delete the items of the page; go on with the next page until there is none. -/
def drainPages (del : α → Prog ω ε Unit) (next : Page α π → Prog ω ε (Page α π))
    (bound : ω → ℕ) : Page α π → Prog ω ε Unit :=
  Prog.loop bound fun p => do
    Prog.forEach del p.items
    if p.next.isSome then do
      let p' ← next p
      pure (.inl p')
    else
      pure (.inr ())

variable [LinearOrder π] {pos : α → π} {n : ℕ} {view : ω → List α}
  {del : α → Prog ω ε Unit} {next : Page α π → Prog ω ε (Page α π)} {bound : ω → ℕ}
  {E : ε → ω → Prop}

/-- The items of a page are pairwise distinct if the elements listed are. -/
theorem Page.nodup_items {marker : Option π} {l : List α} (h : (l.map pos).Nodup) :
    ((Page.of pos n marker l).items.map pos).Nodup := by
  have hafter : ((Page.after pos marker l).map pos).Nodup :=
    (List.filter_sublist.map pos).nodup h
  have hsort := (List.perm_insertionSort (fun a b : α => pos a ≤ pos b)
    (Page.after pos marker l)).map pos
  exact ((List.take_sublist _ _).map pos).nodup (hsort.nodup_iff.mpr hafter)

/-- **One page.**  Deleting the items of a page one by one deletes exactly those; each is
still there when its turn comes. -/
theorem wp_drainItems (J : ω → Prop)
    (hdel : ∀ a w, J w → a ∈ view w → (del a).wp
      (fun _ w' => J w' ∧ view w' = (view w).filter fun b => pos b ≠ pos a) E w)
    (items : List α) (hnodup : (items.map pos).Nodup) (w : ω) (hJ : J w)
    (hmem : ∀ a ∈ items, a ∈ view w) :
    (Prog.forEach del items).wp (fun _ w' => J w' ∧
      view w' = (view w).filter fun b => pos b ∉ items.map pos) E w := by
  induction items generalizing w with
  | nil => simp [Prog.forEach, hJ]
  | cons a items ih =>
    rw [List.map_cons, List.nodup_cons] at hnodup
    rw [Prog.forEach, Prog.wp_bind]
    apply Prog.wp_conseq (hdel a w hJ (hmem a List.mem_cons_self))
    rintro _ w' ⟨hJ', hview⟩
    have hmem' : ∀ b ∈ items, b ∈ view w' := by
      intro b hb
      rw [hview, List.mem_filter]
      refine ⟨hmem b (List.mem_cons_of_mem a hb), ?_⟩
      have hne : pos b ≠ pos a := fun h => hnodup.1 (h ▸ List.mem_map_of_mem hb)
      simpa using hne
    apply Prog.wp_conseq (ih hnodup.2 w' hJ' hmem')
    rintro _ w'' ⟨hJ'', hview'⟩
    refine ⟨hJ'', ?_⟩
    rw [hview', hview, List.filter_filter]
    apply List.filter_congr
    intro b _
    rw [List.map_cons, Bool.eq_iff_iff]
    simp only [Bool.and_eq_true, decide_eq_true_eq, List.mem_cons, not_or, and_comm, ne_eq]

/-- **The drain rule.**  If a deletion removes exactly its item and the next page is the
page of what is left, the loop ends with nothing left. -/
theorem wp_drainPages (pos : α → π) (view : ω → List α) (J : ω → Prop) (hn : 0 < n)
    (hdel : ∀ a w, J w → a ∈ view w → (del a).wp
      (fun _ w' => J w' ∧ view w' = (view w).filter fun b => pos b ≠ pos a) E w)
    (hnext : ∀ p w, J w → (next p).wp (fun p' w' => J w' ∧ view w' = view w ∧
      p' = Page.of pos n p.next (view w)) E w)
    (w : ω) (hJ : J w) (hnodup : ((view w).map pos).Nodup)
    (hbound : (view w).length < bound w) :
    (drainPages del next bound (Page.of pos n none (view w))).wp
      (fun _ w' => J w' ∧ view w' = []) E w := by
  -- at the head of a round the page at hand is the one after `marker`, and what is left
  -- of the collection lies after `marker`
  let I : ℕ → Page α π → ω → Prop := fun k p w => J w ∧ ((view w).map pos).Nodup ∧
    ∃ marker, p = Page.of pos n marker (view w) ∧
      (∀ a ∈ view w, a ∈ Page.after pos marker (view w)) ∧
      (Page.after pos marker (view w)).length ≤ k
  refine Prog.wp_loop I ?_ (view w).length _ w hbound
    ⟨hJ, hnodup, none, rfl, by simp, by simp⟩
  rintro k p w ⟨hJ, hnodup, marker, rfl, hafter, hlen⟩
  have hinj : ∀ a ∈ view w, ∀ b ∈ view w, pos a = pos b → a = b :=
    fun a ha b hb => List.inj_on_of_nodup_map hnodup ha hb
  rw [Prog.wp_bind]
  apply Prog.wp_conseq (wp_drainItems J hdel _ (Page.nodup_items hnodup) w hJ
    fun a ha => (Page.mem_after.mp (Page.mem_of_mem_items ha)).1)
  rintro _ w' ⟨hJ', hview⟩
  have hsub : (view w').Sublist (view w) := hview ▸ List.filter_sublist
  have hleft : ∀ a ∈ view w', a ∉ (Page.of pos n marker (view w)).items := by
    intro a ha hitem
    rw [hview, List.mem_filter] at ha
    exact (of_decide_eq_true ha.2) (List.mem_map_of_mem hitem)
  cases hnx : (Page.of pos n marker (view w)).next with
  | none =>
    have hempty : view w' = [] := by
      rw [List.eq_nil_iff_forall_not_mem]
      intro a ha
      rcases Page.mem_items_or_later hn hinj (hafter a (hsub.subset ha)) with h | ⟨m, hm, _⟩
      · exact hleft a ha h
      · rw [hnx] at hm
        cases hm
    simpa using And.intro hJ' hempty
  | some m =>
    have hlater : ∀ a ∈ view w', m < pos a := by
      intro a ha
      rcases Page.mem_items_or_later hn hinj (hafter a (hsub.subset ha)) with h | ⟨m', hm', hlt⟩
      · exact absurd h (hleft a ha)
      · rw [hnx] at hm'
        cases hm'
        exact hlt
    simp only [Option.isSome_some, if_true, Prog.wp_bind, Prog.wp_pure]
    apply Prog.wp_conseq (hnext _ w' hJ')
    rintro p' w'' ⟨hJ'', hview', rfl⟩
    have hshrink : (Page.after pos (some m) (view w')).length < k :=
      calc (Page.after pos (some m) (view w')).length
          ≤ (Page.after pos (some m) (view w)).length := Page.length_after_le hsub
        _ < (Page.after pos marker (view w)).length := Page.length_after_next_lt hnx
        _ ≤ k := hlen
    refine ⟨_, hshrink, hJ'', ?_, some m, ?_, ?_, ?_⟩
    · rw [hview']
      exact (hsub.map pos).nodup hnodup
    · rw [hview', hnx]
    · rw [hview']
      intro a ha
      exact Page.mem_after.mpr ⟨ha, by simpa using hlater a ha⟩
    · rw [hview']

/-- Without the item at its position, a collection is the item and what is left of it. -/
theorem perm_cons_filter_pos {l : List α} {a : α} (ha : a ∈ l) (hnodup : (l.map pos).Nodup) :
    l.Perm (a :: l.filter fun b => pos b ≠ pos a) := by
  have hinj : ∀ b ∈ l, pos b = pos a ↔ b = a := by
    intro b hb
    constructor
    · exact fun h => List.inj_on_of_nodup_map hnodup hb ha h
    · exact fun h => h ▸ rfl
  classical
  have herase : (l.filter fun b => pos b ≠ pos a) = l.erase a := by
    rw [(List.Nodup.of_map pos hnodup).erase_eq_filter]
    apply List.filter_congr
    intro b hb
    rw [Bool.eq_iff_iff]
    simp [hinj b hb]
  rw [herase]
  exact List.perm_cons_erase ha

/-- **The drain rule, with what was requested.**  If moreover each deletion adds its item
to a record, and nothing else does, the loop adds every item there was, once each. -/
theorem wp_drainPages_once {β : Type} (pos : α → π) (view : ω → List α) (J : ω → Prop)
    (hn : 0 < n) (requested : ω → List β) (tag : α → β)
    (hdel : ∀ a w, J w → a ∈ view w → (del a).wp
      (fun _ w' => J w' ∧ view w' = ((view w).filter fun b => pos b ≠ pos a) ∧
        requested w' = requested w ++ [tag a]) E w)
    (hnext : ∀ p w, J w → (next p).wp (fun p' w' => J w' ∧ view w' = view w ∧
      requested w' = requested w ∧ p' = Page.of pos n p.next (view w)) E w)
    (w : ω) (hJ : J w) (hnodup : ((view w).map pos).Nodup)
    (hbound : (view w).length < bound w) :
    (drainPages del next bound (Page.of pos n none (view w))).wp
      (fun _ w' => J w' ∧ view w' = [] ∧ ∃ added, requested w' = requested w ++ added ∧
        added.Perm ((view w).map tag)) E w := by
  -- what was requested and what is left are together what there was
  let Balanced : ω → Prop := fun w' => J w' ∧ ((view w').map pos).Nodup ∧
    ∃ added, requested w' = requested w ++ added ∧
      (added ++ (view w').map tag).Perm ((view w).map tag)
  have hstart : Balanced w := ⟨hJ, hnodup, [], by simp, .refl _⟩
  refine Prog.wp_conseq (wp_drainPages pos view Balanced hn ?_ ?_ w hstart hnodup hbound) ?_
  · intro a w₁ hbalanced ha
    obtain ⟨hJ₁, hnodup₁, added, hadded, hperm⟩ := hbalanced
    apply Prog.wp_conseq (hdel a w₁ hJ₁ ha)
    intro _ w₂ hw₂
    obtain ⟨hJ₂, hview, hrequested⟩ := hw₂
    have hnodup₂ : ((view w₂).map pos).Nodup := by
      rw [hview]
      exact (List.filter_sublist.map pos).nodup hnodup₁
    refine ⟨⟨hJ₂, hnodup₂, added ++ [tag a], ?_, ?_⟩, hview⟩
    · rw [hrequested, hadded, List.append_assoc]
    · have hmoved : (tag a :: (view w₂).map tag).Perm ((view w₁).map tag) := by
        rw [hview]
        exact ((perm_cons_filter_pos ha hnodup₁).map tag).symm
      rw [List.append_assoc]
      exact (hmoved.append_left added).trans hperm
  · intro p w₁ hbalanced
    obtain ⟨hJ₁, hnodup₁, added, hadded, hperm⟩ := hbalanced
    apply Prog.wp_conseq (hnext p w₁ hJ₁)
    intro p' w₂ hw₂
    obtain ⟨hJ₂, hview, hrequested, hp'⟩ := hw₂
    refine ⟨⟨hJ₂, ?_, added, ?_, ?_⟩, hview, hp'⟩
    · rw [hview]
      exact hnodup₁
    · rw [hrequested]
      exact hadded
    · rw [hview]
      exact hperm
  · intro _ w' hw'
    obtain ⟨⟨hJ', _, added, hadded, hperm⟩, hempty⟩ := hw'
    refine ⟨hJ', hempty, added, hadded, ?_⟩
    rw [hempty, List.map_nil, List.append_nil] at hperm
    exact hperm

omit [LinearOrder π] in
/-- **A drain whose deletions are all refused** ends in the world it starts in: it returns
if there is nothing to delete, and throws at the first item otherwise. -/
theorem wp_drainPages_refused {Q : Unit → ω → Prop} {p : Page α π} {w : ω}
    (hdel : ∀ a, (del a).wp (fun _ _ => False) E w) (hlast : p.items = [] → p.next = none)
    (hbound : 0 < bound w) (hQ : Q () w) : (drainPages del next bound p).wp Q E w := by
  refine Prog.wp_loop (fun _ p' w' => p' = p ∧ w' = w) ?_ 0 p w hbound ⟨rfl, rfl⟩
  intro n p' w' ⟨hp, hw⟩
  rw [hp, hw, Prog.wp_bind]
  cases hitems : p.items with
  | nil => simpa [Prog.forEach, hlast hitems] using hQ
  | cons a items =>
    rw [Prog.forEach, Prog.wp_bind]
    exact Prog.wp_conseq (hdel a) (fun _ _ h => h.elim)

end Foundation
