import Mathlib.Data.List.Dedup
import Mathlib.Data.List.Sort
import Mathlib.Logic.Relation
import Mathlib.Order.Extension.Linear

/-!
# Tasks with dependencies, and the orders that run them

A graph of tasks has two kinds of edges.  `dependsOn a b` makes `b` part of every build
that runs `a`, and puts it before `a`; `mustRunAfter a b` only puts `b` before `a` when
both are run.  A build of a target runs the tasks that the target requires, one after the
other, in some order that respects both kinds of edges.

What holds in every such order is what the edges say: `b` always runs before `a` if and
only if a chain of edges leads from `a` to `b` (`runs_before_iff`).
-/

set_option autoImplicit false

namespace Foundation

variable {α : Type}

/-- `a` stands before `b` in the list. -/
def Before (order : List α) (a b : α) : Prop := [a, b].Sublist order

namespace Before

variable {order : List α} {a b c : α}

/-- Whether one element comes before another can be computed: it is a sublist. -/
instance [DecidableEq α] : Decidable (Before order a b) :=
  inferInstanceAs (Decidable (List.Sublist _ _))

/-- No element comes before itself where each occurs once. -/
theorem irrefl (hnodup : order.Nodup) : ¬ Before order a a :=
  List.nodup_iff_sublist.mp hnodup a

/-- What comes before in a part of the order does so in the whole. -/
theorem mono {l₁ l₂ : List α} (h : Before l₁ a b) (hsub : l₁.Sublist l₂) : Before l₂ a b :=
  h.trans hsub

/-- Two elements that are both kept stand in the filtered list as they did. -/
theorem filter {p : α → Bool} (h : Before order a b) (ha : p a = true) (hb : p b = true) :
    Before (order.filter p) a b := by
  have hsub : ([a, b].filter p).Sublist (order.filter p) := List.Sublist.filter p h
  simpa [Before, ha, hb] using hsub

/-- The elements of the first part come before those of the second. -/
theorem append {l₁ l₂ : List α} (ha : a ∈ l₁) (hb : b ∈ l₂) : Before (l₁ ++ l₂) a b := by
  have hleft : [a].Sublist l₁ := List.singleton_sublist.mpr ha
  have hright : [b].Sublist l₂ := List.singleton_sublist.mpr hb
  exact hleft.append hright

/-- An element comes before those behind it. -/
theorem append_cons {l₁ l₂ : List α} (hb : b ∈ l₂) : Before (l₁ ++ a :: l₂) a b := by
  have htail : [a, b].Sublist (a :: l₂) := (List.singleton_sublist.mpr hb).cons_cons a
  exact htail.trans (List.sublist_append_right l₁ _)

/-- Of two different elements one comes before the other. -/
theorem total (ha : a ∈ order) (hb : b ∈ order) (hne : a ≠ b) :
    Before order a b ∨ Before order b a := by
  obtain ⟨l₁, l₂, rfl⟩ := List.append_of_mem ha
  have hmem : b ∈ l₁ ∨ b ∈ l₂ := by
    simpa [hne.symm] using hb
  cases hmem with
  | inl hleft => exact .inr (append hleft List.mem_cons_self)
  | inr hright =>
    left
    exact append_cons hright

/-- Coming before is transitive where each element occurs once. -/
theorem trans (hnodup : order.Nodup) (hab : Before order a b) (hbc : Before order b c) :
    Before order a c := by
  -- cut the list behind `a`: then `b`, and with it `c`, is in the second part
  obtain ⟨l₁, l₂, rfl, ha, hb⟩ := List.cons_sublist_iff.mp hab
  have hb₂ : b ∈ l₂ := List.singleton_sublist.mp hb
  have hb₁ : b ∉ l₁ := fun hb₁ => List.disjoint_of_nodup_append hnodup hb₁ hb₂
  obtain ⟨k₁, k₂, hsplit, hk₁, hk₂⟩ := List.sublist_append_iff.mp hbc
  cases k₁ with
  | nil =>
    apply append ha
    apply hk₂.subset
    rw [List.nil_append] at hsplit
    simp [← hsplit]
  | cons x k₁ =>
    rw [List.cons_append, List.cons.injEq] at hsplit
    have hb₁' : b ∈ l₁ := hk₁.subset (by simp [hsplit.1])
    exact absurd hb₁' hb₁

end Before

/-- The tasks, with what each depends on and what it must run after. -/
structure TaskGraph (α : Type) where
  tasks : List α
  dependsOn : α → α → Prop
  mustRunAfter : α → α → Prop

namespace TaskGraph

variable (g : TaskGraph α) (target : α)

/-- A build of the target runs the task. -/
def Required : α → Prop := Relation.ReflTransGen g.dependsOn target

/-- In a build of the target, `a` waits for `b`. -/
def Waits (a b : α) : Prop :=
  g.Required target a ∧ g.Required target b ∧ (g.dependsOn a b ∨ g.mustRunAfter a b)

/-- In a build of the target, a chain of edges leads from `a` to `b`. -/
def Follows : α → α → Prop := Relation.TransGen (g.Waits target)

/-- An order in which a build of the target may run its tasks. -/
structure ExecutionOrder (order : List α) : Prop where
  nodup : order.Nodup
  mem_iff : ∀ a, a ∈ order ↔ g.Required target a
  known : ∀ a ∈ order, a ∈ g.tasks
  respects : ∀ a b, g.Waits target a b → Before order b a

/-- A build of the target has all its tasks, and none waits for itself. -/
structure Schedulable : Prop where
  known : ∀ a, g.Required target a → a ∈ g.tasks
  acyclic : ∀ a, ¬ g.Follows target a a

variable {g target} {a b : α} {order : List α}

/-- The target is required. -/
theorem Required.refl : g.Required target target := Relation.ReflTransGen.refl

/-- What a required task depends on is required. -/
theorem Required.tail (ha : g.Required target a) (hab : g.dependsOn a b) :
    g.Required target b := Relation.ReflTransGen.tail ha hab

/-- A required task waits for what it depends on. -/
theorem Waits.of_dependsOn (ha : g.Required target a) (hab : g.dependsOn a b) :
    g.Waits target a b :=
  ⟨ha, ha.tail hab, .inl hab⟩

/-- The target follows every other task that it requires. -/
theorem Required.follows (h : g.Required target a) (hne : a ≠ target) :
    g.Follows target target a := by
  induction h with
  | refl => exact absurd rfl hne
  | @tail b c hb hbc ih =>
    have hwaits : g.Waits target b c := .of_dependsOn hb hbc
    by_cases heq : b = target
    · rw [heq] at hwaits
      exact .single hwaits
    · exact (ih heq).tail hwaits

namespace ExecutionOrder

/-- A task runs after those that a chain of edges leads to. -/
theorem before_of_follows (h : g.ExecutionOrder target order) (hab : g.Follows target a b) :
    Before order b a := by
  induction hab with
  | single hstep => exact h.respects _ _ hstep
  | tail _ hstep ih => exact (h.respects _ _ hstep).trans h.nodup ih

/-- The target runs last. -/
theorem before_target (h : g.ExecutionOrder target order) (ha : a ∈ order) (hne : a ≠ target) :
    Before order a target :=
  h.before_of_follows (((h.mem_iff a).mp ha).follows hne)

/-- A build of the target does not run what must run after it. -/
theorem not_mem_of_after_target (h : g.ExecutionOrder target order)
    (hafter : g.mustRunAfter a target) : a ∉ order := by
  intro ha
  have hwaits : g.Waits target a target := ⟨(h.mem_iff a).mp ha, .refl, .inr hafter⟩
  have hbefore := h.respects a target hwaits
  by_cases hne : a = target
  · rw [hne] at hbefore
    exact Before.irrefl h.nodup hbefore
  · exact Before.irrefl h.nodup (hbefore.trans h.nodup (h.before_target ha hne))

/-- What can be ordered has no cycle. -/
theorem schedulable (h : g.ExecutionOrder target order) : g.Schedulable target where
  known a ha := h.known a ((h.mem_iff a).mpr ha)
  acyclic _ hcycle := Before.irrefl h.nodup (h.before_of_follows hcycle)

/-- **Running a task early**: the tasks that `a` follows, and `a`, go before the others. -/
theorem early (h : g.ExecutionOrder target order) (p : α → Bool)
    (hp : ∀ b, p b = true ↔ Relation.ReflTransGen (g.Waits target) a b) :
    g.ExecutionOrder target (order.filter p ++ order.filter fun b => !p b) := by
  have hperm : (order.filter p ++ order.filter fun b => !p b).Perm order :=
    List.filter_append_perm p order
  constructor
  · exact hperm.nodup_iff.mpr h.nodup
  · intro b
    rw [hperm.mem_iff]
    exact h.mem_iff b
  · intro b hb
    exact h.known b (hperm.mem_iff.mp hb)
  · intro b c hwaits
    have hbefore : Before order c b := h.respects b c hwaits
    have hcmem : c ∈ order := (h.mem_iff c).mpr hwaits.2.1
    have hbmem : b ∈ order := (h.mem_iff b).mpr hwaits.1
    by_cases hb : p b = true
    · -- the part with `a` is closed under waiting
      have hc : p c = true := (hp c).mpr (((hp b).mp hb).tail hwaits)
      have hfirst : Before (order.filter p) c b := hbefore.filter hc hb
      exact hfirst.mono (List.sublist_append_left _ _)
    · have hb' : b ∈ order.filter fun b => !p b := List.mem_filter.mpr ⟨hbmem, by simpa using hb⟩
      by_cases hc : p c = true
      · exact Before.append (List.mem_filter.mpr ⟨hcmem, hc⟩) hb'
      · have hsecond : Before (order.filter fun b => !p b) c b :=
          hbefore.filter (by simpa using hc) (by simpa using hb)
        exact hsecond.mono (List.sublist_append_right _ _)

end ExecutionOrder

/-- Without a cycle there is a linear order with what is waited for below what waits. -/
theorem Schedulable.exists_linearOrder (h : g.Schedulable target) :
    ∃ le : α → α → Prop, IsLinearOrder α le ∧ ∀ a b, g.Waits target a b → le b a := by
  let waitsFor : α → α → Prop := fun b a => Relation.ReflTransGen (g.Waits target) a b
  have hpartial : IsPartialOrder α waitsFor :=
    { refl := fun a => .refl
      trans := fun a b c hab hbc => hbc.trans hab
      antisymm := fun a b hab hba => by
        cases Relation.reflTransGen_iff_eq_or_transGen.mp hab with
        | inl heq => exact heq
        | inr hchain => exact absurd (hchain.trans_left hba) (h.acyclic b) }
  obtain ⟨le, hlinear, hextends⟩ := extend_partialOrder waitsFor
  exact ⟨le, hlinear, fun a b hwaits => hextends _ _ (Relation.ReflTransGen.single hwaits)⟩

/-- **What can be ordered**: a build has an order if its tasks are there and no chain of
edges is a cycle. -/
theorem Schedulable.exists_executionOrder (h : g.Schedulable target) :
    ∃ order, g.ExecutionOrder target order := by
  classical
  obtain ⟨le, hlinear, hle⟩ := h.exists_linearOrder
  let required := g.tasks.dedup.filter fun a => g.Required target a
  let order := required.insertionSort le
  have hperm : order.Perm required := List.perm_insertionSort le required
  have hnodup : order.Nodup := hperm.nodup_iff.mpr ((List.nodup_dedup _).filter _)
  have hmem : ∀ a, a ∈ order ↔ g.Required target a := by
    intro a
    have hknown := h.known a
    simpa [hperm.mem_iff, required] using hknown
  have hrespects : ∀ a b, g.Waits target a b → Before order b a := by
    intro a b hwaits
    have hne : a ≠ b := fun heq => h.acyclic a (.single (heq ▸ hwaits))
    have hsorted : order.Pairwise le := List.pairwise_insertionSort le required
    cases Before.total ((hmem a).mpr hwaits.1) ((hmem b).mpr hwaits.2.1) hne with
    | inl hbefore =>
      have hab : le a b := List.pairwise_iff_forall_sublist.mp hsorted hbefore
      exact absurd (hlinear.antisymm _ _ hab (hle a b hwaits)) hne
    | inr hbefore => exact hbefore
  exact ⟨order, hnodup, hmem, fun a ha => h.known a ((hmem a).mp ha), hrespects⟩

/-- **What every order guarantees**: `b` runs before `a` in each order of the build if and
only if `a` follows `b`, unless the build cannot be ordered at all. -/
theorem runs_before_iff (ha : g.Required target a) (hb : g.Required target b) :
    (∀ order, g.ExecutionOrder target order → Before order b a) ↔
      (g.Schedulable target → g.Follows target a b) := by
  classical
  constructor
  · intro halways hschedulable
    obtain ⟨order, h⟩ := hschedulable.exists_executionOrder
    by_contra hfollows
    -- otherwise the order that runs `a` early is against it
    let p : α → Bool := fun c => Relation.ReflTransGen (g.Waits target) a c
    have hp : ∀ c, p c = true ↔ Relation.ReflTransGen (g.Waits target) a c := by simp [p]
    have hearly := h.early p hp
    have hba := halways _ hearly
    by_cases heq : b = a
    · exact Before.irrefl hearly.nodup (heq ▸ hba)
    · have hchain : ¬ Relation.ReflTransGen (g.Waits target) a b := by
        intro hchain
        cases Relation.reflTransGen_iff_eq_or_transGen.mp hchain with
        | inl h => exact heq h
        | inr h => exact hfollows h
      have hpb : p b = false := by
        rw [← Bool.not_eq_true, hp]
        exact hchain
      have hafirst : a ∈ order.filter p :=
        List.mem_filter.mpr ⟨(h.mem_iff a).mpr ha, (hp a).mpr .refl⟩
      have hblast : b ∈ order.filter fun c => !p c :=
        List.mem_filter.mpr ⟨(h.mem_iff b).mpr hb, by simpa using hpb⟩
      have hab := Before.append hafirst hblast
      exact Before.irrefl hearly.nodup (hab.trans hearly.nodup hba)
  · intro hfollows order h
    exact h.before_of_follows (hfollows h.schedulable)

/-- **A chain between tasks that `t` waits for** passes `t` by, where there is no cycle. -/
theorem Schedulable.follows_avoiding (h : g.Schedulable target) {t : α}
    (hta : g.Follows target t a) (hab : g.Follows target a b) :
    Relation.TransGen (fun x y => x ≠ t ∧ g.Waits target x y) a b := by
  induction hab with
  | single hstep =>
    have hne : a ≠ t := fun heq => h.acyclic t (heq ▸ hta)
    exact .single ⟨hne, hstep⟩
  | @tail c d hac hstep ih =>
    have hne : c ≠ t := fun heq => h.acyclic t (hta.trans (heq ▸ hac))
    exact ih.tail ⟨hne, hstep⟩

end TaskGraph

end Foundation
