import GradleLocalstack.Foundation.Service

/-!
# Creating what is missing

A store of resources under names grows when resources are added under names of a list
and everything else stays: `Grown`.  `IdempotentCreation` says of a program, run under a
schedule of failures, that its store only ever grows, by resources of one kind; that a
run that returns leaves a resource under every name of the list; and that running it once
more, without failures, changes nothing.
-/

set_option autoImplicit false

namespace Foundation

section Grown

variable {ι ρ : Type}

/-- Everything of `s` is still there in `s'`; what is new has a name of the list and is
`fresh`. -/
def Grown (names : List ι) (fresh : ρ) (s s' : ι → Option ρ) : Prop :=
  ∀ c, s' c = s c ∨ (s c = none ∧ c ∈ names ∧ s' c = some fresh)

variable {names : List ι} {fresh : ρ} {s s' : ι → Option ρ}

/-- Nothing has been created yet. -/
theorem Grown.refl (names : List ι) (fresh : ρ) (s : ι → Option ρ) : Grown names fresh s s :=
  fun _ => .inl rfl

/-- One more resource. -/
theorem Grown.update [DecidableEq ι] (h : Grown names fresh s s') {name : ι}
    (hname : name ∈ names) (hnone : s' name = none) :
    Grown names fresh s (Function.update s' name (some fresh)) := by
  intro c
  by_cases heq : c = name
  · subst heq
    have habsent : s c = none := by
      cases h c with
      | inl hsame => rw [← hsame, hnone]
      | inr hnew => exact hnew.1
    exact .inr ⟨habsent, hname, Function.update_self ..⟩
  · rw [Function.update_of_ne heq]
    exact h c

end Grown

section Idempotent

variable {σ κ ε ι ρ τ : Type}

/-- The resources that `view` shows have grown, and `frame`, the rest of the store, is what
it was. -/
structure GrownIn (view : σ → ι → Option ρ) (frame : σ → τ) (names : List ι) (fresh : ρ)
    (s s' : σ) : Prop where
  grown : Grown names fresh (view s) (view s')
  frame_eq : frame s' = frame s

variable {view : σ → ι → Option ρ} {frame : σ → τ} {names : List ι} {fresh : ρ} {s : σ}

/-- Nothing has been created yet, and the frame is what it is. -/
theorem GrownIn.refl (view : σ → ι → Option ρ) (frame : σ → τ) (names : List ι) (fresh : ρ)
    (s : σ) : GrownIn view frame names fresh s s :=
  ⟨.refl names fresh (view s), rfl⟩

/-- The program creates `fresh` resources under the names of the list and changes nothing
else. -/
structure IdempotentCreation (run : Schedule ε → Prog (World σ κ ε) ε Unit)
    (view : σ → ι → Option ρ) (frame : σ → τ) (names : List ι) (fresh : ρ)
    (sched : Schedule ε) (s : σ) : Prop where
  ends : (run sched (World.start s)).1 ≠ .diverged
  grows : (run sched (World.start s)).2.Always (GrownIn view frame names fresh s)
  present : (run sched (World.start s)).1 = .returned () →
    ∀ c ∈ names, (view (run sched (World.start s)).2.store c).isSome
  rerun : (run sched (World.start s)).1 = .returned () →
    (run .clear (World.start (run sched (World.start s)).2.store)).1 = .returned () ∧
      (run .clear (World.start (run sched (World.start s)).2.store)).2.Always
        (· = (run sched (World.start s)).2.store)

/-- A program that keeps the store growing, ends with every name present, and without
failures does nothing when every name is present. -/
theorem IdempotentCreation.of_wp {run : Schedule ε → Prog (World σ κ ε) ε Unit}
    {sched : Schedule ε}
    (hrun : (run sched).wp
      (fun _ w => w.Always (GrownIn view frame names fresh s) ∧
        ∀ c ∈ names, (view w.store c).isSome)
      (fun _ w => w.Always (GrownIn view frame names fresh s)) (World.start s))
    (hrerun : ∀ s', (∀ c ∈ names, (view s' c).isSome) →
      (run .clear).wp (fun _ w => w.Always (· = s')) (fun _ _ => False) (World.start s')) :
    IdempotentCreation run view frame names fresh sched s := by
  have hgrows := Prog.wp_ended (Prog.wp_mono hrun (fun _ _ h => h.1) (fun _ _ h => h))
  have hpresent : (run sched (World.start s)).1 = .returned () →
      ∀ c ∈ names, (view (run sched (World.start s)).2.store c).isSome := by
    intro hreturned
    exact (Prog.wp_returned hrun (Prod.ext hreturned rfl)).2
  refine ⟨hgrows.1, hgrows.2, hpresent, ?_⟩
  intro hreturned
  exact Prog.wp_returns (hrerun _ (hpresent hreturned))

end Idempotent

end Foundation
