import Mathlib.Logic.Relation
import Mathlib.Order.Defs.Unbundled
import GradleLocalstack.Foundation.Drain
import GradleLocalstack.Foundation.Search
import GradleLocalstack.Foundation.Service

/-!
# What a program may do, however it ends

`m.Within R Q` says that `m` leaves every world it starts in one that `R` relates to it,
whether it returns, throws or uses up its rounds, and that whatever it returns satisfies `Q`.
For a preorder `R` each way to compose programs has one rule, and the rules ask for nothing
about the runs: no schedule, no invariant of the world, no reason why a loop ends.

The preorder that matters is `Evolves svc P`: the store has changed by calls of the service
that `P` allows, and by nothing else.  What every allowed call keeps is then kept by the
whole program.
-/

set_option autoImplicit false

namespace Foundation

namespace Prog

variable {ω ε α β γ : Type}

/-- However `m` ends, `R` relates the world it started in to the one it leaves; what it
returns satisfies `Q`. -/
def Within (R : ω → ω → Prop) (Q : α → Prop) (m : Prog ω ε α) : Prop :=
  ∀ w, R w (m w).2 ∧ ∀ a, (m w).1 = .returned a → Q a

namespace Within

variable {R S : ω → ω → Prop} {Q Q' : α → Prop} {m : Prog ω ε α}

/-- A relation that allows more, and a result of which less is said. -/
theorem mono (h : Within R Q m) (hR : ∀ w w', R w w' → S w w') (hQ : ∀ a, Q a → Q' a) :
    Within S Q' m :=
  fun w => ⟨hR _ _ (h w).1, fun a ha => hQ a ((h w).2 a ha)⟩

/-- A change of the world that the relation allows. -/
theorem update {f : ω → ω} (hf : ∀ w, R w (f w)) :
    Within R (fun _ => True) (update f : Prog ω ε Unit) :=
  fun w => ⟨hf w, fun _ _ => trivial⟩

/-- A program over the first part of a larger world. -/
theorem onFirst {τ : Type} {R' : ω × τ → ω × τ → Prop} (hm : Within R Q m)
    (hR : ∀ w w' t, R w w' → R' (w, t) (w', t)) :
    Within R' Q (onFirst m : Prog (ω × τ) ε α) :=
  fun w => ⟨hR _ _ _ (hm w.1).1, (hm w.1).2⟩

variable [IsPreorder ω R]

/-- A value, which leaves the world. -/
theorem pure {a : α} (ha : Q a) : Within R Q (Pure.pure a : Prog ω ε α) := by
  intro w
  refine ⟨refl_of R w, ?_⟩
  intro b hb
  cases hb
  exact ha

/-- An error, which leaves the world. -/
theorem throw (e : ε) : Within R Q (MonadExcept.throw e : Prog ω ε α) := by
  intro w
  refine ⟨refl_of R w, ?_⟩
  intro a ha
  cases ha

/-- Reading the world leaves it. -/
theorem current : Within R (fun _ => True) (current : Prog ω ε ω) :=
  fun w => ⟨refl_of R w, fun _ _ => trivial⟩

/-- A computed outcome leaves the world. -/
theorem ofExcept {x : Except ε α} (hx : ∀ a, x = .ok a → Q a) :
    Within R Q (ofExcept x : Prog ω ε α) := by
  cases x with
  | error e => exact throw e
  | ok a => exact pure (hx a rfl)

/-- **The rule for a sequence.** -/
theorem bind {f : α → Prog ω ε β} {Q' : β → Prop} (hm : Within R Q m)
    (hf : ∀ a, Q a → Within R Q' (f a)) : Within R Q' (m >>= f) := by
  intro w
  obtain ⟨hR, hQ⟩ := hm w
  show R w (Prog.bind m f w).2 ∧ ∀ b, (Prog.bind m f w).1 = .returned b → Q' b
  unfold Prog.bind
  rcases hw : m w with ⟨a | e | _, w'⟩ <;> rw [hw] at hR hQ
  · obtain ⟨hR', hQ'⟩ := hf a (hQ a rfl) w'
    exact ⟨trans_of R hR hR', hQ'⟩
  · exact ⟨hR, fun b hb => by cases hb⟩
  · exact ⟨hR, fun b hb => by cases hb⟩

/-- The rule for a sequence whose first part may return anything. -/
theorem seq {f : α → Prog ω ε β} {Q' : β → Prop} (hm : Within R (fun _ => True) m)
    (hf : ∀ a, Within R Q' (f a)) : Within R Q' (m >>= f) :=
  bind hm fun a _ => hf a

/-- The rule for a handler: what it is given is not looked at. -/
theorem tryCatch {handler : ε → Prog ω ε α} (hm : Within R Q m)
    (hh : ∀ e, Within R Q (handler e)) : Within R Q (MonadExcept.tryCatch m handler) := by
  intro w
  obtain ⟨hR, hQ⟩ := hm w
  show R w (Prog.tryCatch m handler w).2 ∧ ∀ a, (Prog.tryCatch m handler w).1 = .returned a → Q a
  unfold Prog.tryCatch
  rcases hw : m w with ⟨a | e | _, w'⟩ <;> rw [hw] at hR hQ
  · exact ⟨hR, hQ⟩
  · obtain ⟨hR', hQ'⟩ := hh e w'
    exact ⟨trans_of R hR hR', hQ'⟩
  · exact ⟨hR, hQ⟩

/-- The rule for a list loop. -/
theorem forEach {f : α → Prog ω ε Unit} {l : List α}
    (hf : ∀ a ∈ l, Within R (fun _ => True) (f a)) :
    Within R (fun _ => True) (forEach f l) := by
  induction l with
  | nil => exact pure trivial
  | cons a l ih =>
    rw [Prog.forEach]
    exact bind (hf a List.mem_cons_self) fun _ _ =>
      ih fun b hb => hf b (List.mem_cons_of_mem a hb)

/-- The rule for a list loop that hands on a value. -/
theorem foldlM {f : β → α → Prog ω ε β} {l : List α} {Q : β → Prop}
    (hf : ∀ a ∈ l, ∀ b, Q b → Within R Q (f b a)) {b : β} (hb : Q b) :
    Within R Q (l.foldlM f b) := by
  induction l generalizing b with
  | nil => exact pure hb
  | cons a l ih =>
    rw [List.foldlM_cons]
    exact bind (hf a List.mem_cons_self b hb) fun b' hb' =>
      ih (fun c hc => hf c (List.mem_cons_of_mem a hc)) hb'

/-- The rule for a bounded loop; that it may use up its rounds does not matter. -/
theorem iterate {body : β → Prog ω ε (β ⊕ α)} {I : β → Prop}
    (hbody : ∀ b, I b → Within R (fun r => r.elim I Q) (body b)) (fuel : ℕ) {b : β} (hb : I b) :
    Within R Q (iterate body fuel b) := by
  induction fuel generalizing b with
  | zero => exact fun w => ⟨refl_of R w, fun a ha => by cases ha⟩
  | succ fuel ih =>
    rw [Prog.iterate]
    refine bind (hbody b hb) ?_
    rintro (b' | a) hr
    · exact ih hr
    · exact pure hr

/-- The rule for a loop. -/
theorem loop {bound : ω → ℕ} {body : β → Prog ω ε (β ⊕ α)} {I : β → Prop}
    (hbody : ∀ b, I b → Within R (fun r => r.elim I Q) (body b)) {b : β} (hb : I b) :
    Within R Q (loop bound body b) :=
  fun w => iterate hbody (bound w) hb w

/-- The rule for emptying a collection page by page. -/
theorem drainPages {π : Type} {del : α → Prog ω ε Unit} {next : Page α π → Prog ω ε (Page α π)}
    {bound : ω → ℕ} (hdel : ∀ a, Within R (fun _ => True) (del a))
    (hnext : ∀ p, Within R (fun _ => True) (next p)) (p : Page α π) :
    Within R (fun _ => True) (drainPages del next bound p) := by
  unfold Foundation.drainPages
  refine loop (I := fun _ => True) (fun p _ => .seq (forEach fun a _ => hdel a) fun _ => ?_) trivial
  split
  · exact .seq (hnext p) fun _ => pure trivial
  · exact pure trivial

/-- The rule for looking for an item page by page. -/
theorem searchPages {π : Type} {fetch : Option π → Prog ω ε (Page α π)} {found : α → Bool}
    {bound : ω → ℕ} (hfetch : ∀ marker, Within R (fun _ => True) (fetch marker)) :
    Within R (fun _ => True) (searchPages fetch found bound) := by
  unfold Foundation.searchPages
  refine loop (I := fun _ => True) (fun marker _ => .seq (hfetch marker) fun p => ?_) trivial
  split
  · exact pure trivial
  · split
    · exact pure trivial
    · exact pure trivial

end Within

end Prog

/-! ## The calls of a program -/

section Evolves

variable {σ κ ε α τ : Type} {ρ : κ → Type}

/-- Calls that `P` allows lead from one store to the other. -/
def Evolves (svc : Service σ κ ε ρ) (P : κ → Prop) : σ → σ → Prop :=
  Relation.ReflTransGen fun s s' => ∃ c, P c ∧ s' = (svc.exec c s).2

variable {svc : Service σ κ ε ρ} {P P' : κ → Prop}

/-- Evolving is reflexive and transitive: no call, and the calls of both parts. -/
instance : IsPreorder σ (Evolves svc P) :=
  inferInstanceAs (IsPreorder σ (Relation.ReflTransGen _))

/-- One call that `P` allows. -/
theorem Evolves.call {c : κ} (hc : P c) (s : σ) : Evolves svc P s (svc.exec c s).2 :=
  .single ⟨c, hc, rfl⟩

/-- Calls that `P` allows are calls that a weaker `P'` allows. -/
theorem Evolves.mono (hP : ∀ c, P c → P' c) {s s' : σ} (h : Evolves svc P s s') :
    Evolves svc P' s s' := by
  induction h with
  | refl => exact .refl
  | tail _ hstep ih =>
    obtain ⟨c, hc, heq⟩ := hstep
    exact ih.tail ⟨c, hP c hc, heq⟩

/-- **What every allowed call keeps** is kept by any number of them. -/
theorem Evolves.keeps {R : σ → σ → Prop} [IsPreorder σ R]
    (hR : ∀ c s, P c → R s (svc.exec c s).2) {s s' : σ} (h : Evolves svc P s s') : R s s' := by
  induction h with
  | refl => exact refl_of R s
  | tail _ hstep ih =>
    obtain ⟨c, hc, rfl⟩ := hstep
    exact trans_of R ih (hR c _ hc)

/-- The store of a world has changed by allowed calls. -/
def StoreEvolves (svc : Service σ κ ε ρ) (P : κ → Prop) (w w' : World σ κ ε) : Prop :=
  Evolves svc P w.store w'.store

/-- The stores of two worlds evolve as stores do. -/
instance : IsPreorder (World σ κ ε) (StoreEvolves svc P) where
  refl w := refl_of (Evolves svc P) w.store
  trans _ _ _ h h' := trans_of (Evolves svc P) h h'

/-- **The rule for a call**, under any schedule: the answer, if there is one, is one that the
service gives on some store. -/
theorem within_call {c : κ} (hc : P c) (sched : Schedule ε) :
    Prog.Within (StoreEvolves svc P) (fun r => ∃ s s', svc.exec c s = (.ok r, s'))
      (call svc sched c) := by
  intro w
  have hstep : Evolves svc P w.store (svc.exec c w.store).2 := .call hc _
  unfold call StoreEvolves
  cases sched w.trace.length with
  | some f =>
    refine ⟨?_, fun a ha => by cases ha⟩
    show Evolves svc P w.store (if f.tookEffect then (svc.exec c w.store).2 else w.store)
    cases f.tookEffect with
    | false => exact refl_of (Evolves svc P) w.store
    | true => exact hstep
  | none =>
    rcases hx : svc.exec c w.store with ⟨e | r, s⟩
    · rw [hx] at hstep
      exact ⟨hstep, fun a ha => by cases ha⟩
    · rw [hx] at hstep
      refine ⟨hstep, ?_⟩
      intro a ha
      cases ha
      exact ⟨w.store, s, hx⟩

/-- Printing leaves the store. -/
theorem within_log (text : String) :
    Prog.Within (StoreEvolves svc P) (fun _ => True) (log text : Prog (World σ κ ε) ε Unit) :=
  .update fun w => refl_of (Evolves svc P) w.store

end Evolves

end Foundation
