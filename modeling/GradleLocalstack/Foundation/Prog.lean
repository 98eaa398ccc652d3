import Mathlib.Tactic.Common
import Mathlib.Data.Nat.Notation

/-!
# Computations that return, throw or run out of rounds

A computation over a world `ω` is a function from the world it starts in to the way
it ends and the world it leaves; the world survives an exception, as the state of a
process does.  A loop carries a bound on its rounds, and a loop that uses them up
ends in `Exit.diverged`, which no handler catches.

`Prog.wp m Q E w` says that `m` started in `w` does not diverge, that `Q` holds if it
returns and `E` holds if it throws.  Every operation has one equation or one rule for
`wp`; a proof about a computation uses these and never unfolds the computation monad.
-/

set_option autoImplicit false

namespace Foundation

/-- How a computation ends: with a value, with an exception, or with its loop bound
used up. -/
inductive Exit (ε α : Type) where
  | returned (a : α)
  | thrown (e : ε)
  | diverged
  deriving DecidableEq, Repr

/-- A computation over the world `ω` with exceptions `ε` and result `α`. -/
def Prog (ω ε α : Type) : Type := ω → Exit ε α × ω

namespace Prog

variable {ω ε α β : Type}

/-- Sequencing: an exception or a divergence of the first part ends the whole. -/
protected def bind (m : Prog ω ε α) (f : α → Prog ω ε β) : Prog ω ε β := fun w =>
  match m w with
  | (.returned a, w') => f a w'
  | (.thrown e, w') => (.thrown e, w')
  | (.diverged, w') => (.diverged, w')

/-- Programs in sequence: the second starts in the world in which the first has returned, and
does not start if that threw or did not end. -/
instance : Monad (Prog ω ε) where
  pure a := fun w => (.returned a, w)
  bind := Prog.bind

/-- End with an exception. -/
protected def throw (e : ε) : Prog ω ε α := fun w => (.thrown e, w)

/-- Run `m`; an exception goes to the handler, in the world `m` left. -/
protected def tryCatch (m : Prog ω ε α) (h : ε → Prog ω ε α) : Prog ω ε α := fun w =>
  match m w with
  | (.thrown e, w') => h e w'
  | r => r

/-- A handler runs in the world in which the error was thrown. -/
instance : MonadExceptOf ε (Prog ω ε) where
  throw := Prog.throw
  tryCatch := Prog.tryCatch

/-- Change the world. -/
def update (f : ω → ω) : Prog ω ε Unit := fun w => (.returned (), f w)

/-- The world as it is. -/
def current : Prog ω ε ω := fun w => (.returned w, w)

/-- Throw the error, or return the value. -/
def ofExcept : Except ε α → Prog ω ε α
  | .ok a => pure a
  | .error e => Prog.throw e

/-- A computation over the first part of a larger world. -/
def onFirst {τ : Type} (m : Prog ω ε α) : Prog (ω × τ) ε α := fun w =>
  ((m w.1).1, (m w.1).2, w.2)

/-- A computation that sees the second part of the world as `enter` gives it, and of which
`leave` keeps what it left there. -/
def through {σ τ : Type} (enter : τ → σ) (leave : σ → τ → τ) (m : Prog (ω × σ) ε α) :
    Prog (ω × τ) ε α := fun w =>
  let r := m (w.1, enter w.2)
  (r.1, r.2.1, leave r.2.2 w.2)

/-- Run `f` on the elements of a list, in order, for its effects. -/
def forEach (f : α → Prog ω ε Unit) : List α → Prog ω ε Unit
  | [] => pure ()
  | a :: l => do
    f a
    forEach f l

/-- At most `n` rounds of a loop: a round that answers `.inl b` goes on with `b`, one
that answers `.inr a` leaves the loop with `a`. -/
def iterate (body : β → Prog ω ε (β ⊕ α)) : ℕ → β → Prog ω ε α
  | 0, _ => fun w => (.diverged, w)
  | n + 1, b => do
    match ← body b with
    | .inl b' => iterate body n b'
    | .inr a => pure a

/-- A loop whose bound is read off the world in which the loop is entered. -/
def loop (bound : ω → ℕ) (body : β → Prog ω ε (β ⊕ α)) (b : β) : Prog ω ε α := fun w =>
  iterate body (bound w) b w

/-! ## Runs of which the first part is known -/

section Runs

variable {m : Prog ω ε α} {w w' : ω} {a : α} {e : ε}

/-- A program that returns hands its value and its world to the next. -/
theorem run_bind_returned (h : m w = (.returned a, w')) (f : α → Prog ω ε β) :
    (m >>= f) w = f a w' := by
  show Prog.bind m f w = f a w'
  unfold Prog.bind
  rw [h]

/-- A handler is not reached by a program that returns. -/
theorem run_tryCatch_returned (h : m w = (.returned a, w')) (handler : ε → Prog ω ε α) :
    (tryCatch m handler : Prog ω ε α) w = (.returned a, w') := by
  show Prog.tryCatch m handler w = (.returned a, w')
  unfold Prog.tryCatch
  rw [h]

/-- A program that throws hands its error and its world to the handler. -/
theorem run_tryCatch_thrown (h : m w = (.thrown e, w')) (handler : ε → Prog ω ε α) :
    (tryCatch m handler : Prog ω ε α) w = handler e w' := by
  show Prog.tryCatch m handler w = handler e w'
  unfold Prog.tryCatch
  rw [h]

/-- What follows a program that does not end is not reached. -/
theorem run_bind_diverged (h : m w = (.diverged, w')) (f : α → Prog ω ε β) :
    (m >>= f) w = (.diverged, w') := by
  show Prog.bind m f w = (.diverged, w')
  unfold Prog.bind
  rw [h]

/-- No handler catches a divergence. -/
theorem run_tryCatch_diverged (h : m w = (.diverged, w')) (handler : ε → Prog ω ε α) :
    (tryCatch m handler : Prog ω ε α) w = (.diverged, w') := by
  show Prog.tryCatch m handler w = (.diverged, w')
  unfold Prog.tryCatch
  rw [h]

end Runs

/-! ## Equal computations -/

/-- The laws of sequencing hold: they only speak of which program runs next. -/
instance : LawfulMonad (Prog ω ε) := LawfulMonad.mk' (Prog ω ε)
  (fun m => by
    funext w
    show Prog.bind m (fun a => pure a) w = m w
    unfold Prog.bind
    rcases m w with ⟨_ | _ | _, w'⟩ <;> rfl)
  (fun _ _ => rfl)
  (fun m f g => by
    funext w
    show Prog.bind (Prog.bind m f) g w = Prog.bind m (fun a => Prog.bind (f a) g) w
    unfold Prog.bind
    rcases m w with ⟨_ | _ | _, w'⟩ <;> rfl)

/-- Nothing runs after an exception. -/
theorem throw_bind (e : ε) (f : α → Prog ω ε β) :
    ((throw e : Prog ω ε α) >>= f) = throw e := rfl

/-- A loop over two lists in a row is two loops in a row. -/
theorem forEach_append (f : α → Prog ω ε Unit) (l l' : List α) :
    forEach f (l ++ l') = (do forEach f l; forEach f l') := by
  induction l with
  | nil => rfl
  | cons a l ih =>
    rw [List.cons_append, forEach, forEach, ih]
    exact (bind_assoc ..).symm

/-! ## Weakest preconditions -/

/-- `m` started in `w` ends, in `Q` when it returns and in `E` when it throws. -/
def wp (m : Prog ω ε α) (Q : α → ω → Prop) (E : ε → ω → Prop) (w : ω) : Prop :=
  match m w with
  | (.returned a, w') => Q a w'
  | (.thrown e, w') => E e w'
  | (.diverged, _) => False

section Rules

variable {Q Q' : α → ω → Prop} {E E' : ε → ω → Prop} {w : ω}

/-- The rule for a value. -/
@[simp] theorem wp_pure (a : α) : wp (pure a : Prog ω ε α) Q E w ↔ Q a w := Iff.rfl

/-- The rule for an error. -/
@[simp] theorem wp_throw (e : ε) : wp (throw e : Prog ω ε α) Q E w ↔ E e w := Iff.rfl

/-- The rule for a change of the world. -/
@[simp] theorem wp_update (f : ω → ω) (Q : Unit → ω → Prop) :
    wp (update f : Prog ω ε Unit) Q E w ↔ Q () (f w) := Iff.rfl

/-- The rule for reading the world. -/
@[simp] theorem wp_current (Q : ω → ω → Prop) :
    wp (current : Prog ω ε ω) Q E w ↔ Q w w := Iff.rfl

/-- The rule for a computed value. -/
@[simp] theorem wp_ofExcept_ok (a : α) : wp (ofExcept (.ok a) : Prog ω ε α) Q E w ↔ Q a w :=
  Iff.rfl

/-- The rule for a computed error. -/
@[simp] theorem wp_ofExcept_error (e : ε) :
    wp (ofExcept (.error e) : Prog ω ε α) Q E w ↔ E e w := Iff.rfl

/-- The rule for a program that works on the first component of the world. -/
@[simp] theorem wp_onFirst {τ : Type} (m : Prog ω ε α) (Q : α → ω × τ → Prop)
    (E : ε → ω × τ → Prop) (w : ω × τ) :
    wp (onFirst m) Q E w ↔ wp m (fun a w₁ => Q a (w₁, w.2)) (fun e w₁ => E e (w₁, w.2)) w.1 := by
  unfold wp onFirst
  rcases m w.1 with ⟨_ | _ | _, w₁⟩ <;> rfl

/-- The rule for a program that works on a part of the second component. -/
theorem wp_through {σ τ : Type} (enter : τ → σ) (leave : σ → τ → τ) (m : Prog (ω × σ) ε α)
    (Q : α → ω × τ → Prop) (E : ε → ω × τ → Prop) (w : ω × τ) :
    wp (through enter leave m) Q E w ↔
      wp m (fun a w' => Q a (w'.1, leave w'.2 w.2)) (fun e w' => E e (w'.1, leave w'.2 w.2))
        (w.1, enter w.2) := by
  unfold wp through
  rcases m (w.1, enter w.2) with ⟨_ | _ | _, w'⟩ <;> rfl

/-- The rule for programs in sequence. -/
@[simp] theorem wp_bind (m : Prog ω ε α) (f : α → Prog ω ε β) (Q : β → ω → Prop) :
    wp (m >>= f) Q E w ↔ wp m (fun a w' => wp (f a) Q E w') E w := by
  show wp (Prog.bind m f) Q E w ↔ _
  unfold wp Prog.bind
  rcases m w with ⟨_ | _ | _, w'⟩ <;> rfl

/-- The rule for a function of what a program returns. -/
@[simp] theorem wp_map (f : α → β) (m : Prog ω ε α) (Q : β → ω → Prop) :
    wp (f <$> m) Q E w ↔ wp m (fun a w' => Q (f a) w') E w := by
  rw [map_eq_pure_bind, wp_bind]
  rfl

/-- The rule for a handler. -/
@[simp] theorem wp_tryCatch (m : Prog ω ε α) (h : ε → Prog ω ε α) :
    wp (tryCatch m h) Q E w ↔ wp m Q (fun e w' => wp (h e) Q E w') w := by
  show wp (Prog.tryCatch m h) Q E w ↔ _
  unfold wp Prog.tryCatch
  rcases m w with ⟨_ | _ | _, w'⟩ <;> rfl

/-- Weaker conclusions follow from stronger ones. -/
theorem wp_mono {m : Prog ω ε α} (h : wp m Q E w) (hQ : ∀ a w', Q a w' → Q' a w')
    (hE : ∀ e w', E e w' → E' e w') : wp m Q' E' w := by
  unfold wp at h ⊢
  rcases hm : m w with ⟨a | e | _, w'⟩ <;> rw [hm] at h
  · exact hQ _ _ h
  · exact hE _ _ h
  · exact h

/-- A weaker conclusion for the runs that return. -/
theorem wp_conseq {m : Prog ω ε α} (h : wp m Q E w) (hQ : ∀ a w', Q a w' → Q' a w') :
    wp m Q' E w :=
  wp_mono h hQ fun _ _ he => he

/-- A run that ends in `x` and `w'` whichever way `x` is. -/
theorem run_eq_of_wp {m : Prog ω ε α} {x : Exit ε α} {w' : ω}
    (h : wp m (fun a v => x = .returned a ∧ v = w') (fun e v => x = .thrown e ∧ v = w') w) :
    m w = (x, w') := by
  unfold wp at h
  rcases hm : m w with ⟨a | e | _, v⟩ <;> rw [hm] at h
  · rw [h.1, h.2]
  · rw [h.1, h.2]
  · exact h.elim

/-- What holds after a run that is known to return. -/
theorem wp_of_returned {m : Prog ω ε α} {a : α} {w' : ω} (hrun : m w = (.returned a, w'))
    (h : Q a w') : wp m Q E w := by
  unfold wp
  rwa [hrun]

/-- What `wp` promises of a run that returned. -/
theorem wp_returned {m : Prog ω ε α} (h : wp m Q E w) {a : α} {w' : ω}
    (hrun : m w = (.returned a, w')) : Q a w' := by
  unfold wp at h
  rwa [hrun] at h

/-- What `wp` promises of a run that threw. -/
theorem wp_thrown {m : Prog ω ε α} (h : wp m Q E w) {e : ε} {w' : ω}
    (hrun : m w = (.thrown e, w')) : E e w' := by
  unfold wp at h
  rwa [hrun] at h

/-- What `wp` promises of the world in which a run ends, however it ends. -/
theorem wp_ended {P : ω → Prop} {m : Prog ω ε α} (h : wp m (fun _ => P) (fun _ => P) w) :
    (m w).1 ≠ .diverged ∧ P (m w).2 := by
  unfold wp at h
  rcases hm : m w with ⟨a | e | _, w'⟩ <;> rw [hm] at h
  · exact ⟨by simp, h⟩
  · exact ⟨by simp, h⟩
  · exact h.elim

/-- A run that cannot throw returns. -/
theorem wp_returns {P : ω → Prop} {m : Prog ω ε Unit} (h : wp m (fun _ => P) (fun _ _ => False) w) :
    (m w).1 = .returned () ∧ P (m w).2 := by
  unfold wp at h
  rcases hm : m w with ⟨a | e | _, w'⟩ <;> rw [hm] at h
  · exact ⟨rfl, h⟩
  · exact h.elim
  · exact h.elim

/-- A run for which `wp` was proved does not diverge. -/
theorem wp_not_diverged {m : Prog ω ε α} (h : wp m Q E w) {w' : ω} :
    m w ≠ (.diverged, w') := by
  intro hrun
  unfold wp at h
  rwa [hrun] at h

/-- **The rule for a list loop.**  `I rest` holds when the elements of `rest` are still
to be run; each element takes it to the rest of the list. -/
theorem wp_forEach {f : α → Prog ω ε Unit} (I : List α → ω → Prop)
    (hstep : ∀ a rest w, I (a :: rest) w → wp (f a) (fun _ => I rest) E w)
    (l : List α) (w : ω) (h : I l w) : wp (forEach f l) (fun _ => I []) E w := by
  induction l generalizing w with
  | nil => simpa [forEach] using h
  | cons a l ih =>
    rw [forEach, wp_bind]
    exact wp_conseq (hstep a l w h) (fun _ w' hw' => ih w' hw')

/-- A loop over the images is a loop over the elements. -/
theorem forEach_map {γ : Type} (g : γ → α) (f : α → Prog ω ε Unit) (l : List γ) :
    forEach f (l.map g) = forEach (fun c => f (g c)) l := by
  induction l with
  | nil => rfl
  | cons c l ih => rw [List.map_cons, forEach, forEach, ih]

/-- The rule for a list loop whose elements each establish something of their own, which
the others keep. -/
theorem wp_forEach_establishes {f : α → Prog ω ε Unit} (G : ω → Prop) (D : α → ω → Prop)
    (l : List α) (hstep : ∀ a ∈ l, ∀ w, G w →
      wp (f a) (fun _ w' => G w' ∧ D a w' ∧ ∀ b, D b w → D b w') E w)
    (w : ω) (h : G w) : wp (forEach f l) (fun _ w' => G w' ∧ ∀ a ∈ l, D a w') E w := by
  let I : List α → ω → Prop := fun rest w' => rest ⊆ l ∧ G w' ∧ ∀ a ∈ l, a ∉ rest → D a w'
  have hstart : I l w := ⟨List.Subset.refl l, h, fun a ha hnot => absurd ha hnot⟩
  refine wp_conseq (wp_forEach I ?_ l w hstart) ?_
  · rintro a rest w₁ ⟨hsub, hG, hdone⟩
    apply wp_conseq (hstep a (hsub List.mem_cons_self) w₁ hG)
    rintro _ w₂ ⟨hG', hD, hkeeps⟩
    refine ⟨fun b hb => hsub (List.mem_cons_of_mem a hb), hG', ?_⟩
    intro b hb hrest
    by_cases heq : b = a
    · rw [heq]
      exact hD
    · have hnot : b ∉ a :: rest := by simp [heq, hrest]
      exact hkeeps b (hdone b hb hnot)
  · rintro _ w' ⟨-, hG, hdone⟩
    exact ⟨hG, fun a ha => hdone a ha List.not_mem_nil⟩

/-- The rule for a list loop whose elements each keep something. -/
theorem wp_forEach_keeps {f : α → Prog ω ε Unit} (G : ω → Prop) (l : List α)
    (hstep : ∀ a ∈ l, ∀ w, G w → wp (f a) (fun _ => G) E w) (w : ω) (h : G w) :
    wp (forEach f l) (fun _ => G) E w := by
  apply wp_conseq (wp_forEach_establishes G (fun _ _ => True) l _ w h)
  · intro _ w' hw'
    exact hw'.1
  · intro a ha w' hw'
    apply wp_conseq (hstep a ha w' hw')
    intro _ w'' hw''
    exact ⟨hw'', trivial, fun _ h => h⟩

/-- The rule for a list loop that hands on a value. -/
theorem wp_foldlM {f : β → α → Prog ω ε β} (I : List α → β → ω → Prop)
    (hstep : ∀ a rest b w, I (a :: rest) b w → wp (f b a) (fun b' => I rest b') E w)
    (l : List α) (b : β) (w : ω) (h : I l b w) : wp (l.foldlM f b) (I []) E w := by
  induction l generalizing b w with
  | nil => exact h
  | cons a l ih =>
    rw [List.foldlM_cons, wp_bind]
    exact wp_conseq (hstep a l b w h) (fun b' w' hw' => ih b' w' hw')

/-- **The rule for a bounded loop.**  `I n b` holds when at most `n` more rounds follow
the coming one; every round that goes on lowers `n`, so a bound above the first `n`
is never used up. -/
theorem wp_iterate {body : β → Prog ω ε (β ⊕ α)} (I : ℕ → β → ω → Prop)
    (hstep : ∀ n b w, I n b w → wp (body b)
      (fun r w' => r.elim (fun b' => ∃ m < n, I m b' w') (fun a => Q a w')) E w)
    (fuel n : ℕ) (hfuel : n < fuel) (b : β) (w : ω) (h : I n b w) :
    wp (iterate body fuel b) Q E w := by
  induction fuel generalizing n b w with
  | zero => omega
  | succ fuel ih =>
    rw [iterate, wp_bind]
    apply wp_conseq (hstep n b w h)
    rintro (b' | a) w' hw'
    · obtain ⟨m, hm, hI⟩ := hw'
      exact ih m (by omega) b' w' hI
    · exact hw'

/-- The rule for a loop whose bound is read off the world it is entered in. -/
theorem wp_loop {bound : ω → ℕ} {body : β → Prog ω ε (β ⊕ α)} (I : ℕ → β → ω → Prop)
    (hstep : ∀ n b w, I n b w → wp (body b)
      (fun r w' => r.elim (fun b' => ∃ m < n, I m b' w') (fun a => Q a w')) E w)
    (n : ℕ) (b : β) (w : ω) (hbound : n < bound w) (h : I n b w) :
    wp (loop bound body b) Q E w :=
  wp_iterate I hstep (bound w) n hbound b w h

/-- **A loop every round of which goes on** uses up any bound. -/
theorem iterate_diverges {body : β → Prog ω ε (β ⊕ α)} (I : β → ω → Prop)
    (hstep : ∀ b w, I b w → wp (body b)
      (fun r w' => ∃ b', r = .inl b' ∧ I b' w') (fun _ _ => False) w)
    (fuel : ℕ) (b : β) (w : ω) (h : I b w) :
    ∃ w', iterate body fuel b w = (.diverged, w') := by
  induction fuel generalizing b w with
  | zero => exact ⟨w, rfl⟩
  | succ fuel ih =>
    have hround := hstep b w h
    unfold wp at hround
    rcases hbody : body b w with ⟨r | e | _, w'⟩ <;> rw [hbody] at hround
    · obtain ⟨b', rfl, hI⟩ := hround
      obtain ⟨w'', hrest⟩ := ih b' w' hI
      exact ⟨w'', (run_bind_returned hbody _).trans hrest⟩
    · exact hround.elim
    · exact hround.elim

end Rules

/-! ## Runs with enough rounds -/

section Rounds

variable {m : ℕ → Prog ω ε α} {Q Q' : α → ω → Prop} {E : ε → ω → Prop} {w : ω}

/-- With enough rounds the computation returns, and `Q` holds. -/
def ReturnsWith (m : ℕ → Prog ω ε α) (Q : α → ω → Prop) (w : ω) : Prop :=
  ∃ bound, ∀ rounds, bound ≤ rounds →
    ∃ a w', m rounds w = (.returned a, w') ∧ Q a w'

/-- A program that returns under every large enough bound returns. -/
theorem returnsWith_of_wp (bound : ℕ)
    (h : ∀ rounds, bound ≤ rounds → wp (m rounds) Q (fun _ _ => False) w) :
    ReturnsWith m Q w := by
  refine ⟨bound, ?_⟩
  intro rounds hrounds
  have hwp := h rounds hrounds
  unfold wp at hwp
  rcases hm : m rounds w with ⟨a | e | _, w'⟩ <;> rw [hm] at hwp
  · exact ⟨a, w', rfl, hwp⟩
  · exact hwp.elim
  · exact hwp.elim

/-- What holds of every run with enough rounds holds of the runs that return. -/
theorem ReturnsWith.exists_and (h : ReturnsWith m Q w) {bound : ℕ}
    (hwp : ∀ rounds, bound ≤ rounds → wp (m rounds) Q' E w) :
    ∃ a w', Q a w' ∧ Q' a w' := by
  obtain ⟨bound', hbound'⟩ := h
  have hle := Nat.le_max_left bound bound'
  have hle' := Nat.le_max_right bound bound'
  obtain ⟨a, w', hrun, hQ⟩ := hbound' (max bound bound') hle'
  exact ⟨a, w', hQ, wp_returned (hwp (max bound bound') hle) hrun⟩

/-- A computation that uses up every bound never returns. -/
theorem not_returnsWith (h : ∀ rounds, ∃ w', m rounds w = (.diverged, w')) :
    ¬ ReturnsWith m Q w := by
  rintro ⟨bound, hbound⟩
  obtain ⟨a, w', hrun, -⟩ := hbound bound (Nat.le_refl bound)
  obtain ⟨w'', hdiverged⟩ := h bound
  rw [hrun] at hdiverged
  cases congrArg Prod.fst hdiverged

end Rounds

end Prog

end Foundation
