import GradleLocalstack.Foundation.Search
import GradleLocalstack.Foundation.Service

/-!
# Programs that find everything done

`m.Quiet P F Q` says that `m`, started where `P` holds, ends with `P` still holding, hands on a
value that satisfies `Q`, and throws only if `F` is the case.  With `F` for "a failure can
strike" such a program returns when none can, and changes nothing in any case.
-/

set_option autoImplicit false

namespace Foundation

namespace Prog

variable {ω ε α β : Type}

/-- `m` keeps `P`, hands on what satisfies `Q`, and throws only if `F`. -/
def Quiet (P : ω → Prop) (F : Prop) (Q : α → Prop) (m : Prog ω ε α) : Prop :=
  ∀ w, P w → m.wp (fun a w' => P w' ∧ Q a) (fun _ w' => P w' ∧ F) w

namespace Quiet

variable {P : ω → Prop} {F : Prop} {Q Q' : α → Prop} {R : β → Prop} {m : Prog ω ε α}

/-- Less may be said of the result. -/
theorem mono (h : Quiet P F Q m) (hQ : ∀ a, Q a → Q' a) : Quiet P F Q' m :=
  fun w hw => wp_conseq (h w hw) fun a _ ha => ⟨ha.1, hQ a ha.2⟩

/-- More may excuse a throw. -/
theorem excuse {F' : Prop} (h : Quiet P F Q m) (hF : F → F') : Quiet P F' Q m :=
  fun w hw => wp_mono (h w hw) (fun _ _ ha => ha) fun _ _ he => ⟨he.1, hF he.2⟩

/-- A value. -/
theorem pure {a : α} (h : Q a) : Quiet P F Q (pure a : Prog ω ε α) := fun _ hw => ⟨hw, h⟩

/-- An error, where throwing is excused. -/
theorem throw (hF : F) (e : ε) : Quiet P F Q (throw e : Prog ω ε α) := fun _ hw => ⟨hw, hF⟩

/-- Two programs in sequence, the second for every result of the first. -/
theorem bind {f : α → Prog ω ε β} (h : Quiet P F Q m) (hf : ∀ a, Q a → Quiet P F R (f a)) :
    Quiet P F R (m >>= f) := by
  intro w hw
  rw [wp_bind]
  exact wp_conseq (h w hw) fun a w' ha => hf a ha.2 w' ha.1

/-- A handler, which is only reached where throwing is excused. -/
theorem tryCatch {handler : ε → Prog ω ε α} (h : Quiet P F Q m)
    (hhandler : F → ∀ e, Quiet P F Q (handler e)) : Quiet P F Q (tryCatch m handler) := by
  intro w hw
  rw [wp_tryCatch]
  exact wp_mono (h w hw) (fun _ _ ha => ha) fun e w' he => hhandler he.2 e w' he.1

/-- A change of the world that keeps the invariant. -/
theorem update {f : ω → ω} (hf : ∀ w, P w → P (f w)) :
    Quiet P F (fun _ => True) (update f : Prog ω ε Unit) := fun w hw => ⟨hf w hw, trivial⟩

/-- Reading the world, which satisfies the invariant. -/
theorem current : Quiet P F P (current : Prog ω ε ω) := fun _ hw => ⟨hw, hw⟩

/-- A loop whose body keeps the invariant for every element. -/
theorem forEach {f : β → Prog ω ε Unit} {l : List β}
    (h : ∀ b ∈ l, Quiet P F (fun _ => True) (f b)) :
    Quiet P F (fun _ => True) (forEach f l) := by
  induction l with
  | nil => exact pure trivial
  | cons b l ih =>
    exact bind (h b List.mem_cons_self) fun _ _ => ih fun c hc => h c (List.mem_cons_of_mem b hc)

/-- A program over the first part of a larger world. -/
theorem onFirst {τ : Type} {P : ω → Prop} {P' : τ → Prop} (h : Quiet P F Q m) :
    Quiet (fun w : ω × τ => P w.1 ∧ P' w.2) F Q (onFirst m) := by
  intro w hw
  rw [wp_onFirst]
  exact wp_mono (h w.1 hw.1) (fun a w' ha => ⟨⟨ha.1, hw.2⟩, ha.2⟩)
    fun _ w' he => ⟨⟨he.1, hw.2⟩, he.2⟩

/-- However it ends, `P` holds. -/
theorem keeps (h : Quiet P F Q m) {w : ω} (hw : P w) : P (m w).2 :=
  (wp_ended (wp_mono (h w hw) (fun _ _ ha => ha.1) fun _ _ he => he.1)).2

/-- It returns if it has no reason to throw. -/
theorem returns (h : Quiet P F Q m) (hF : ¬ F) {w : ω} (hw : P w) :
    ∃ a, (m w).1 = .returned a ∧ Q a := by
  have hwp := h w hw
  unfold wp at hwp
  rcases hm : m w with ⟨a | e | _, w'⟩ <;> rw [hm] at hwp
  · exact ⟨a, rfl, hwp.2⟩
  · exact absurd hwp.2 hF
  · exact hwp.elim

/-- Looking page by page for an item of a collection that does not change. -/
theorem searchPages {π : Type} [LinearOrder π] {pos : α → π} {n : ℕ} {view : List α}
    {fetch : Option π → Prog ω ε (Page α π)} {found : α → Bool} {bound : ω → ℕ} (hn : 0 < n)
    (hinj : ∀ a ∈ view, ∀ b ∈ view, pos a = pos b → a = b)
    (hfetch : ∀ marker, Quiet P F (fun p => p = Page.of pos n marker view) (fetch marker))
    (hbound : ∀ w, P w → view.length < bound w) :
    Quiet P F (fun r => r = view.any found) (Foundation.searchPages fetch found bound) :=
  fun w hw => wp_searchPages P hn hinj (fun marker w' hw' => hfetch marker w' hw') w hw
    (hbound w hw)

end Quiet

/-- `m` ends, wherever it is started. -/
abbrev Ends (m : Prog ω ε α) : Prop := Quiet (fun _ => True) True (fun _ => True) m

/-- A program of which some postcondition is proved in each world ends. -/
theorem Ends.of_wp {m : Prog ω ε α} (h : ∀ w, ∃ Q E, m.wp Q E w) : m.Ends := by
  intro w _
  obtain ⟨Q, E, hwp⟩ := h w
  exact wp_mono hwp (fun _ _ _ => ⟨trivial, trivial⟩) fun _ _ _ => ⟨trivial, trivial⟩

/-- A program of which some postcondition is proved in a world ends there. -/
theorem wp_ends {m : Prog ω ε α} {Q : α → ω → Prop} {E : ε → ω → Prop} {w : ω}
    (h : m.wp Q E w) : (m w).1 ≠ .diverged :=
  fun hdiverged => wp_not_diverged h (Prod.ext hdiverged rfl)

/-- A program that ends does not run on for ever. -/
theorem Ends.ended {m : Prog ω ε α} (h : m.Ends) (w : ω) : (m w).1 ≠ .diverged :=
  wp_ends (h w trivial)

end Prog

section Call

variable {σ κ ε : Type} {ρ : κ → Type} {svc : Service σ κ ε ρ} {sched : Schedule ε} {c : κ}
  {s : σ}

/-- A failure of the schedule can strike. -/
def Schedule.Strikes (sched : Schedule ε) : Prop := ∃ e, sched.Injects e

/-- The clear schedule strikes no call. -/
theorem Schedule.not_strikes_clear : ¬ (Schedule.clear : Schedule ε).Strikes := by
  rintro ⟨e, n, f, hf, -⟩
  cases hf

/-- A call that is answered and leaves the store. -/
theorem quiet_call {r : ρ c} (hx : svc.exec c s = (.ok r, s)) :
    Prog.Quiet (fun w : World σ κ ε => w.store = s) sched.Strikes (fun r' => r' = r)
      (call svc sched c) := by
  intro w hw
  have hx' : svc.exec c w.store = (.ok r, w.store) := by rw [hw, hx]
  refine Prog.wp_mono (wp_call_read hx') ?_ ?_
  · rintro _ w' ⟨rfl, rfl⟩
    exact ⟨hw, rfl⟩
  · rintro e w' ⟨-, hinjects, hstore⟩
    exact ⟨hstore.trans hw, e, hinjects⟩

/-- A call that leaves the store, answered or not, where throwing is excused. -/
theorem quiet_call_excused {F : Prop} (hx : (svc.exec c s).2 = s) (hF : F) :
    Prog.Quiet (fun w : World σ κ ε => w.store = s) F (fun r => svc.exec c s = (.ok r, s))
      (call svc sched c) := by
  rintro w rfl
  refine Prog.wp_mono (wp_call_keeps (I := fun w' => w'.store = w.store) (fun _ => rfl)
    fun _ => hx) ?_ (fun _ _ he => ⟨he, hF⟩)
  rintro r w' ⟨hanswer, hstore⟩
  exact ⟨hstore, hstore ▸ hanswer⟩

/-- A call always ends. -/
theorem ends_call (svc : Service σ κ ε ρ) (sched : Schedule ε) (c : κ) : (call svc sched c).Ends :=
  fun _ _ => wp_call (fun _ _ => ⟨trivial, trivial⟩) (fun _ _ _ _ => ⟨trivial, trivial⟩)
    fun _ _ _ _ => ⟨trivial, trivial⟩

/-- Printing. -/
theorem quiet_log {ω : Type} [Console ω] {P : ω → Prop} {F : Prop}
    (hP : ∀ o w, P w → P (Console.emit o w)) (text : String) :
    Prog.Quiet P F (fun _ => True) (log text : Prog ω ε Unit) :=
  .update fun w hw => hP _ w hw

end Call

end Foundation
