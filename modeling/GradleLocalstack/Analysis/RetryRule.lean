import GradleLocalstack.Program.Retry

/-!
# The proof rule of `Retry.execute`

`I k` is what holds in the world in which attempt number `k` starts.  An attempt ends
the run by returning (`Q`) or by throwing an expected error; after any other error it
must leave `I (k + 1)`, in which the next attempt starts.  After `maxRetries` failed
attempts the run throws `exhausted`.
-/

set_option autoImplicit false

namespace GradleLocalstack.Analysis

open Foundation GradleLocalstack.Model GradleLocalstack.Program

variable {ω α : Type} [Console ω]

/-- The handler prints the error; it throws on an expected one, and pauses and prints on
any other. -/
theorem wp_handleException {Q : Unit → ω → Prop} {E : Throwable → ω → Prop} {w : ω}
    (attempt : ℕ) (t : Throwable) (expectedErrors : List JavaClass) :
    (Retry.handleException attempt t expectedErrors).wp Q E w ↔
      if Retry.isExpected expectedErrors t then
        E (Retry.rethrown t) (Console.emit (.line (Retry.errorText t)) w)
      else
        Q () (Console.emit (.line "Retrying...") (Console.emit (.pause attempt)
          (Console.emit (.line (Retry.errorText t)) w))) := by
  unfold Retry.handleException Retry.doWait
  by_cases h : Retry.isExpected expectedErrors t <;> simp [h]

/-- What an attempt that throws must leave, in the world in which its error has been
printed: the end of the run if the error is expected, and the start of the next attempt
otherwise. -/
def AfterError (expectedErrors : List JavaClass) (E : Throwable → ω → Prop) (next : ω → Prop)
    (t : Throwable) (w : ω) : Prop :=
  if Retry.isExpected expectedErrors t then
    E (Retry.rethrown t) (Console.emit (.line (Retry.errorText t)) w)
  else next (Console.emit (.line (Retry.errorText t)) w)

/-- Without expected errors every error starts the next attempt. -/
theorem afterError_nil {E : Throwable → ω → Prop} {next : ω → Prop} {t : Throwable} {w : ω} :
    AfterError [] E next t w ↔ next (Console.emit (.line (Retry.errorText t)) w) := by
  have hexp : Retry.isExpected [] t = false := by simp [Retry.isExpected]
  unfold AfterError
  rw [hexp, if_neg Bool.false_ne_true]

/-- **The rule for the retry loop**, with `remaining` attempts left. -/
theorem wp_executeFrom {fn : Prog ω Throwable α} {expectedErrors : List JavaClass}
    {Q : α → ω → Prop} {E : Throwable → ω → Prop} (I : ℕ → ω → Prop) (maxRetries : ℕ)
    (hI : ∀ k o w, I k w → I k (Console.emit o w))
    (hbody : ∀ k w, k < maxRetries → I k w →
      fn.wp Q (AfterError expectedErrors E (I (k + 1))) w)
    (hexhausted : ∀ w, I maxRetries w → E Retry.exhausted w)
    (remaining attempt : ℕ) (hattempt : attempt + remaining = maxRetries) (w : ω)
    (h : I attempt w) :
    (Retry.executeFrom fn expectedErrors remaining attempt).wp Q E w := by
  induction remaining generalizing attempt w with
  | zero =>
    rw [Nat.add_zero] at hattempt
    rw [Retry.executeFrom, Prog.wp_throw]
    exact hexhausted w (hattempt ▸ h)
  | succ remaining ih =>
    rw [Retry.executeFrom, Prog.wp_tryCatch]
    refine Prog.wp_mono (hbody attempt w (by omega) h) (fun _ _ hq => hq) ?_
    intro t w' ht
    rw [Prog.wp_bind, wp_handleException]
    unfold AfterError at ht
    by_cases hexp : Retry.isExpected expectedErrors t
    · rw [if_pos hexp] at ht ⊢
      exact ht
    · rw [if_neg hexp] at ht ⊢
      exact ih (attempt + 1) (by omega) _ (hI _ _ _ (hI _ _ _ ht))

/-- **The rule for `Retry.execute`.** -/
theorem wp_execute {fn : Prog ω Throwable α} {expectedErrors : List JavaClass}
    {Q : α → ω → Prop} {E : Throwable → ω → Prop} (I : ℕ → ω → Prop) (maxRetries : ℤ)
    (hI : ∀ k o w, I k w → I k (Console.emit o w))
    (hbody : ∀ k w, k < maxRetries.toNat → I k w →
      fn.wp Q (AfterError expectedErrors E (I (k + 1))) w)
    (hexhausted : ∀ w, I maxRetries.toNat w → E Retry.exhausted w) (w : ω) (h : I 0 w) :
    (Retry.execute fn maxRetries expectedErrors).wp Q E w :=
  wp_executeFrom I maxRetries.toNat hI hbody hexhausted maxRetries.toNat 0 (by omega) w h

/-- The rule for an invariant that does not count the attempts and that every error
keeps, whether it ends the run or not. -/
theorem wp_execute_keeps {fn : Prog ω Throwable α} {expectedErrors : List JavaClass}
    {Q : α → ω → Prop} (I : ω → Prop) (maxRetries : ℤ)
    (hI : ∀ o w, I w → I (Console.emit o w))
    (hbody : ∀ w, I w → fn.wp Q (fun _ w' => I w') w) (w : ω) (h : I w) :
    (Retry.execute fn maxRetries expectedErrors).wp Q (fun _ w' => I w') w := by
  refine wp_execute (fun _ => I) maxRetries (fun _ => hI) ?_ (fun _ hw => hw) w h
  intro k w hk hw
  refine Prog.wp_mono (hbody w hw) (fun _ _ hq => hq) ?_
  intro t w' ht
  unfold AfterError
  split
  · exact hI _ _ ht
  · exact hI _ _ ht

/-- By default there is at least one attempt. -/
theorem defaultMaxRetries_pos : 0 < Retry.defaultMaxRetries := by decide

/-- A function that does not throw is called once. -/
theorem wp_execute_first {fn : Prog ω Throwable α} {expectedErrors : List JavaClass}
    {Q : α → ω → Prop} {maxRetries : ℤ} (hpos : 0 < maxRetries) {w : ω}
    (h : fn.wp Q (fun _ _ => False) w) :
    (Retry.execute fn maxRetries expectedErrors).wp Q (fun _ _ => False) w := by
  unfold Retry.execute
  obtain ⟨n, hn⟩ : ∃ n, maxRetries.toNat = n + 1 := ⟨maxRetries.toNat - 1, by omega⟩
  rw [hn, Retry.executeFrom, Prog.wp_tryCatch]
  exact Prog.wp_mono h (fun _ _ hq => hq) (fun _ _ he => he.elim)

/-- A function that does not end is not called again. -/
theorem execute_diverges {fn : Prog ω Throwable α} {expectedErrors : List JavaClass}
    {maxRetries : ℤ} (hpos : 0 < maxRetries) {w w' : ω} (h : fn w = (.diverged, w')) :
    Retry.execute fn maxRetries expectedErrors w = (.diverged, w') := by
  unfold Retry.execute
  obtain ⟨n, hn⟩ : ∃ n, maxRetries.toNat = n + 1 := ⟨maxRetries.toNat - 1, by omega⟩
  rw [hn, Retry.executeFrom]
  exact Prog.run_tryCatch_diverged h _

/-- **A block whose attempts fail only when a failure strikes** throws only after ten of
them, each at a call of the kind `p`. -/
theorem wp_executeDefault_struck {σ κ : Type} {fn : Prog (World σ κ Throwable) Throwable α}
    {Q : α → World σ κ Throwable → Prop} (I : World σ κ Throwable → Prop) (p : κ → Bool)
    (hI : ∀ o w, I w → I (Console.emit o w))
    (hbody : ∀ w, I w → fn.wp Q
      (fun t w' => I w' ∧ ∃ c, p c = true ∧ w.StruckAt w' c t) w)
    (w : World σ κ Throwable) (h : I w) :
    (Retry.executeDefault fn).wp Q (fun _ w' => 10 ≤ (w'.struckBy p).length) w := by
  refine wp_execute (fun k w' => I w' ∧ k ≤ (w'.struckBy p).length) Retry.defaultMaxRetries
    ?_ ?_ ?_ w ⟨h, Nat.zero_le _⟩
  · rintro k o w' ⟨hw', hlen⟩
    exact ⟨hI o w' hw', hlen⟩
  · rintro k w₁ - ⟨hw₁, hlen⟩
    refine Prog.wp_mono (hbody w₁ hw₁) (fun _ _ hq => hq) ?_
    rintro t w₂ ⟨hw₂, c, hc, hat⟩
    rw [afterError_nil]
    obtain ⟨f, -, hstruck⟩ := hat.struckBy_eq hc
    refine ⟨hI _ _ hw₂, ?_⟩
    rw [World.struckBy_emit, hstruck, List.length_append, List.length_singleton]
    omega
  · rintro w' ⟨-, hlen⟩
    exact hlen

end GradleLocalstack.Analysis
