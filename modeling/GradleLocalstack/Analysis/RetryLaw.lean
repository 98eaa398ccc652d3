import Mathlib.Data.Nat.Find
import GradleLocalstack.Foundation.Script
import GradleLocalstack.Analysis.RetryRule

/-!
# What `Retry.execute` does with a function

The run is read against the outcomes of the wrapped function, one for each call.  An
outcome is final if it is a value or an error on which the handler throws.  The run
calls the function up to the first final outcome, or `maxRetries` times if there is
none among those; its journal is that of the attempts it made (`retryRun_of_firstFinal`,
`retryRun_of_none_final`), from which everything else here follows.
-/

set_option autoImplicit false

namespace GradleLocalstack.Analysis

open Foundation GradleLocalstack.Model GradleLocalstack.Program

variable {α : Type} {expectedErrors : List JavaClass} {outcomes : ℕ → Except Throwable α}
  {maxRetries : ℤ}

/-- The outcome ends the run: a value, or an error on which the handler throws. -/
def isFinal (expectedErrors : List JavaClass) : Except Throwable α → Bool
  | .ok _ => true
  | .error t => Retry.isExpected expectedErrors t

/-- An error is final exactly if its own class, or the class of its direct cause, is one of
the expected errors. -/
theorem isFinal_error_iff {t : Throwable} :
    isFinal expectedErrors (.error t : Except Throwable α) = true ↔
      t.getClass ∈ expectedErrors ∨
        ∃ cause, t.getCause = some cause ∧ cause.getClass ∈ expectedErrors := by
  rw [isFinal, Retry.isExpected, Bool.or_eq_true, List.contains_iff_mem, Option.any_eq_true]
  simp only [List.contains_iff_mem]

/-- How the run ends at a final outcome. -/
def finalExit : Except Throwable α → Exit Throwable α
  | .ok a => .returned a
  | .error t => .thrown (Retry.rethrown t)

/-- `k` is the index of the first final outcome. -/
def FirstFinal (expectedErrors : List JavaClass) (outcomes : ℕ → Except Throwable α) (k : ℕ) :
    Prop :=
  isFinal expectedErrors (outcomes k) = true ∧
    ∀ i < k, isFinal expectedErrors (outcomes i) = false

/-- What attempt number `k` leaves in the journal. -/
def attemptEvents (expectedErrors : List JavaClass) (k : ℕ) : Except Throwable α → List Event
  | .ok _ => [.called]
  | .error t =>
    if Retry.isExpected expectedErrors t then
      [.called, .printed (Retry.errorText t)]
    else
      [.called, .printed (Retry.errorText t), .waited k, .printed "Retrying..."]

/-- What the first `n` attempts leave in the journal. -/
def attempts (expectedErrors : List JavaClass) (outcomes : ℕ → Except Throwable α) :
    ℕ → List Event
  | 0 => []
  | n + 1 => attempts expectedErrors outcomes n ++ attemptEvents expectedErrors n (outcomes n)

/-- The run of `Retry.execute` on the function with these outcomes. -/
def retryRun (outcomes : ℕ → Except Throwable α) (maxRetries : ℤ)
    (expectedErrors : List JavaClass) : Exit Throwable α × Journal :=
  Retry.execute (scripted outcomes) maxRetries expectedErrors Journal.empty

/-! ## The attempts of a run -/

/-- An attempt calls the function once. -/
theorem countP_isCall_attemptEvents (k : ℕ) (o : Except Throwable α) :
    (attemptEvents expectedErrors k o).countP Event.isCall = 1 := by
  cases o with
  | ok a => rfl
  | error t =>
    by_cases h : Retry.isExpected expectedErrors t
    · simp [attemptEvents, h, List.countP_cons, Event.isCall]
    · simp [attemptEvents, h, List.countP_cons, Event.isCall]

/-- Every attempt calls the function once. -/
theorem countP_isCall_attempts (n : ℕ) :
    (attempts expectedErrors outcomes n).countP Event.isCall = n := by
  induction n with
  | zero => rfl
  | succ n ih => rw [attempts, List.countP_append, ih, countP_isCall_attemptEvents]

/-- After the first `n` attempts the journal counts `n` calls. -/
theorem calls_extend_attempts (n : ℕ) :
    (Journal.empty.extend (attempts expectedErrors outcomes n)).calls = n := by
  rw [Journal.calls_extend, countP_isCall_attempts, Journal.calls_empty, Nat.zero_add]

/-- An attempt whose outcome is final ends the loop. -/
theorem executeFrom_final {k remaining : ℕ} {j : Journal} (hj : j.calls = k)
    (hfinal : isFinal expectedErrors (outcomes k) = true) :
    Retry.executeFrom (scripted outcomes) expectedErrors (remaining + 1) k j =
      (finalExit (outcomes k), j.extend (attemptEvents expectedErrors k (outcomes k))) := by
  rw [Retry.executeFrom]
  cases ho : outcomes k with
  | ok a => exact Prog.run_tryCatch_returned (scripted_ok (hj ▸ ho)) _
  | error t =>
    have hexp : Retry.isExpected expectedErrors t = true := by simpa [ho, isFinal] using hfinal
    rw [Prog.run_tryCatch_thrown (scripted_error (hj ▸ ho))]
    apply Prog.run_eq_of_wp
    rw [Prog.wp_bind, wp_handleException, if_pos hexp]
    simp [finalExit, attemptEvents, hexp]

/-- An attempt whose outcome is not final is followed by the next one. -/
theorem executeFrom_retry {k remaining : ℕ} {j : Journal} (hj : j.calls = k)
    (hretry : isFinal expectedErrors (outcomes k) = false) :
    Retry.executeFrom (scripted outcomes) expectedErrors (remaining + 1) k j =
      Retry.executeFrom (scripted outcomes) expectedErrors remaining (k + 1)
        (j.extend (attemptEvents expectedErrors k (outcomes k))) := by
  rw [Retry.executeFrom]
  cases ho : outcomes k with
  | ok a => simp [ho, isFinal] at hretry
  | error t =>
    have hexp : Retry.isExpected expectedErrors t = false := by simpa [ho, isFinal] using hretry
    have hhandled : Retry.handleException k t expectedErrors (j.extend [.called]) =
        (.returned (),
          j.extend (attemptEvents expectedErrors k (.error t : Except Throwable α))) := by
      apply Prog.run_eq_of_wp
      rw [wp_handleException, if_neg (by simp [hexp])]
      simp [attemptEvents, hexp]
    rw [Prog.run_tryCatch_thrown (scripted_error (hj ▸ ho)), Prog.run_bind_returned hhandled]

/-- The first `n` attempts, if none of their outcomes is final. -/
theorem executeFrom_retries (n : ℕ) {remaining : ℕ}
    (hretry : ∀ i < n, isFinal expectedErrors (outcomes i) = false) :
    Retry.executeFrom (scripted outcomes) expectedErrors (remaining + n) 0 Journal.empty =
      Retry.executeFrom (scripted outcomes) expectedErrors remaining n
        (Journal.empty.extend (attempts expectedErrors outcomes n)) := by
  induction n generalizing remaining with
  | zero => rfl
  | succ n ih =>
    have hbefore : ∀ i < n, isFinal expectedErrors (outcomes i) = false :=
      fun i hi => hretry i (by omega)
    rw [show remaining + (n + 1) = remaining + 1 + n by omega, ih hbefore,
      executeFrom_retry (calls_extend_attempts n) (hretry n (by omega)), Journal.extend_extend,
      attempts]

/-! ## The run -/

/-- **A run that meets a final outcome** among its attempts ends with it. -/
theorem retryRun_of_firstFinal {k : ℕ} (hfirst : FirstFinal expectedErrors outcomes k)
    (hk : (k : ℤ) < maxRetries) :
    retryRun outcomes maxRetries expectedErrors =
      (finalExit (outcomes k),
        Journal.empty.extend (attempts expectedErrors outcomes (k + 1))) := by
  obtain ⟨remaining, hremaining⟩ : ∃ remaining, maxRetries.toNat = remaining + 1 + k :=
    ⟨maxRetries.toNat - (k + 1), by omega⟩
  unfold retryRun Retry.execute
  rw [hremaining, executeFrom_retries k hfirst.2,
    executeFrom_final (calls_extend_attempts k) hfirst.1, Journal.extend_extend, attempts]

/-- **A run without a final outcome** makes all its attempts, and throws. -/
theorem retryRun_of_none_final
    (hnone : ∀ k : ℕ, (k : ℤ) < maxRetries → isFinal expectedErrors (outcomes k) = false) :
    retryRun outcomes maxRetries expectedErrors =
      (.thrown Retry.exhausted,
        Journal.empty.extend (attempts expectedErrors outcomes maxRetries.toNat)) := by
  have hretry : ∀ i < maxRetries.toNat, isFinal expectedErrors (outcomes i) = false :=
    fun i hi => hnone i (by omega)
  unfold retryRun Retry.execute
  rw [← Nat.zero_add maxRetries.toNat, executeFrom_retries _ hretry, Nat.zero_add]
  rfl

/-- The outcomes a run can meet hold a first final one, or none. -/
theorem exists_firstFinal_or (outcomes : ℕ → Except Throwable α) (maxRetries : ℤ)
    (expectedErrors : List JavaClass) :
    (∃ k : ℕ, (k : ℤ) < maxRetries ∧ FirstFinal expectedErrors outcomes k) ∨
      ∀ k : ℕ, (k : ℤ) < maxRetries → isFinal expectedErrors (outcomes k) = false := by
  by_cases h : ∃ k : ℕ, (k : ℤ) < maxRetries ∧ isFinal expectedErrors (outcomes k) = true
  · have hspec := Nat.find_spec h
    refine .inl ⟨Nat.find h, hspec.1, hspec.2, ?_⟩
    intro i hi
    have hmin := Nat.find_min h hi
    have hlt : (i : ℤ) < maxRetries := by omega
    simpa [hlt] using hmin
  · right
    intro k hk
    by_contra hfinal
    exact h ⟨k, hk, by simpa using hfinal⟩

/-- The number of calls up to the first final outcome. -/
theorem calls_of_firstFinal {k : ℕ} (hfirst : FirstFinal expectedErrors outcomes k)
    (hk : (k : ℤ) < maxRetries) :
    (retryRun outcomes maxRetries expectedErrors).2.calls = k + 1 := by
  rw [retryRun_of_firstFinal hfirst hk]
  exact calls_extend_attempts (k + 1)

/-- The number of calls without a final outcome. -/
theorem calls_of_none_final
    (hnone : ∀ k : ℕ, (k : ℤ) < maxRetries → isFinal expectedErrors (outcomes k) = false) :
    (retryRun outcomes maxRetries expectedErrors).2.calls = maxRetries.toNat := by
  rw [retryRun_of_none_final hnone]
  exact calls_extend_attempts maxRetries.toNat

/-- **The outcome law.**  With `k` the first final outcome: if it comes within the bound,
the function is called `k + 1` times, and the run returns its value or throws a
`RuntimeException` caused by its error; otherwise the function is called as often as the
bound allows, and the run throws that the attempts are used up. -/
theorem retry_outcome_law (outcomes : ℕ → Except Throwable α) (maxRetries : ℤ)
    (expectedErrors : List JavaClass) :
    (∀ k, FirstFinal expectedErrors outcomes k → (k : ℤ) < maxRetries →
      (retryRun outcomes maxRetries expectedErrors).2.calls = k + 1 ∧
      match outcomes k with
      | .ok a => (retryRun outcomes maxRetries expectedErrors).1 = .returned a
      | .error t => (retryRun outcomes maxRetries expectedErrors).1 =
          .thrown (.causedBy .runtimeException (some t.toString) t)) ∧
    ((∀ k, FirstFinal expectedErrors outcomes k → maxRetries ≤ k) →
      ((retryRun outcomes maxRetries expectedErrors).2.calls : ℤ) = max maxRetries 0 ∧
      (retryRun outcomes maxRetries expectedErrors).1 =
        .thrown (.plain .runtimeException (some "Maximum retry attempts reached"))) := by
  constructor
  · intro k hfirst hk
    refine ⟨calls_of_firstFinal hfirst hk, ?_⟩
    rw [retryRun_of_firstFinal hfirst hk]
    cases outcomes k with
    | ok a => rfl
    | error t => rfl
  · intro hlate
    rcases exists_firstFinal_or outcomes maxRetries expectedErrors with ⟨k, hk, hfirst⟩ | hnone
    · have := hlate k hfirst
      omega
    · refine ⟨?_, ?_⟩
      · rw [calls_of_none_final hnone]
        omega
      · rw [retryRun_of_none_final hnone]
        rfl

example : (retryRun (fun k => if k = 2 then .ok 7 else .error (.plain .ioException none)) 5 []).1 =
    .returned 7 := by
  decide

/-! ## The waits -/

/-- Every wait among the steps is followed by a call. -/
def WaitsOnlyToRetry (steps : List Event) : Prop :=
  ∀ before round after, steps = before ++ .waited round :: after →
    ∃ rest, after = .called :: rest

/-- A wait and a call at the end keep it so. -/
theorem WaitsOnlyToRetry.append {steps : List Event} (h : WaitsOnlyToRetry steps) (n : ℕ) :
    WaitsOnlyToRetry (steps ++ [.waited n, .called]) := by
  intro before round after heq
  rcases List.append_eq_append_iff.mp heq with ⟨l, rfl, htail⟩ | ⟨l, rfl, htail⟩
  · match l with
    | [] =>
      cases htail
      exact ⟨[], rfl⟩
    | [e] => cases htail
    | e :: e' :: l => simp at htail
  · match l with
    | [] =>
      cases htail
      exact ⟨[], rfl⟩
    | e :: l =>
      rw [List.cons_append, List.cons.injEq] at htail
      obtain ⟨rfl, rfl⟩ := htail
      obtain ⟨rest, rfl⟩ := h before round l rfl
      exact ⟨rest ++ [.waited n, .called], rfl⟩

/-- An attempt whose outcome is not final calls the function and waits. -/
theorem steps_of_retry {k : ℕ} (hretry : isFinal expectedErrors (outcomes k) = false) :
    (attemptEvents expectedErrors k (outcomes k)).filter Event.isStep = [.called, .waited k] := by
  cases ho : outcomes k with
  | ok a => simp [ho, isFinal] at hretry
  | error t =>
    have hexp : Retry.isExpected expectedErrors t = false := by simpa [ho, isFinal] using hretry
    simp only [attemptEvents, hexp]
    rfl

/-- An attempt whose outcome is final calls the function. -/
theorem steps_of_final {k : ℕ} (hfinal : isFinal expectedErrors (outcomes k) = true) :
    (attemptEvents expectedErrors k (outcomes k)).filter Event.isStep = [.called] := by
  cases ho : outcomes k with
  | ok a => rfl
  | error t =>
    have hexp : Retry.isExpected expectedErrors t = true := by simpa [ho, isFinal] using hfinal
    simp only [attemptEvents, hexp]
    rfl

/-- Attempts that are each followed by another one wait between two calls. -/
theorem waitsOnlyToRetry_attempts (n : ℕ)
    (hretry : ∀ i < n, isFinal expectedErrors (outcomes i) = false) :
    WaitsOnlyToRetry ((attempts expectedErrors outcomes n).filter Event.isStep ++ [.called]) := by
  induction n with
  | zero =>
    intro before round after heq
    match before with
    | [] => cases heq
    | e :: before => simp [attempts] at heq
  | succ n ih =>
    have hbefore : ∀ i < n, isFinal expectedErrors (outcomes i) = false :=
      fun i hi => hretry i (by omega)
    rw [attempts, List.filter_append, steps_of_retry (hretry n (by omega))]
    simpa using (ih hbefore).append n

/-- The waits of attempts whose outcomes are not final. -/
theorem countP_isWait_attempts (n : ℕ)
    (hretry : ∀ i < n, isFinal expectedErrors (outcomes i) = false) :
    ((attempts expectedErrors outcomes n).filter Event.isStep).countP Event.isWait = n := by
  induction n with
  | zero => rfl
  | succ n ih =>
    have hbefore : ∀ i < n, isFinal expectedErrors (outcomes i) = false :=
      fun i hi => hretry i (by omega)
    rw [attempts, List.filter_append, List.countP_append, ih hbefore,
      steps_of_retry (hretry n (by omega))]
    rfl

/-- The steps of a run that meets a final outcome. -/
theorem steps_of_firstFinal {k : ℕ} (hfirst : FirstFinal expectedErrors outcomes k)
    (hk : (k : ℤ) < maxRetries) :
    (retryRun outcomes maxRetries expectedErrors).2.steps =
      (attempts expectedErrors outcomes k).filter Event.isStep ++ [.called] := by
  rw [retryRun_of_firstFinal hfirst hk, attempts, Journal.steps_extend, List.filter_append,
    steps_of_final hfirst.1]
  rfl

/-- A run that uses up its attempts ends with a wait. -/
theorem steps_of_none_final {n : ℕ} (hmax : maxRetries.toNat = n + 1)
    (hnone : ∀ k : ℕ, (k : ℤ) < maxRetries → isFinal expectedErrors (outcomes k) = false) :
    (retryRun outcomes maxRetries expectedErrors).2.steps =
      (attempts expectedErrors outcomes n).filter Event.isStep ++ [.called, .waited n] := by
  rw [retryRun_of_none_final hnone, hmax, attempts, Journal.steps_extend, List.filter_append,
    steps_of_retry (hnone n (by omega))]
  rfl

/-- **The waits.**  Every wait is followed by another call, and the waits are one fewer
than the calls, exactly if the bound allows no call or one of the outcomes it allows is
final: a run that uses up its attempts also waits after the last of them. -/
theorem retry_waits_iff (outcomes : ℕ → Except Throwable α) (maxRetries : ℤ)
    (expectedErrors : List JavaClass) :
    (WaitsOnlyToRetry (retryRun outcomes maxRetries expectedErrors).2.steps ∧
      (0 < (retryRun outcomes maxRetries expectedErrors).2.calls →
        (retryRun outcomes maxRetries expectedErrors).2.waits + 1 =
          (retryRun outcomes maxRetries expectedErrors).2.calls)) ↔
    maxRetries ≤ 0 ∨
      ∃ k : ℕ, (k : ℤ) < maxRetries ∧ isFinal expectedErrors (outcomes k) = true := by
  rcases exists_firstFinal_or outcomes maxRetries expectedErrors with ⟨k, hk, hfirst⟩ | hnone
  · refine iff_of_true ⟨?_, ?_⟩ (.inr ⟨k, hk, hfirst.1⟩)
    · rw [steps_of_firstFinal hfirst hk]
      exact waitsOnlyToRetry_attempts k hfirst.2
    · intro _
      rw [calls_of_firstFinal hfirst hk, Journal.waits_eq_countP_steps,
        steps_of_firstFinal hfirst hk, List.countP_append, countP_isWait_attempts k hfirst.2]
      rfl
  · rcases Nat.eq_zero_or_eq_succ_pred maxRetries.toNat with hzero | hmax
    · have hrun := retryRun_of_none_final hnone
      rw [hzero] at hrun
      refine iff_of_true ⟨?_, ?_⟩ (.inl (by omega))
      · rw [hrun]
        intro before round after heq
        simp [attempts, Journal.steps] at heq
      · intro hpos
        rw [calls_of_none_final hnone, hzero] at hpos
        exact absurd hpos (Nat.lt_irrefl 0)
    · apply iff_of_false
      · intro hlaw
        obtain ⟨hwaits, -⟩ := hlaw
        have hlast := hwaits (List.filter Event.isStep _ ++ [.called]) _ []
          (by simpa using steps_of_none_final hmax hnone)
        obtain ⟨rest, hrest⟩ := hlast
        cases hrest
      · intro hsome
        rcases hsome with hle | ⟨k, hk, hfinal⟩
        · omega
        · rw [hnone k hk] at hfinal
          cases hfinal

/-- One attempt, which fails: the run waits, and no call follows. -/
theorem retry_waits_after_last_attempt :
    let fails : ℕ → Except Throwable Unit := fun _ => .error (.plain .ioException none)
    (retryRun fails 1 []).2.steps = [.called, .waited 0] ∧
      ¬ WaitsOnlyToRetry (retryRun fails 1 []).2.steps := by
  intro fails
  have hsteps : (retryRun fails 1 []).2.steps = [.called, .waited 0] := by decide
  refine ⟨hsteps, ?_⟩
  intro h
  obtain ⟨rest, hrest⟩ := h [.called] 0 [] hsteps
  cases hrest

/-! ## The expected errors and their subclasses -/

/-- The throwable or its direct cause is an instance of one of the classes. -/
def Matches (H : ClassHierarchy) (classes : List JavaClass) (t : Throwable) : Prop :=
  H.IsInstance classes t ∨ ∃ cause, t.getCause = some cause ∧ H.IsInstance classes cause

/-- Once an error matches, the run makes no further call, and throws. -/
def FailsFast (H : ClassHierarchy) (expectedErrors : List JavaClass)
    (outcomes : ℕ → Except Throwable α) (run : Exit Throwable α × Journal) : Prop :=
  ∀ i t, i < run.2.calls → outcomes i = .error t → Matches H expectedErrors t →
    run.2.calls = i + 1 ∧ ∃ e, run.1 = .thrown e

/-- A call is made only after outcomes that are not final. -/
theorem not_final_of_called {i : ℕ}
    (hcalled : i < (retryRun outcomes maxRetries expectedErrors).2.calls) :
    (i : ℤ) < maxRetries ∧ ∀ j < i, isFinal expectedErrors (outcomes j) = false := by
  rcases exists_firstFinal_or outcomes maxRetries expectedErrors with ⟨k, hk, hfirst⟩ | hnone
  · rw [calls_of_firstFinal hfirst hk] at hcalled
    exact ⟨by omega, fun j hj => hfirst.2 j (by omega)⟩
  · rw [calls_of_none_final hnone] at hcalled
    exact ⟨by omega, fun j hj => hnone j (by omega)⟩

/-- After outcomes that are not final the next call is made, if the bound allows it. -/
theorem called_of_not_final {i : ℕ} (hi : (i : ℤ) < maxRetries)
    (hretry : ∀ j < i, isFinal expectedErrors (outcomes j) = false) :
    i < (retryRun outcomes maxRetries expectedErrors).2.calls := by
  rcases exists_firstFinal_or outcomes maxRetries expectedErrors with ⟨k, hk, hfirst⟩ | hnone
  · rw [calls_of_firstFinal hfirst hk]
    by_contra hlt
    have hnot := hretry k (by omega)
    rw [hfirst.1] at hnot
    cases hnot
  · rw [calls_of_none_final hnone]
    omega

/-- **Failing fast.**  The run stops at every error that matches an expected class
exactly if no error that matches by a subclass alone meets an attempt which is not the
last one the bound allows: the handler compares classes for equality. -/
theorem retry_failsFast_iff (H : ClassHierarchy) (outcomes : ℕ → Except Throwable α)
    (maxRetries : ℤ) (expectedErrors : List JavaClass) :
    FailsFast H expectedErrors outcomes (retryRun outcomes maxRetries expectedErrors) ↔
      ∀ (i : ℕ) t, (i : ℤ) + 1 < maxRetries →
        (∀ j ≤ i, isFinal expectedErrors (outcomes j) = false) → outcomes i = .error t →
        ¬ Matches H expectedErrors t := by
  constructor
  · intro hfast i t hi hretry ho hmatch
    have hcalled : i + 1 < (retryRun outcomes maxRetries expectedErrors).2.calls :=
      called_of_not_final (by omega) (fun j hj => hretry j (by omega))
    have hstop := (hfast i t (by omega) ho hmatch).1
    omega
  · intro hexact i t hcalled ho hmatch
    obtain ⟨hi, hbefore⟩ := not_final_of_called hcalled
    by_cases hfinal : isFinal expectedErrors (outcomes i) = true
    · have hfirst : FirstFinal expectedErrors outcomes i := ⟨hfinal, hbefore⟩
      refine ⟨calls_of_firstFinal hfirst hi, Retry.rethrown t, ?_⟩
      rw [retryRun_of_firstFinal hfirst hi, ho]
      rfl
    · have hretry : ∀ j ≤ i, isFinal expectedErrors (outcomes j) = false := by
        intro j hj
        rcases Nat.lt_or_eq_of_le hj with hlt | rfl
        · exact hbefore j hlt
        · simpa using hfinal
      -- the error was not recognised, so it must have met the last attempt
      have hlast : ¬ (i : ℤ) + 1 < maxRetries := fun hlt => hexact i t hlt hretry ho hmatch
      have hnone : ∀ k : ℕ, (k : ℤ) < maxRetries → isFinal expectedErrors (outcomes k) = false :=
        fun k hk => hretry k (by omega)
      refine ⟨?_, Retry.exhausted, ?_⟩
      · rw [calls_of_none_final hnone]
        omega
      · rw [retryRun_of_none_final hnone]

/-- An error of a subclass of the expected class, twice: the function is called again. -/
theorem retry_repeats_subclass_error :
    let mappingException : JavaClass :=
      ⟨"com.fasterxml.jackson.databind.JsonMappingException", true⟩
    let H : ClassHierarchy :=
      ⟨fun c => if c = mappingException then some .jsonProcessingException else none⟩
    let fails : ℕ → Except Throwable Unit := fun _ => .error (.plain mappingException none)
    (retryRun fails 2 [.jsonProcessingException]).2.calls = 2 ∧
      ¬ FailsFast H [.jsonProcessingException] fails
        (retryRun fails 2 [.jsonProcessingException]) := by
  intro mappingException H fails
  have hcalls : (retryRun fails 2 [.jsonProcessingException]).2.calls = 2 := by decide
  have hmatch : Matches H [.jsonProcessingException] (.plain mappingException none) :=
    .inl ⟨.jsonProcessingException, by simp, .single (by decide)⟩
  refine ⟨hcalls, ?_⟩
  intro hfast
  have hstop := (hfast 0 _ (by omega) rfl hmatch).1
  omega

end GradleLocalstack.Analysis
