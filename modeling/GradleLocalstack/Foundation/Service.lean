import GradleLocalstack.Foundation.Prog

/-!
# Calls to a service that may fail

A service is a function from a request and a store to an answer (or a refusal) and a
new store.  A client reaches it through `call`, under a schedule of failures: the
`n`-th call of the run meets the failure `sched n`, if there is one.  A failing call
throws the failure's exception; it may have taken effect before (`tookEffect`) or not.

The world of a client holds the service's store, the trace of the calls made so far,
oldest first and each with the store it left, and what the client printed.  The number
of the next call is the length of the trace.
-/

set_option autoImplicit false

namespace Foundation

/-- A failure of one call: the exception the client gets, and whether the service did
the call's work all the same. -/
structure Fault (ε : Type) where
  error : ε
  tookEffect : Bool
  deriving DecidableEq, Repr

/-- Which calls of a run fail, by the number of the call. -/
abbrev Schedule (ε : Type) : Type := ℕ → Option (Fault ε)

namespace Schedule

variable {ε : Type}

/-- The schedule without failures. -/
def clear : Schedule ε := fun _ => none

/-- A failing call never takes effect. -/
def NoEffect (sched : Schedule ε) : Prop := ∀ n f, sched n = some f → f.tookEffect = false

/-- Every failure of the schedule throws an exception that satisfies `P`. -/
def Throws (sched : Schedule ε) (P : ε → Prop) : Prop := ∀ n f, sched n = some f → P f.error

/-- `e` is the exception of some failure of the schedule. -/
def Injects (sched : Schedule ε) (e : ε) : Prop := ∃ n f, sched n = some f ∧ f.error = e

/-- What every failure of the schedule throws, an error it injects is. -/
theorem Throws.of_injects {sched : Schedule ε} {P : ε → Prop} (h : sched.Throws P) {e : ε}
    (he : sched.Injects e) : P e := by
  obtain ⟨n, f, hf, rfl⟩ := he
  exact h n f hf

/-- The clear schedule throws nothing. -/
theorem throws_clear (P : ε → Prop) : Throws (clear : Schedule ε) P := by
  intro n f h
  cases h

/-- The schedule whose only failure strikes at call number `n`. -/
def only (n : ℕ) (f : Fault ε) : Schedule ε := fun k => if k = n then some f else none

/-- The only failure is the one given. -/
theorem eq_of_only {n k : ℕ} {f f' : Fault ε} (h : only n f k = some f') : f' = f := by
  unfold only at h
  split at h
  · exact (Option.some.inj h).symm
  · cases h

/-- The only failure has no effect if it is given without one. -/
theorem noEffect_only {n : ℕ} {f : Fault ε} (hf : f.tookEffect = false) :
    NoEffect (only n f) := by
  intro k f' h
  rw [eq_of_only h]
  exact hf

/-- What the only failure throws is what every failure throws. -/
theorem throws_only {n : ℕ} {f : Fault ε} {P : ε → Prop} (hf : P f.error) :
    Throws (only n f) P := by
  intro k f' h
  rw [eq_of_only h]
  exact hf

end Schedule

/-- A service: what each request does to the store and what it answers. -/
structure Service (σ κ ε : Type) (ρ : κ → Type) where
  exec : (c : κ) → σ → Except ε (ρ c) × σ

/-- One call of a run: the request, the failure it met, and the store it left. -/
structure CallRecord (σ κ ε : Type) where
  call : κ
  fault : Option (Fault ε)
  after : σ

/-- What a client does besides calling the service: it prints, and it pauses. -/
inductive Output where
  | line (text : String)
  | pause (round : ℕ)
  deriving DecidableEq, Repr

/-- A world with a console. -/
class Console (ω : Type) where
  emit : Output → ω → ω

/-- A larger world has the console of its first part. -/
instance {ω τ : Type} [Console ω] : Console (ω × τ) where
  emit o w := (Console.emit o w.1, w.2)

/-- The world of a client of one service. -/
structure World (σ κ ε : Type) where
  store : σ
  trace : List (CallRecord σ κ ε)
  console : List Output

namespace World

variable {σ κ ε : Type}

/-- The world of a client that has done nothing yet. -/
def start (s : σ) : World σ κ ε := ⟨s, [], []⟩

/-- The world after one more call. -/
def record (w : World σ κ ε) (c : κ) (fault : Option (Fault ε)) (after : σ) : World σ κ ε :=
  ⟨after, w.trace ++ [⟨c, fault, after⟩], w.console⟩

/-- What is printed goes to the console of the world. -/
instance : Console (World σ κ ε) where
  emit o w := { w with console := w.console ++ [o] }

/-- The calls of the run that met a failure. -/
def struck (w : World σ κ ε) : List (CallRecord σ κ ε) := w.trace.filter (·.fault.isSome)

/-- The calls of one kind that met a failure. -/
def struckBy (p : κ → Bool) (w : World σ κ ε) : List (CallRecord σ κ ε) :=
  w.struck.filter fun r => p r.call

/-- Between `w` and `w'` exactly one more failure struck, at the call `c`; it threw `e`. -/
def StruckAt (w w' : World σ κ ε) (c : κ) (e : ε) : Prop :=
  ∃ f, f.error = e ∧ w'.struck = w.struck ++ [⟨c, some f, w'.store⟩]

/-- What the calls of the run asked for, of those that `f` picks. -/
def requested {β : Type} (f : κ → Option β) (w : World σ κ ε) : List β :=
  w.trace.filterMap fun r => f r.call

/-- `P` holds of the store now and held of it after every call of the run. -/
def Always (P : σ → Prop) (w : World σ κ ε) : Prop := P w.store ∧ ∀ r ∈ w.trace, P r.after

/-- The store of the world at the start. -/
@[simp] theorem store_start (s : σ) : (start s : World σ κ ε).store = s := rfl

/-- No call has been made at the start. -/
@[simp] theorem trace_start (s : σ) : (start s : World σ κ ε).trace = [] := rfl

/-- The store after a call is the one recorded with it. -/
@[simp] theorem store_record (w : World σ κ ε) (c : κ) (fault : Option (Fault ε)) (s : σ) :
    (w.record c fault s).store = s := rfl

/-- A call is added to the trace, with its failure and the store after it. -/
@[simp] theorem trace_record (w : World σ κ ε) (c : κ) (fault : Option (Fault ε)) (s : σ) :
    (w.record c fault s).trace = w.trace ++ [⟨c, fault, s⟩] := rfl

/-- Printing leaves the store. -/
@[simp] theorem store_emit (o : Output) (w : World σ κ ε) :
    (Console.emit o w).store = w.store := rfl

/-- Printing is not a call. -/
@[simp] theorem trace_emit (o : Output) (w : World σ κ ε) :
    (Console.emit o w).trace = w.trace := rfl

/-- What is printed comes last on the console. -/
@[simp] theorem console_emit (o : Output) (w : World σ κ ε) :
    (Console.emit o w).console = w.console ++ [o] := rfl

/-- A call adds its request, if it makes one of the kind, to those before. -/
@[simp] theorem requested_record {β : Type} (f : κ → Option β) (w : World σ κ ε) (c : κ)
    (fault : Option (Fault ε)) (s : σ) :
    (w.record c fault s).requested f = w.requested f ++ (f c).toList := by
  unfold requested
  rw [trace_record, List.filterMap_append]
  cases h : f c <;> simp [h]

/-- No failure has struck at the start. -/
@[simp] theorem struck_start (s : σ) : (start s : World σ κ ε).struck = [] := rfl

/-- Printing is not struck. -/
@[simp] theorem struck_emit (o : Output) (w : World σ κ ε) :
    (Console.emit o w).struck = w.struck := rfl

/-- A call that no failure struck adds none. -/
@[simp] theorem struck_record_none (w : World σ κ ε) (c : κ) (s : σ) :
    (w.record c none s).struck = w.struck := by
  simp [struck]

/-- A call that a failure struck is added to those before. -/
@[simp] theorem struck_record_some (w : World σ κ ε) (c : κ) (f : Fault ε) (s : σ) :
    (w.record c (some f) s).struck = w.struck ++ [⟨c, some f, s⟩] := by
  simp [struck]

/-- Any world in which the same failures have struck may stand at the start. -/
theorem StruckAt.of_struck_eq {w w₁ w' : World σ κ ε} {c : κ} {e : ε} (h : StruckAt w₁ w' c e)
    (hw : w₁.struck = w.struck) : StruckAt w w' c e := by
  obtain ⟨f, hf, hstruck⟩ := h
  exact ⟨f, hf, hw ▸ hstruck⟩

/-- The failure that struck is in the record. -/
theorem StruckAt.mem {w w' : World σ κ ε} {c : κ} {e : ε} (h : StruckAt w w' c e) :
    ∃ f, f.error = e ∧ ⟨c, some f, w'.store⟩ ∈ w'.struck := by
  obtain ⟨f, hf, hstruck⟩ := h
  refine ⟨f, hf, ?_⟩
  rw [hstruck]
  exact List.mem_append_right _ (List.mem_singleton_self _)

/-- Nothing was taken out of the record. -/
theorem StruckAt.struck_mono {w w' : World σ κ ε} {c : κ} {e : ε} (h : StruckAt w w' c e) :
    w.struck <+: w'.struck := by
  obtain ⟨f, -, hstruck⟩ := h
  rw [hstruck]
  exact List.prefix_append _ _

/-- No failure has struck at the start, at calls of whatever kind. -/
@[simp] theorem struckBy_start (p : κ → Bool) (s : σ) :
    struckBy p (start s : World σ κ ε) = [] := rfl

/-- Printing is not a call of any kind. -/
@[simp] theorem struckBy_emit (p : κ → Bool) (o : Output) (w : World σ κ ε) :
    (Console.emit o w).struckBy p = w.struckBy p := rfl

/-- The failures at calls of a kind are determined by all failures. -/
theorem struckBy_of_struck_eq {w w' : World σ κ ε} (h : w'.struck = w.struck) (p : κ → Bool) :
    w'.struckBy p = w.struckBy p := by
  unfold struckBy
  rw [h]

/-- A failure at a call of the kind is one more. -/
theorem StruckAt.struckBy_eq {w w' : World σ κ ε} {c : κ} {e : ε} (h : StruckAt w w' c e)
    {p : κ → Bool} (hp : p c = true) :
    ∃ f, f.error = e ∧ w'.struckBy p = w.struckBy p ++ [⟨c, some f, w'.store⟩] := by
  obtain ⟨f, hf, hstruck⟩ := h
  refine ⟨f, hf, ?_⟩
  unfold struckBy
  rw [hstruck, List.filter_append]
  simp [hp]

/-- A failure at a call of another kind is none of these. -/
theorem StruckAt.struckBy_other {w w' : World σ κ ε} {c : κ} {e : ε} (h : StruckAt w w' c e)
    {p : κ → Bool} (hp : p c = false) : w'.struckBy p = w.struckBy p := by
  obtain ⟨f, -, hstruck⟩ := h
  unfold struckBy
  rw [hstruck, List.filter_append]
  simp [hp]

/-- What holds of the store at the start has always held. -/
theorem always_start {P : σ → Prop} {s : σ} (h : P s) : Always P (start s : World σ κ ε) :=
  ⟨h, by simp⟩

/-- Printing leaves what has always held. -/
@[simp] theorem always_emit {P : σ → Prop} {w : World σ κ ε} (o : Output) :
    (Console.emit o w).Always P ↔ w.Always P := Iff.rfl

/-- What has always held and holds after one more call has still always held. -/
theorem Always.record {P : σ → Prop} {w : World σ κ ε} (h : Always P w) (c : κ)
    (fault : Option (Fault ε)) {s : σ} (hs : P s) : Always P (w.record c fault s) := by
  refine ⟨hs, ?_⟩
  intro r hr
  rcases List.mem_append.mp hr with hr | hr
  · exact h.2 r hr
  · rw [List.mem_singleton.mp hr]
    exact hs

end World

section Call

variable {σ κ ε : Type} {ρ : κ → Type}

/-- One call of the service under a schedule of failures. -/
def call (svc : Service σ κ ε ρ) (sched : Schedule ε) (c : κ) : Prog (World σ κ ε) ε (ρ c) :=
  fun w =>
    match sched w.trace.length with
    | some f =>
      (.thrown f.error,
        w.record c (some f) (if f.tookEffect then (svc.exec c w.store).2 else w.store))
    | none =>
      match svc.exec c w.store with
      | (.ok r, s) => (.returned r, w.record c none s)
      | (.error e, s) => (.thrown e, w.record c none s)

variable {svc : Service σ κ ε ρ} {sched : Schedule ε} {c : κ} {w : World σ κ ε}
  {Q : ρ c → World σ κ ε → Prop} {E : ε → World σ κ ε → Prop}

/-- **The rule for a call.**  It is enough to look at the three ways a call ends: the
failure strikes, the service answers, the service refuses. -/
theorem wp_call
    (hfault : ∀ f, sched w.trace.length = some f →
      E f.error (w.record c (some f) (if f.tookEffect then (svc.exec c w.store).2 else w.store)))
    (hok : ∀ r s, sched w.trace.length = none → svc.exec c w.store = (.ok r, s) →
      Q r (w.record c none s))
    (herr : ∀ e s, sched w.trace.length = none → svc.exec c w.store = (.error e, s) →
      E e (w.record c none s)) :
    (call svc sched c).wp Q E w := by
  unfold Prog.wp call
  cases hs : sched w.trace.length with
  | some f => exact hfault f hs
  | none =>
    rcases hx : svc.exec c w.store with ⟨e | r, s⟩
    · exact herr e s hs hx
    · exact hok r s hs hx

/-- **A call the service answers** returns that answer, unless a failure strikes; then the
store is what it was or what the call makes of it. -/
theorem wp_call_ok {r : ρ c} {s : σ} (hx : svc.exec c w.store = (.ok r, s)) :
    (call svc sched c).wp (fun r' w' => r' = r ∧ w' = w.record c none s)
      (fun e w' => w.StruckAt w' c e ∧ sched.Injects e ∧
        (w'.store = w.store ∨ w'.store = s)) w := by
  refine wp_call ?_ ?_ ?_
  · intro f hf
    rw [hx]
    refine ⟨⟨f, rfl, by simp⟩, ⟨_, f, hf, rfl⟩, ?_⟩
    cases f.tookEffect
    · exact .inl rfl
    · exact .inr rfl
  · intro r' s' _ hx'
    rw [hx] at hx'
    cases hx'
    exact ⟨rfl, rfl⟩
  · intro e s' _ hx'
    rw [hx] at hx'
    cases hx'

/-- **A call that only reads** leaves the store, whether a failure strikes or not. -/
theorem wp_call_read {r : ρ c} (hx : svc.exec c w.store = (.ok r, w.store)) :
    (call svc sched c).wp (fun r' w' => r' = r ∧ w' = w.record c none w.store)
      (fun e w' => w.StruckAt w' c e ∧ sched.Injects e ∧ w'.store = w.store) w := by
  refine Prog.wp_mono (wp_call_ok hx) (fun _ _ hq => hq) ?_
  intro e w' he
  obtain ⟨hat, hinjects, hstore⟩ := he
  rw [or_self] at hstore
  exact ⟨hat, hinjects, hstore⟩

/-- **A call the service answers** when no failure takes effect. -/
theorem wp_call_noEffect {r : ρ c} {s : σ} (hno : sched.NoEffect)
    (hx : svc.exec c w.store = (.ok r, s)) :
    (call svc sched c).wp (fun r' w' => r' = r ∧ w' = w.record c none s)
      (fun e w' => ∃ f, f.error = e ∧ sched.Injects e ∧ w' = w.record c (some f) w.store) w := by
  refine wp_call ?_ ?_ ?_
  · intro f hf
    refine ⟨f, rfl, ⟨_, f, hf, rfl⟩, ?_⟩
    rw [hno _ f hf, if_neg Bool.false_ne_true]
  · intro r' s' _ hx'
    rw [hx] at hx'
    cases hx'
    exact ⟨rfl, rfl⟩
  · intro e s' _ hx'
    rw [hx] at hx'
    cases hx'

/-- Without failures, a call the service answers returns that answer. -/
theorem wp_call_clear {r : ρ c} {s : σ} (hx : svc.exec c w.store = (.ok r, s)) :
    (call svc .clear c).wp (fun r' w' => r' = r ∧ w' = w.record c none s)
      (fun _ _ => False) w := by
  refine Prog.wp_mono (wp_call_ok hx) (fun _ _ hq => hq) ?_
  rintro e w' ⟨-, ⟨n, f, hf, -⟩, -⟩
  cases hf

/-- **A call the service refuses** without effect throws, and leaves the store. -/
theorem wp_call_refused {e : ε} (hx : svc.exec c w.store = (.error e, w.store)) :
    (call svc sched c).wp (fun _ _ => False)
      (fun e' w' => w'.store = w.store ∧
        (w.StruckAt w' c e' ∧ sched.Injects e' ∨ e' = e ∧ w'.struck = w.struck)) w := by
  refine wp_call ?_ ?_ ?_
  · intro f hf
    rw [hx]
    have hstore : (if f.tookEffect then w.store else w.store) = w.store := ite_self _
    rw [hstore]
    exact ⟨rfl, .inl ⟨⟨f, rfl, by simp⟩, _, f, hf, rfl⟩⟩
  · intro r' s' _ hx'
    rw [hx] at hx'
    cases hx'
  · intro e' s' _ hx'
    rw [hx] at hx'
    cases hx'
    exact ⟨rfl, .inr ⟨rfl, by simp⟩⟩

/-- Without failures, a call the service refuses throws what the service says. -/
theorem wp_call_clear_refused {e : ε} {s : σ} (hx : svc.exec c w.store = (.error e, s)) :
    (call svc .clear c).wp (fun _ _ => False) (fun e' w' => e' = e ∧ w' = w.record c none s)
      w := by
  refine wp_call ?_ ?_ ?_
  · intro f hf
    cases hf
  · intro r s' _ hx'
    rw [hx] at hx'
    cases hx'
  · intro e' s' _ hx'
    rw [hx] at hx'
    cases hx'
    exact ⟨rfl, rfl⟩

/-- A call keeps what holds after it, whether it took effect or not. -/
theorem wp_call_keeps {I : World σ κ ε → Prop}
    (hsame : ∀ fault, I (w.record c fault w.store))
    (hdone : ∀ fault, I (w.record c fault (svc.exec c w.store).2)) :
    (call svc sched c).wp (fun r w' => svc.exec c w.store = (.ok r, w'.store) ∧ I w')
      (fun _ w' => I w') w := by
  refine wp_call ?_ ?_ ?_
  · intro f _
    cases f.tookEffect
    · exact hsame (some f)
    · exact hdone (some f)
  · intro r s _ hx
    have hI := hdone none
    rw [hx] at hI
    exact ⟨hx, hI⟩
  · intro e s _ hx
    have hI := hdone none
    rw [hx] at hI
    exact hI

/-- A call keeps every property of the store that its effect keeps. -/
theorem wp_call_always {P : σ → Prop} (hP : P w.store → P (svc.exec c w.store).2)
    (h : w.Always P) :
    (call svc sched c).wp (fun r w' => svc.exec c w.store = (.ok r, w'.store) ∧ w'.Always P)
      (fun _ w' => w'.Always P) w :=
  wp_call_keeps (fun fault => h.record c fault h.1) (fun fault => h.record c fault (hP h.1))

end Call

/-- Print one line. -/
def log {ω ε : Type} [Console ω] (text : String) : Prog ω ε Unit :=
  Prog.update (Console.emit (.line text))

/-- The rule for printing a line. -/
@[simp] theorem wp_log {ω ε : Type} [Console ω] {Q : Unit → ω → Prop} {E : ε → ω → Prop} {w : ω}
    (text : String) :
    (log text : Prog ω ε Unit).wp Q E w ↔ Q () (Console.emit (.line text) w) := Iff.rfl

end Foundation
