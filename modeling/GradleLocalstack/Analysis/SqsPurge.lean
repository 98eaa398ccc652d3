import Mathlib.Data.List.TakeWhile
import GradleLocalstack.Analysis.RetryRule
import GradleLocalstack.Analysis.MessagingService

/-!
# Purging queues

`PurgeSqsQueuesTask.run` purges the listed queues one after the other and begins again when a
call fails.  Under any failures it does nothing but empty listed queues, and it reports success
only if it emptied them all; a queue that does not exist ends it at once, with the queues
listed before purged and the others as they were.
-/

set_option autoImplicit false

namespace GradleLocalstack.Analysis

open Foundation GradleLocalstack.Model GradleLocalstack.Program

/-- The store with the queues emptied, those of them that there are. -/
def emptied (names : List String) (s : MessagingStore) : MessagingStore :=
  { s with queues := fun c =>
      if c ∈ names then (s.queues c).map fun q => { q with messages := [] } else s.queues c }

/-- What a purge may leave: each queue as it was or, if it is listed, empty. -/
structure PurgingQueues (names : List String) (s s' : MessagingStore) : Prop where
  topics : s'.topics = s.topics
  queue : ∀ c, s'.queues c = s.queues c ∨
    c ∈ names ∧ s'.queues c = (emptied [c] s).queues c

section Emptied

variable {names : List String} {name : String} {s s' : MessagingStore} {addresses : Addresses}
  {q : Queue}

/-- Emptying no queue changes nothing. -/
@[simp] theorem emptied_nil : emptied [] s = s := by simp [emptied]

/-- An emptied queue keeps its attributes. -/
theorem queues_emptied_self : (emptied [name] s).queues name =
    (s.queues name).map fun q => { q with messages := [] } := by simp [emptied]

/-- Emptying makes and removes no queue. -/
theorem isSome_emptied (c : String) :
    ((emptied names s).queues c).isSome = (s.queues c).isSome := by
  unfold emptied
  dsimp only
  split
  · exact Option.isSome_map
  · rfl

/-- Purging a queue empties it. -/
theorem purgeQueue_of_some (h : s.queues name = some q) :
    Messaging.purgeQueue addresses (addresses.queueUrls.address name) s =
      (.ok (), emptied [name] s) := by
  unfold Messaging.purgeQueue
  rw [findQueue_of_some h]
  have hqueues : Function.update s.queues name (some { q with messages := [] }) =
      (emptied [name] s).queues := by
    funext c
    by_cases hc : c = name
    · subst hc
      rw [Function.update_self, queues_emptied_self, h]
      rfl
    · rw [Function.update_of_ne hc]
      simp [emptied, hc]
  dsimp only
  rw [hqueues]
  rfl

/-- Asking to purge a queue empties it if there is one. -/
theorem purgeQueue_store (addresses : Addresses) (name : String) (s : MessagingStore) :
    (Messaging.purgeQueue addresses (addresses.queueUrls.address name) s).2 =
      emptied [name] s := by
  cases h : s.queues name with
  | some q => rw [purgeQueue_of_some h]
  | none =>
    have hsame : emptied [name] s = s := by
      unfold emptied
      congr 1
      funext c
      by_cases hc : c = name
      · simp [hc, h]
      · simp [hc]
    simp [Messaging.purgeQueue, Messaging.findQueue, addresses.queueUrls.resolve_address, h, hsame]

/-- Emptying one more queue. -/
theorem emptied_emptied : emptied [name] (emptied names s) = emptied (names ++ [name]) s := by
  unfold emptied
  congr 1
  funext c
  by_cases hc : c = name
  · by_cases hn : c ∈ names
    · simp [hc, hc ▸ hn, Function.comp_def]
    · simp [hc, hc ▸ hn]
  · simp [hc]

/-- Nothing has been purged yet. -/
theorem PurgingQueues.refl : PurgingQueues names s s := ⟨rfl, fun _ => .inl rfl⟩

/-- Emptying a listed queue keeps to what a purge may leave. -/
theorem PurgingQueues.purge (h : PurgingQueues names s s') (hname : name ∈ names) :
    PurgingQueues names s (emptied [name] s') where
  topics := h.topics
  queue c := by
    by_cases hc : c = name
    · subst hc
      right
      refine ⟨hname, ?_⟩
      rw [queues_emptied_self, queues_emptied_self]
      rcases h.queue c with hsame | ⟨-, hempty⟩
      · rw [hsame]
      · rw [hempty, queues_emptied_self, Option.map_map]
        rfl
    · have hother : (emptied [name] s').queues c = s'.queues c := by simp [emptied, hc]
      rw [hother]
      exact h.queue c

end Emptied

/-! ## Under any failures -/

section Run

variable {client : MessagingClient} {names : List String} {name : String} {s : MessagingStore}
  {w : MessagingWorld}

/-- The queue was there, and is now empty. -/
def Emptied (s : MessagingStore) (name : String) (s' : MessagingStore) : Prop :=
  (s.queues name).isSome ∧ s'.queues name = (emptied [name] s).queues name

/-- A queue that has been emptied still is when another is purged, or the same again. -/
theorem Emptied.purge {c : String} {s' : MessagingStore} (h : Emptied s c s') :
    Emptied s c (emptied [name] s') := by
  refine ⟨h.1, ?_⟩
  by_cases hc : c = name
  · subst hc
    rw [queues_emptied_self, h.2, queues_emptied_self, Option.map_map]
    rfl
  · have hother : (emptied [name] s').queues c = s'.queues c := by simp [emptied, hc]
    rw [hother, h.2]

/-- A queue that was kept or emptied and is purged is empty. -/
theorem PurgingQueues.emptied_purge {s' : MessagingStore} (h : PurgingQueues names s s')
    (hsome : (s'.queues name).isSome) : Emptied s name (emptied [name] s') := by
  unfold Emptied
  rw [queues_emptied_self, queues_emptied_self]
  rcases h.queue name with hsame | ⟨-, hempty⟩
  · rw [hsame] at hsome ⊢
    exact ⟨hsome, rfl⟩
  · rw [hempty, isSome_emptied] at hsome
    rw [hempty, queues_emptied_self, Option.map_map]
    exact ⟨hsome, rfl⟩

/-- **One queue** of the list: when its turn is over it is empty. -/
theorem wp_purgeQueue (hname : name ∈ names) (h : PurgingQueues names s w.store) :
    (PurgeSqsQueuesTask.purgeQueue client name).wp
      (fun _ w' => PurgingQueues names s w'.store ∧ Emptied s name w'.store ∧
        ∀ c, Emptied s c w.store → Emptied s c w'.store)
      (fun _ w' => PurgingQueues names s w'.store) w := by
  have hread : ∀ s, ((Messaging.service client.addresses).exec (.getQueueUrl name) s).2 = s :=
    getQueueUrl_store client.addresses name
  unfold PurgeSqsQueuesTask.purgeQueue
  simp only [Prog.wp_bind, wp_log]
  refine Prog.wp_mono (wp_queueExists (w := Console.emit _ w)
    (I := fun w' : MessagingWorld => PurgingQueues names s w'.store) fun _ => h) ?_
    (fun _ _ he => he.1)
  rintro queueExists w₁ ⟨hw₁, hstore₁, hexists⟩
  cases queueExists with
  | false =>
    simp only [Bool.not_false, if_true, Prog.wp_bind, Prog.wp_throw]
    exact hw₁
  | true =>
    have hsome : (w₁.store.queues name).isSome := by
      rw [hstore₁]
      exact hexists rfl
    simp only [Bool.not_true, Bool.false_eq_true, if_false, Prog.wp_bind]
    have hurl : (client.getQueueUrl name).wp
        (fun url w' => url = client.addresses.queueUrls.address name ∧ w'.store = w₁.store)
        (fun _ w' => w'.store = w₁.store) w₁ := by
      refine Prog.wp_mono (wp_call_keeps (I := fun w' : MessagingWorld => w'.store = w₁.store)
        (fun _ => rfl) fun _ => hread w₁.store) ?_ (fun _ _ he => he)
      rintro url w₂ ⟨hx, hstore⟩
      obtain ⟨q, hq⟩ := Option.isSome_iff_exists.mp hsome
      have hanswer := @getQueueUrl_of_some client.addresses _ _ _ hq
      exact ⟨(Except.ok.inj (congrArg Prod.fst (hanswer.symm.trans hx))).symm, hstore⟩
    refine Prog.wp_mono hurl ?_ ?_
    · rintro url w₂ ⟨rfl, hstore₂⟩
      have heffect : ((Messaging.service client.addresses).exec
          (.purgeQueue (client.addresses.queueUrls.address name)) w₂.store).2 =
          emptied [name] w₂.store := purgeQueue_store client.addresses name w₂.store
      have hw₂ : PurgingQueues names s w₂.store := hstore₂ ▸ hw₁
      refine Prog.wp_mono (wp_call_keeps
        (I := fun w' : MessagingWorld => PurgingQueues names s w'.store) (fun _ => hw₂) ?_) ?_
        (fun _ _ he => he)
      · intro _
        rw [World.store_record, heffect]
        exact hw₂.purge hname
      · rintro _ w₃ ⟨hx, hw₃⟩
        have hstore₃ : w₃.store = emptied [name] w₂.store :=
          (congrArg Prod.snd hx).symm.trans heffect
        rw [wp_log]
        show PurgingQueues names s w₃.store ∧ Emptied s name w₃.store ∧
          ∀ c, Emptied s c w.store → Emptied s c w₃.store
        refine ⟨hw₃, ?_, ?_⟩
        · rw [hstore₃]
          exact hw₂.emptied_purge (hstore₂ ▸ hsome)
        · intro c hc
          rw [hstore₃, hstore₂, hstore₁]
          exact hc.purge
    · intro _ w₂ hstore₂
      rw [hstore₂]
      exact hw₁

/-- **The run.**  It only empties listed queues; when it returns, they all exist and are
empty. -/
theorem wp_purgeQueues_run (client : MessagingClient) (names : List String)
    (s : MessagingStore) :
    (PurgeSqsQueuesTask.run client ⟨some names⟩).wp
      (fun _ w' => PurgingQueues names s w'.store ∧ ∀ c ∈ names, Emptied s c w'.store)
      (fun _ w' => PurgingQueues names s w'.store) (World.start s) := by
  refine wp_execute_keeps (fun w : MessagingWorld => PurgingQueues names s w.store) _
    (fun _ _ h => h) ?_ _ .refl
  intro w hw
  cases names with
  | nil => exact ⟨hw, by simp⟩
  | cons name names =>
    exact Prog.wp_forEach_establishes
      (fun w : MessagingWorld => PurgingQueues (name :: names) s w.store)
      (fun c w => Emptied s c w.store) (name :: names) (fun c hc w hw => wp_purgeQueue hc hw) w hw

/-- **What a purge does, whatever fails.**  It ends; each queue is as it was or, if it is
listed, has lost its messages; and a purge that reports success has emptied every listed queue,
each of which existed.
SRC: aws/sqs/PurgeSqsQueuesTask.java:43-72 -/
theorem purge_empties_listed (client : MessagingClient) (names : List String)
    (s : MessagingStore) :
    let result := PurgeSqsQueuesTask.run client ⟨some names⟩ (World.start s)
    result.1 ≠ .diverged ∧ PurgingQueues names s result.2.store ∧
      (result.1 = .returned () → result.2.store = emptied names s ∧
        ∀ c ∈ names, (s.queues c).isSome) := by
  have hrun := wp_purgeQueues_run client names s
  have hends : (PurgeSqsQueuesTask.run client ⟨some names⟩).wp
      (fun _ w' => PurgingQueues names s w'.store) (fun _ w' => PurgingQueues names s w'.store)
      (World.start s) := Prog.wp_conseq hrun fun _ _ hq => hq.1
  obtain ⟨hended, hpurging⟩ := Prog.wp_ended hends
  refine ⟨hended, hpurging, ?_⟩
  intro hreturned
  have hempty := (Prog.wp_returned hrun (Prod.ext hreturned rfl)).2
  refine ⟨?_, fun c hc => (hempty c hc).1⟩
  have hqueues : (PurgeSqsQueuesTask.run client ⟨some names⟩ (World.start s)).2.store.queues =
      (emptied names s).queues := by
    funext c
    by_cases hc : c ∈ names
    · rw [(hempty c hc).2]
      simp [emptied, hc]
    · rcases hpurging.queue c with hsame | ⟨hmem, -⟩
      · rw [hsame]
        simp [emptied, hc]
      · exact absurd hmem hc
  exact congrArg₂ MessagingStore.mk hqueues hpurging.topics

end Run

/-! ## Without failures -/

section Clear

variable {addresses : Addresses} {name : String} {s : MessagingStore} {w : MessagingWorld}

/-- What the task throws about a queue that does not exist. -/
def missingQueue (name : String) : Throwable :=
  .plain .illegalArgumentException (some s!"Queue does not exist: {name}")

/-- A queue that exists is emptied. -/
theorem wp_purgeQueue_clear (h : (w.store.queues name).isSome) :
    (PurgeSqsQueuesTask.purgeQueue ⟨addresses, .clear⟩ name).wp
      (fun _ w' => w'.store = emptied [name] w.store) (fun _ _ => False) w := by
  obtain ⟨q, hq⟩ := Option.isSome_iff_exists.mp h
  have hpurge : (Messaging.service addresses).exec
      (.purgeQueue (addresses.queueUrls.address name)) w.store =
      (.ok (), emptied [name] w.store) := purgeQueue_of_some hq
  have hurl : (Messaging.service addresses).exec (.getQueueUrl name) w.store =
      (.ok (addresses.queueUrls.address name), w.store) := getQueueUrl_of_some hq
  unfold PurgeSqsQueuesTask.purgeQueue
  simp only [Prog.wp_bind, wp_log]
  refine Prog.wp_mono (@wp_queueExists_clear _ _ ⟨addresses, .clear⟩ (Console.emit _ w) hq) ?_
    (fun _ _ he => he)
  rintro _ w₁ ⟨rfl, rfl⟩
  simp only [Bool.not_true, Bool.false_eq_true, if_false, Prog.wp_bind]
  refine Prog.wp_mono (wp_call_clear hurl) ?_ (fun _ _ he => he)
  rintro _ w₂ ⟨rfl, rfl⟩
  refine Prog.wp_mono (wp_call_clear hpurge) ?_ (fun _ _ he => he)
  rintro _ w₃ ⟨-, rfl⟩
  rfl

/-- A queue that does not exist ends the loop. -/
theorem wp_purgeQueue_missing (h : w.store.queues name = none) :
    (PurgeSqsQueuesTask.purgeQueue ⟨addresses, .clear⟩ name).wp (fun _ _ => False)
      (fun e w' => e = missingQueue name ∧ w'.store = w.store) w := by
  unfold PurgeSqsQueuesTask.purgeQueue
  simp only [Prog.wp_bind, wp_log]
  refine Prog.wp_mono (@wp_queueExists_clear_none addresses _ (Console.emit _ w) h) ?_
    (fun _ _ he => he.elim)
  rintro _ w₁ ⟨rfl, rfl⟩
  exact ⟨rfl, rfl⟩

/-- The listed queues up to the first that does not exist. -/
def presentNames (s : MessagingStore) (names : List String) : List String :=
  names.takeWhile fun c => (s.queues c).isSome

/-- The first listed queue that does not exist. -/
def firstMissing (s : MessagingStore) (names : List String) : Option String :=
  names.find? fun c => (s.queues c).isNone

/-- **The loop**, with the queues of `done` emptied: it goes on to the first queue that does not
exist. -/
theorem wp_purgeLoop_clear (done names : List String) (hw : w.store = emptied done s) :
    (Prog.forEach (PurgeSqsQueuesTask.purgeQueue ⟨addresses, .clear⟩) names).wp
      (fun _ w' => firstMissing s names = none ∧
        w'.store = emptied (done ++ presentNames s names) s)
      (fun e w' => ∃ name, firstMissing s names = some name ∧ e = missingQueue name ∧
        w'.store = emptied (done ++ presentNames s names) s) w := by
  induction names generalizing done w with
  | nil => simpa [Prog.forEach, firstMissing, presentNames] using hw
  | cons name names ih =>
    rw [Prog.forEach, Prog.wp_bind]
    cases hname : s.queues name with
    | some q =>
      have hsome : (w.store.queues name).isSome := by
        rw [hw, isSome_emptied, hname]
        rfl
      have hpresent : presentNames s (name :: names) = name :: presentNames s names := by
        simp [presentNames, hname]
      have hmissing : firstMissing s (name :: names) = firstMissing s names := by
        simp [firstMissing, hname]
      refine Prog.wp_mono (wp_purgeQueue_clear hsome) ?_ (fun _ _ he => he.elim)
      intro _ w₁ hw₁
      rw [hw, emptied_emptied] at hw₁
      rw [hpresent, hmissing]
      simpa using ih (done ++ [name]) hw₁
    | none =>
      have hnone : w.store.queues name = none := by
        rw [← Option.isNone_iff_eq_none, ← Option.not_isSome, hw, isSome_emptied, hname]
        rfl
      refine Prog.wp_mono (wp_purgeQueue_missing hnone) (fun _ _ hq => hq.elim) ?_
      rintro e w₁ ⟨rfl, hstore⟩
      refine ⟨name, ?_, rfl, ?_⟩
      · simp [firstMissing, hname]
      · rw [hstore, hw]
        simp [presentNames, hname]

/-- **Without failures a purge runs up to the first listed queue that does not exist.**  The
queues listed before it are emptied, everything else stays as it was, and the task throws for
the missing one.
SRC: aws/sqs/PurgeSqsQueuesTask.java:43-72 -/
theorem purge_ends_at_first_missing (addresses : Addresses) (names : List String)
    (s : MessagingStore) :
    let result := PurgeSqsQueuesTask.run ⟨addresses, .clear⟩ ⟨some names⟩ (World.start s)
    result.2.store = emptied (presentNames s names) s ∧
      result.1 = (firstMissing s names).elim (.returned ()) fun name =>
        .thrown (Retry.rethrown (missingQueue name)) := by
  have hrun : (PurgeSqsQueuesTask.run ⟨addresses, .clear⟩ ⟨some names⟩).wp
      (fun _ w' => firstMissing s names = none ∧ w'.store = emptied (presentNames s names) s)
      (fun e w' => ∃ name, firstMissing s names = some name ∧
        e = Retry.rethrown (missingQueue name) ∧ w'.store = emptied (presentNames s names) s)
      (World.start s) := by
    refine wp_execute (fun k w => k = 0 ∧ w.store = s) _ (fun _ _ _ h => h) ?_ ?_ _ ⟨rfl, rfl⟩
    · rintro k w - ⟨-, hw⟩
      refine Prog.wp_mono
        (Q := fun _ w' => firstMissing s names = none ∧
          w'.store = emptied (presentNames s names) s)
        (E := fun e w' => ∃ name, firstMissing s names = some name ∧ e = missingQueue name ∧
          w'.store = emptied (presentNames s names) s) ?_ (fun _ _ hq => hq) ?_
      · cases names with
        | nil => simpa [firstMissing, presentNames] using hw
        | cons name names =>
          have hstart : w.store = emptied [] s := by rw [hw, emptied_nil]
          simpa using @wp_purgeLoop_clear addresses s w [] (name :: names) hstart
      · rintro e w' ⟨name, hmissing, rfl, hstore⟩
        have hexpected : Retry.isExpected [.illegalArgumentException] (missingQueue name) = true :=
          rfl
        unfold AfterError
        rw [if_pos hexpected]
        exact ⟨name, hmissing, rfl, hstore⟩
    · rintro w ⟨hzero, -⟩
      cases hzero
  unfold Prog.wp at hrun
  rcases hresult : PurgeSqsQueuesTask.run ⟨addresses, .clear⟩ ⟨some names⟩ (World.start s) with
    ⟨_ | e | _, w'⟩ <;> rw [hresult] at hrun
  · obtain ⟨hmissing, hstore⟩ := hrun
    rw [hmissing]
    exact ⟨hstore, rfl⟩
  · obtain ⟨name, hmissing, rfl, hstore⟩ := hrun
    rw [hmissing]
    exact ⟨hstore, rfl⟩
  · exact hrun.elim

end Clear

end GradleLocalstack.Analysis
