import GradleLocalstack.Foundation.Creation
import GradleLocalstack.Program.S3Tasks
import GradleLocalstack.Analysis.RetryRule
import GradleLocalstack.Analysis.MessagingService

/-!
# Creating buckets and queues

`CreateS3BucketsTask` and `CreateSqsQueuesTask` look whether a name is taken before they
create under it.  Between any two calls of any attempt the store lies between the one the
run started on and that one with the listed names added, also when a creation took effect
and reported a failure; and a run that returns leaves nothing to do for the next.
-/

set_option autoImplicit false

namespace GradleLocalstack.Analysis

open Foundation GradleLocalstack.Model GradleLocalstack.Program

/-! ## Buckets -/

section Buckets

variable {amazonS3 : AmazonS3} {buckets : List String} {name : String} {s : S3Store}
  {w : S3World}

/-- The listed buckets that did not exist may have been created. -/
abbrev BucketsGrown (buckets : List String) : S3Store → S3Store → Prop :=
  GrownIn id (fun _ => ()) buckets Bucket.empty

/-- **One bucket** of the list: when its turn is over it exists. -/
theorem wp_createBucket (hname : name ∈ buckets) (h : w.Always (BucketsGrown buckets s)) :
    (CreateS3BucketsTask.createBucket amazonS3 name).wp
      (fun _ w' => w'.Always (BucketsGrown buckets s) ∧ (w'.store name).isSome ∧
        ∀ c, (w.store c).isSome → (w'.store c).isSome)
      (fun _ w' => w'.Always (BucketsGrown buckets s)) w := by
  unfold CreateS3BucketsTask.createBucket
  rw [Prog.wp_bind]
  apply Prog.wp_conseq (wp_call_always (fun hP => hP) h)
  rintro bucketExists w₁ ⟨hx, hw₁⟩
  have hexists : bucketExists = (w.store name).isSome :=
    (Except.ok.inj (congrArg Prod.fst hx)).symm
  have hstore : w₁.store = w.store := (congrArg Prod.snd hx).symm
  cases hb : w.store name with
  | some b =>
    rw [hexists, hb]
    refine ⟨hw₁, ?_, ?_⟩
    · show (w₁.store name).isSome
      rw [hstore, hb]
      rfl
    · intro c hc
      show (w₁.store c).isSome
      rwa [hstore]
  | none =>
    rw [hexists, hb]
    simp only [Option.isSome_none, Bool.not_false, if_true, Prog.wp_bind, wp_log]
    have hnone : w₁.store name = none := by rw [hstore, hb]
    have hcreate : (S3.service amazonS3.pageSize).exec (.createBucket name) w₁.store =
        (.ok (), Function.update w₁.store name (some .empty)) := by
      simp [S3.service, hnone]
    have hgrow : BucketsGrown buckets s w₁.store → BucketsGrown buckets s
        ((S3.service amazonS3.pageSize).exec (.createBucket name) w₁.store).2 := by
      intro hP
      rw [hcreate]
      exact ⟨hP.grown.update hname hnone, rfl⟩
    apply Prog.wp_conseq (wp_call_always (w := Console.emit _ w₁) hgrow hw₁)
    rintro _ w₂ ⟨hx₂, hw₂⟩
    have hstore₂ : w₂.store = Function.update w₁.store name (some .empty) := by
      rw [World.store_emit, hcreate] at hx₂
      exact (congrArg Prod.snd hx₂).symm
    refine ⟨hw₂, ?_, ?_⟩
    · show (w₂.store name).isSome
      rw [hstore₂, Function.update_self]
      rfl
    · intro c hc
      show (w₂.store c).isSome
      rw [hstore₂]
      by_cases heq : c = name
      · rw [heq, Function.update_self]
        rfl
      · rwa [Function.update_of_ne heq, hstore]

/-- **All buckets**: a run that returns has them all. -/
theorem wp_createBuckets_run (amazonS3 : AmazonS3) (buckets : List String) (s : S3Store) :
    (CreateS3BucketsTask.run amazonS3 ⟨some buckets⟩).wp
      (fun _ w => w.Always (BucketsGrown buckets s) ∧ ∀ c ∈ buckets, (w.store c).isSome)
      (fun _ w => w.Always (BucketsGrown buckets s)) (World.start s) := by
  refine wp_execute_keeps (fun w : S3World => w.Always (BucketsGrown buckets s)) _
    (fun _ _ h => h) ?_ _ (World.always_start (GrownIn.refl id _ buckets _ s))
  intro w hw
  apply Prog.wp_forEach_establishes (fun w' : S3World => w'.Always (BucketsGrown buckets s))
    (fun c w' => (w'.store c).isSome) buckets
  · intro name hname w' hw'
    exact wp_createBucket hname hw'
  · exact hw

/-- Without failures, nothing is done for a bucket that exists. -/
theorem wp_createBucket_again (hsome : (s name).isSome) (h : w.Always (· = s)) :
    (CreateS3BucketsTask.createBucket { amazonS3 with sched := .clear } name).wp
      (fun _ w' => w'.Always (· = s)) (fun _ _ => False) w := by
  unfold CreateS3BucketsTask.createBucket
  rw [Prog.wp_bind]
  have hx : (S3.service amazonS3.pageSize).exec (.doesBucketExistV2 name) w.store =
      (.ok true, w.store) := by
    simp [S3.service, h.1, hsome]
  apply Prog.wp_conseq (wp_call_clear hx)
  rintro _ w' ⟨rfl, rfl⟩
  exact h.record _ _ h.1

/-- Without failures, a run changes nothing if the listed buckets exist. -/
theorem wp_createBuckets_rerun (amazonS3 : AmazonS3) (hsome : ∀ c ∈ buckets, (s c).isSome) :
    (CreateS3BucketsTask.run { amazonS3 with sched := .clear } ⟨some buckets⟩).wp
      (fun _ w => w.Always (· = s)) (fun _ _ => False) (World.start s) := by
  apply wp_execute_first defaultMaxRetries_pos
  apply Prog.wp_forEach_keeps (fun w : S3World => w.Always (· = s))
  · intro name hname w hw
    exact wp_createBucket_again (hsome name hname) hw
  · exact World.always_start rfl

end Buckets

/-! ## Queues -/

section Queues

variable {amazonSQS : MessagingClient} {queueNames : List String}
  {queueAttributes : Option AttributeMap} {name : String} {s : MessagingStore}
  {w : MessagingWorld}

/-- The listed queues that did not exist may have been created, with the configured
attributes and without messages. -/
abbrev QueuesGrown (queueNames : List String) (queueAttributes : Option AttributeMap) :
    MessagingStore → MessagingStore → Prop :=
  GrownIn MessagingStore.queues MessagingStore.topics queueNames
    ⟨queueAttributes.getD .empty, []⟩

/-- Creating a listed queue keeps to what may have been created, whether it was there or
not. -/
theorem queuesGrown_createQueue (hname : name ∈ queueNames) {s₁ : MessagingStore}
    (h : QueuesGrown queueNames queueAttributes s s₁) :
    QueuesGrown queueNames queueAttributes s (Messaging.createQueue amazonSQS.addresses
      ⟨name, queueAttributes.getD .empty⟩ s₁).2 := by
  cases hq : s₁.queues name with
  | some q => rwa [createQueue_store_of_some hq]
  | none =>
    rw [createQueue_of_none hq]
    exact ⟨h.grown.update hname hq, h.frame_eq⟩

/-- **One queue** of the list: when its turn is over it exists. -/
theorem wp_createQueue (hname : name ∈ queueNames)
    (h : w.Always (QueuesGrown queueNames queueAttributes s)) :
    (CreateSqsQueuesTask.createQueue amazonSQS queueNames queueAttributes name).wp
      (fun _ w' => w'.Always (QueuesGrown queueNames queueAttributes s) ∧
        (w'.store.queues name).isSome ∧
        ∀ c, (w.store.queues c).isSome → (w'.store.queues c).isSome)
      (fun _ w' => w'.Always (QueuesGrown queueNames queueAttributes s)) w := by
  unfold CreateSqsQueuesTask.createQueue
  simp only [Prog.wp_bind, wp_log, createQueueRequest_eq]
  refine Prog.wp_mono (wp_queueExists (w := Console.emit _ w) fun fault =>
    h.record (.getQueueUrl name) fault h.1) ?_ (fun _ _ he => he.1)
  intro queueExists w₁ hpost₁
  obtain ⟨hw₁, hstore, hexists⟩ := hpost₁
  rw [World.store_emit] at hstore hexists
  cases queueExists with
  | true =>
    refine ⟨hw₁, ?_, ?_⟩
    · show (w₁.store.queues name).isSome
      rw [hstore]
      exact hexists rfl
    · intro c hc
      show (w₁.store.queues c).isSome
      rwa [hstore]
  | false =>
    -- also when a failure hid a queue that exists: creating it changes nothing then
    simp only [Bool.false_eq_true, if_false, Prog.wp_bind, wp_log]
    apply Prog.wp_conseq (wp_call_always (queuesGrown_createQueue hname) hw₁)
    intro url w₂ hpost₂
    obtain ⟨hx, hw₂⟩ := hpost₂
    refine ⟨hw₂, ?_, ?_⟩
    · obtain ⟨q, hq, -⟩ := createQueue_answered hx
      show (w₂.store.queues name).isSome
      rw [hq]
      rfl
    · intro c hc
      rw [← hstore] at hc
      obtain ⟨q, hq⟩ := Option.isSome_iff_exists.mp hc
      have hstore₂ : _ = w₂.store := congrArg Prod.snd hx
      have hkept : w₂.store.queues c = some q := by
        rw [← hstore₂]
        exact createQueue_keeps hq
      show (w₂.store.queues c).isSome
      rw [hkept]
      rfl

/-- **All queues**: a run that returns has them all. -/
theorem wp_createQueues_run (amazonSQS : MessagingClient) (queueNames : List String)
    (queueAttributes : Option AttributeMap) (s : MessagingStore) :
    (CreateSqsQueuesTask.run amazonSQS ⟨some queueNames, queueAttributes⟩).wp
      (fun _ w => w.Always (QueuesGrown queueNames queueAttributes s) ∧
        ∀ c ∈ queueNames, (w.store.queues c).isSome)
      (fun _ w => w.Always (QueuesGrown queueNames queueAttributes s)) (World.start s) := by
  refine wp_execute_keeps (fun w : MessagingWorld => w.Always (QueuesGrown queueNames
    queueAttributes s)) _ (fun _ _ h => h) ?_ _ (World.always_start (GrownIn.refl _ _ _ _ s))
  intro w hw
  apply Prog.wp_forEach_establishes
    (fun w' : MessagingWorld => w'.Always (QueuesGrown queueNames queueAttributes s))
    (fun c w' => (w'.store.queues c).isSome) queueNames
  · intro name hname w' hw'
    exact wp_createQueue hname hw'
  · exact hw

/-- Without failures, nothing is done for a queue that exists. -/
theorem wp_createQueue_again (hsome : (s.queues name).isSome) (h : w.Always (· = s)) :
    (CreateSqsQueuesTask.createQueue { amazonSQS with sched := .clear } queueNames
      queueAttributes name).wp (fun _ w' => w'.Always (· = s)) (fun _ _ => False) w := by
  obtain ⟨q, hq⟩ := Option.isSome_iff_exists.mp hsome
  have hqueue : (Console.emit (.line s!"Creating SQS queue: {name}") w).store.queues name =
      some q := by rw [World.store_emit, h.1, hq]
  unfold CreateSqsQueuesTask.createQueue
  simp only [Prog.wp_bind, wp_log]
  apply Prog.wp_conseq (wp_queueExists_clear hqueue)
  rintro _ w' ⟨rfl, rfl⟩
  exact h.record _ _ h.1

/-- Without failures, a run changes nothing if the listed queues exist. -/
theorem wp_createQueues_rerun (amazonSQS : MessagingClient) (queueAttributes : Option AttributeMap)
    (hsome : ∀ c ∈ queueNames, (s.queues c).isSome) :
    (CreateSqsQueuesTask.run { amazonSQS with sched := .clear }
      ⟨some queueNames, queueAttributes⟩).wp
        (fun _ w => w.Always (· = s)) (fun _ _ => False) (World.start s) := by
  apply wp_execute_first defaultMaxRetries_pos
  apply Prog.wp_forEach_keeps (fun w : MessagingWorld => w.Always (· = s))
  · intro name hname w hw
    exact wp_createQueue_again (hsome name hname) hw
  · exact World.always_start rfl

end Queues

/-- **Creation is idempotent**, under retry and from run to run, for the buckets and for
the queues.
SRC: aws/s3/CreateS3BucketsTask.java:35-56, aws/sqs/CreateSqsQueuesTask.java:42-70 -/
theorem creation_idempotent (amazonS3 : AmazonS3) (buckets : List String) (s : S3Store)
    (amazonSQS : MessagingClient) (queueNames : List String)
    (queueAttributes : Option AttributeMap) (s' : MessagingStore) :
    IdempotentCreation
      (fun sched => CreateS3BucketsTask.run { amazonS3 with sched := sched } ⟨some buckets⟩)
      id (fun _ => ()) buckets Bucket.empty amazonS3.sched s ∧
    IdempotentCreation
      (fun sched => CreateSqsQueuesTask.run { amazonSQS with sched := sched }
        ⟨some queueNames, queueAttributes⟩)
      MessagingStore.queues MessagingStore.topics queueNames ⟨queueAttributes.getD .empty, []⟩
      amazonSQS.sched s' := by
  constructor
  · apply IdempotentCreation.of_wp
    · exact wp_createBuckets_run amazonS3 buckets s
    · intro s₁ hsome
      exact wp_createBuckets_rerun amazonS3 hsome
  · apply IdempotentCreation.of_wp
    · exact wp_createQueues_run amazonSQS queueNames queueAttributes s'
    · intro s₁ hsome
      exact wp_createQueues_rerun amazonSQS queueAttributes hsome

end GradleLocalstack.Analysis
