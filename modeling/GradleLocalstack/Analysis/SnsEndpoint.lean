import GradleLocalstack.Program.SnsTasks
import GradleLocalstack.Analysis.MessagingService
import GradleLocalstack.Analysis.RetryRule

/-!
# A topic with a queue endpoint

`CreateSnsTopicWithSqsEndpointTask` runs three blocks.  The first hands on the URL of the
endpoint queue if it is the attempt that creates the queue and nothing fails after that;
an attempt that finds the queue hands on `null`, and the last block then fails ten times.
So the run succeeds exactly when the queue did not exist and every failing call of the
first block left it so.
-/

set_option autoImplicit false

namespace GradleLocalstack.Analysis

open Foundation GradleLocalstack.Model GradleLocalstack.Program

/-- The calls of the first block. -/
def isEndpointCall : MessagingCall → Bool
  | .getQueueUrl _ | .createQueue _ => true
  | _ => false

/-- The call of the second block. -/
def isTopicCall : MessagingCall → Bool
  | .createTopic _ => true
  | _ => false

/-- The call of the third block. -/
def isSubscribeCall : MessagingCall → Bool
  | .subscribeQueue _ _ => true
  | _ => false

/-- The queue did not exist at the start, and no failing call of the first block has left
it existing. -/
def AbsentWhenStruck (name : String) (s : MessagingStore) (w : MessagingWorld) : Prop :=
  s.queues name = none ∧ ∀ r ∈ w.struckBy isEndpointCall, r.after.queues name = none

section Blocks

variable {client : MessagingClient} {task : CreateSnsTopicWithSqsEndpointTask}
  {name : String} {s : MessagingStore} {w w' : MessagingWorld} {c : MessagingCall}
  {t : Throwable}

/-- Only the failing calls of the first block count. -/
theorem AbsentWhenStruck.of_struckBy_eq
    (h : w'.struckBy isEndpointCall = w.struckBy isEndpointCall) :
    AbsentWhenStruck name s w' ↔ AbsentWhenStruck name s w := by
  unfold AbsentWhenStruck
  rw [h]

/-- One more failing call of the first block must leave the queue absent. -/
theorem AbsentWhenStruck.of_struckAt (h : w.StruckAt w' c t) (hc : isEndpointCall c = true) :
    AbsentWhenStruck name s w' ↔
      AbsentWhenStruck name s w ∧ w'.store.queues name = none := by
  obtain ⟨f, -, hstruck⟩ := h.struckBy_eq hc
  unfold AbsentWhenStruck
  rw [hstruck]
  constructor
  · rintro ⟨hs, hall⟩
    refine ⟨⟨hs, fun r hr => hall r (List.mem_append_left _ hr)⟩, ?_⟩
    exact hall _ (List.mem_append_right _ (List.mem_singleton_self _))
  · rintro ⟨⟨hs, hall⟩, hnone⟩
    refine ⟨hs, ?_⟩
    intro r hr
    cases List.mem_append.mp hr with
    | inl hr => exact hall r hr
    | inr hr =>
      rw [List.mem_singleton.mp hr]
      exact hnone

/-- How an attempt of the first block finds the world: the queue is there exactly if it
was there before the run or a failing call has left it there. -/
def EndpointState (name : String) (s : MessagingStore) (w : MessagingWorld) : Prop :=
  w.store.queues name = none ↔ AbsentWhenStruck name s w

/-- What the first block has handed on: the URL of the queue, or `null` if the queue was
found. -/
structure Handed (client : MessagingClient) (name : String) (s : MessagingStore)
    (url : Option String) (w : MessagingWorld) : Prop where
  present : (w.store.queues name).isSome
  url_eq : AbsentWhenStruck name s w ∧ url = some (client.addresses.queueUrls.address name) ∨
    ¬ AbsentWhenStruck name s w ∧ url = none

/-- The calls of the later blocks do not touch it. -/
theorem Handed.of_eq {url : Option String} (h : Handed client name s url w)
    (hqueues : w'.store.queues = w.store.queues)
    (hstruck : w'.struckBy isEndpointCall = w.struckBy isEndpointCall) :
    Handed client name s url w' := by
  obtain ⟨hpresent, hurl⟩ := h
  rw [← hqueues] at hpresent
  rw [← AbsentWhenStruck.of_struckBy_eq hstruck] at hurl
  exact ⟨hpresent, hurl⟩

/-- `queueExists` tells whether the queue exists, unless a failure strikes. -/
theorem wp_queueExists_transient
    (htransient : client.sched.Throws fun t => t.getClass ≠ Messaging.queueDoesNotExistClass) :
    (SqsTaskUtil.queueExists client name).wp
      (fun r w' => r = (w.store.queues name).isSome ∧ w'.store = w.store ∧
        w'.struck = w.struck)
      (fun t w' => w'.store = w.store ∧ w.StruckAt w' (.getQueueUrl name) t) w := by
  unfold SqsTaskUtil.queueExists
  rw [Prog.wp_tryCatch, Prog.wp_bind]
  have hrethrow : ∀ t (w' : MessagingWorld), client.sched.Injects t → w'.store = w.store →
      w.StruckAt w' (.getQueueUrl name) t →
      (if t.getClass = Messaging.queueDoesNotExistClass then pure false else throw t :
        Prog MessagingWorld Throwable Bool).wp
        (fun r w' => r = (w.store.queues name).isSome ∧ w'.store = w.store ∧
          w'.struck = w.struck)
        (fun t w' => w'.store = w.store ∧ w.StruckAt w' (.getQueueUrl name) t) w' := by
    intro t w' hinjects hstore hat
    have hclass : t.getClass ≠ Messaging.queueDoesNotExistClass := htransient.of_injects hinjects
    rw [if_neg hclass]
    exact ⟨hstore, hat⟩
  cases hq : w.store.queues name with
  | some q =>
    have hx : (Messaging.service client.addresses).exec (.getQueueUrl name) w.store =
        (.ok (client.addresses.queueUrls.address name), w.store) :=
      getQueueUrl_of_some hq
    refine Prog.wp_mono (wp_call_read hx) ?_ ?_
    · rintro _ w₁ ⟨-, rfl⟩
      exact ⟨rfl, rfl, World.struck_record_none ..⟩
    · rintro t w₁ ⟨hat, hinjects, hstore⟩
      rw [hq] at hrethrow
      exact hrethrow t w₁ hinjects hstore hat
  | none =>
    have hx : (Messaging.service client.addresses).exec (.getQueueUrl name) w.store =
        (.error Messaging.queueDoesNotExist, w.store) :=
      getQueueUrl_of_none hq
    refine Prog.wp_mono (wp_call_refused hx) (fun _ _ h => h.elim) ?_
    rintro t w₁ ⟨hstore, ⟨hat, hinjects⟩ | ⟨rfl, hstruck⟩⟩
    · rw [hq] at hrethrow
      exact hrethrow t w₁ hinjects hstore hat
    · exact ⟨rfl, hstore, hstruck⟩

/-- **One attempt of the first block.**  It answers with the URL of the queue if it has
created it, and with `null` if it has found it. -/
theorem wp_createEndpoint
    (htransient : client.sched.Throws fun t => t.getClass ≠ Messaging.queueDoesNotExistClass)
    (h : EndpointState (task.getQueueName) s w) :
    (task.createEndpoint client).wp
      (fun url w' => Handed client task.getQueueName s url w')
      (fun t w' => EndpointState task.getQueueName s w' ∧
        ∃ c, isEndpointCall c = true ∧ w.StruckAt w' c t) w := by
  unfold CreateSnsTopicWithSqsEndpointTask.createEndpoint
  generalize task.getQueueName = name at h ⊢
  simp only [Prog.wp_bind]
  refine Prog.wp_mono (wp_queueExists_transient htransient) ?_ ?_
  · rintro _ w₁ ⟨rfl, hstore₁, hstruck₁⟩
    have habsent₁ : AbsentWhenStruck name s w₁ ↔ AbsentWhenStruck name s w :=
      AbsentWhenStruck.of_struckBy_eq (World.struckBy_of_struck_eq hstruck₁ _)
    cases hq : w.store.queues name with
    | some q =>
      -- the queue is there: `null` is handed on
      have hnot : ¬ AbsentWhenStruck name s w := by
        intro hw
        have hnone := h.mpr hw
        rw [hq] at hnone
        cases hnone
      refine ⟨?_, .inr ⟨fun hw => hnot (habsent₁.mp hw), rfl⟩⟩
      show (w₁.store.queues name).isSome
      rw [hstore₁, hq]
      rfl
    | none =>
      have habsent : AbsentWhenStruck name s w := h.mp hq
      have hq₁ : w₁.store.queues name = none := by rw [hstore₁, hq]
      have hcreate : (Messaging.service client.addresses).exec (.createQueue ⟨name, .empty⟩)
          w₁.store = (.ok (client.addresses.queueUrls.address name),
            ⟨Function.update w₁.store.queues name (some ⟨.empty, []⟩), w₁.store.topics⟩) :=
        createQueue_of_none hq₁
      simp only [Option.isSome_none, Bool.false_eq_true, if_false, Prog.wp_bind, wp_log,
        SqsTaskUtil.createQueue, createQueueRequest_eq, Option.getD_some]
      refine Prog.wp_mono (wp_call_ok (w := Console.emit _ w₁) hcreate) ?_ ?_
      · rintro _ w₂ ⟨-, rfl⟩
        have hq₂ : (Function.update w₁.store.queues name (some ⟨.empty, []⟩)) name =
            some ⟨.empty, []⟩ := Function.update_self ..
        have hurl : (Messaging.service client.addresses).exec (.getQueueUrl name)
            ⟨Function.update w₁.store.queues name (some ⟨.empty, []⟩), w₁.store.topics⟩ =
            (.ok (client.addresses.queueUrls.address name),
              ⟨Function.update w₁.store.queues name (some ⟨.empty, []⟩), w₁.store.topics⟩) :=
          getQueueUrl_of_some hq₂
        refine Prog.wp_mono (wp_call_read (w := Console.emit _ (World.record _ _ _ _)) hurl)
          ?_ ?_
        · rintro url w₃ ⟨rfl, rfl⟩
          refine ⟨?_, .inl ⟨?_, rfl⟩⟩
          · show (Function.update w₁.store.queues name (some ⟨.empty, []⟩) name).isSome
            rw [hq₂]
            rfl
          · apply (AbsentWhenStruck.of_struckBy_eq (World.struckBy_of_struck_eq ?_ _)).mpr habsent
            simpa using hstruck₁
        · -- the queue is there now, and a failure has struck
          rintro t w₃ ⟨hat, -, hstore₃⟩
          have hq₃ : w₃.store.queues name = some ⟨.empty, []⟩ := by
            rw [hstore₃]
            exact hq₂
          have hat' : w.StruckAt w₃ (.getQueueUrl name) t :=
            hat.of_struck_eq (by simpa using hstruck₁)
          refine ⟨?_, _, rfl, hat'⟩
          unfold EndpointState
          rw [AbsentWhenStruck.of_struckAt hat' rfl, hq₃]
          simp
      · rintro t w₂ ⟨hat, -, hstore₂⟩
        have hat' : w.StruckAt w₂ (.createQueue ⟨name, .empty⟩) t := hat.of_struck_eq hstruck₁
        refine ⟨?_, _, rfl, hat'⟩
        unfold EndpointState
        rw [AbsentWhenStruck.of_struckAt hat' rfl]
        simp [habsent]
  · rintro t w₁ ⟨hstore₁, hat⟩
    refine ⟨?_, _, rfl, hat⟩
    unfold EndpointState at h ⊢
    rw [AbsentWhenStruck.of_struckAt hat rfl, hstore₁, ← h]
    simp

/-- **The first block.** -/
theorem wp_endpointBlock
    (htransient : client.sched.Throws fun t => t.getClass ≠ Messaging.queueDoesNotExistClass) :
    (Retry.executeDefault (task.createEndpoint client)).wp
      (fun url w' => Handed client task.getQueueName s url w')
      (fun _ w' => 10 ≤ (w'.struckBy isEndpointCall).length) (World.start s) := by
  apply wp_executeDefault_struck (EndpointState task.getQueueName s) isEndpointCall
  · intro o w h
    exact h
  · intro w h
    exact wp_createEndpoint htransient h
  · unfold EndpointState AbsentWhenStruck
    simp

/-- **The second block.** -/
theorem wp_topicBlock {url : Option String} (h : Handed client name s url w) :
    (Retry.executeDefault (task.createTopic client)).wp
      (fun topicArn w' => topicArn = client.addresses.topicArns.address task.topicName ∧
        Handed client name s url w' ∧ (w'.store.topics task.topicName).isSome)
      (fun _ w' => 10 ≤ (w'.struckBy isTopicCall).length) w := by
  refine wp_executeDefault_struck (Handed client name s url) isTopicCall
    (fun _ _ h => ⟨h.present, h.url_eq⟩) ?_ w h
  intro w₀ h₀
  obtain ⟨topic, heq⟩ := createTopic_eq client.addresses task.topicName w₀.store
  have hx : (Messaging.service client.addresses).exec (.createTopic task.topicName) w₀.store =
      (.ok (client.addresses.topicArns.address task.topicName),
        ⟨w₀.store.queues, Function.update w₀.store.topics task.topicName (some topic)⟩) :=
    heq
  unfold CreateSnsTopicWithSqsEndpointTask.createTopic
  simp only [Prog.wp_bind, wp_log, Prog.wp_pure]
  refine Prog.wp_mono (wp_call_ok (w := Console.emit _ w₀) hx) ?_ ?_
  · rintro _ w₁ ⟨rfl, rfl⟩
    refine ⟨rfl, h₀.of_eq rfl ?_, ?_⟩
    · apply World.struckBy_of_struck_eq
      simp
    · show (Function.update w₀.store.topics task.topicName (some topic) task.topicName).isSome
      rw [Function.update_self]
      rfl
  · rintro t w₁ ⟨hat, -, hstore⟩
    have hat₀ : w₀.StruckAt w₁ (.createTopic task.topicName) t := hat
    refine ⟨h₀.of_eq ?_ (hat₀.struckBy_other rfl), _, rfl, hat₀⟩
    cases hstore with
    | inl hstore => rw [hstore, World.store_emit]
    | inr hstore => rw [hstore]

/-- The queue and the topic exist, and the queue is subscribed to the topic. -/
def Subscribed (client : MessagingClient) (task : CreateSnsTopicWithSqsEndpointTask)
    (s : MessagingStore) : Prop :=
  (s.queues task.getQueueName).isSome ∧ ∃ topic, s.topics task.topicName = some topic ∧
    client.addresses.queueArns.address task.getQueueName ∈ topic.endpoints

/-- **The third block**, with the URL of the queue. -/
theorem wp_subscribeBlock {url : String}
    (h : Handed client task.getQueueName s (some url) w)
    (htopic : (w.store.topics task.topicName).isSome) :
    (Retry.executeDefault (CreateSnsTopicWithSqsEndpointTask.subscribe client
      (client.addresses.topicArns.address task.topicName) (some url))).wp
      (fun _ w' => AbsentWhenStruck task.getQueueName s w' ∧ Subscribed client task w'.store)
      (fun _ w' => 10 ≤ (w'.struckBy isSubscribeCall).length) w := by
  refine wp_executeDefault_struck (fun w => Handed client task.getQueueName s (some url) w ∧
    (w.store.topics task.topicName).isSome) isSubscribeCall
    (fun _ _ h => ⟨⟨h.1.present, h.1.url_eq⟩, h.2⟩) ?_ w ⟨h, htopic⟩
  rintro w₀ ⟨h₀, htopic₀⟩
  obtain ⟨q, hq⟩ := Option.isSome_iff_exists.mp h₀.present
  obtain ⟨topic, ht⟩ := Option.isSome_iff_exists.mp htopic₀
  obtain ⟨habsent, hurl⟩ : AbsentWhenStruck task.getQueueName s w₀ ∧
      url = client.addresses.queueUrls.address task.getQueueName := by
    rcases h₀.url_eq with ⟨habsent, hurl⟩ | ⟨-, hurl⟩
    · exact ⟨habsent, Option.some.inj hurl⟩
    · cases hurl
  obtain ⟨r, topic', heq, hmem⟩ := subscribeQueue_of_some client.addresses hq ht
  have hx : (Messaging.service client.addresses).exec
      (.subscribeQueue (client.addresses.topicArns.address task.topicName) (some url)) w₀.store =
      (.ok r, ⟨w₀.store.queues,
        Function.update w₀.store.topics task.topicName (some topic')⟩) := by
    rw [hurl]
    exact heq
  have htopic' : (Function.update w₀.store.topics task.topicName (some topic')) task.topicName =
      some topic' := Function.update_self ..
  unfold CreateSnsTopicWithSqsEndpointTask.subscribe
  simp only [Prog.wp_bind, wp_log]
  refine Prog.wp_mono (wp_call_ok hx) ?_ ?_
  · rintro _ w₁ ⟨rfl, rfl⟩
    refine ⟨?_, h₀.present, topic', htopic', hmem⟩
    apply (AbsentWhenStruck.of_struckBy_eq (World.struckBy_of_struck_eq ?_ _)).mpr habsent
    simp
  · rintro t w₁ ⟨hat, -, hstore⟩
    refine ⟨⟨h₀.of_eq ?_ (hat.struckBy_other rfl), ?_⟩, _, rfl, hat⟩
    · cases hstore with
      | inl hstore => rw [hstore]
      | inr hstore => rw [hstore]
    · cases hstore with
      | inl hstore =>
        rw [hstore]
        exact htopic₀
      | inr hstore =>
        rw [hstore]
        show (Function.update w₀.store.topics task.topicName (some topic') task.topicName).isSome
        rw [htopic']
        rfl

/-- **The third block**, with `null`: every attempt is refused. -/
theorem wp_subscribeBlock_null {topicArn : String} (h : ¬ AbsentWhenStruck name s w) :
    (Retry.executeDefault (CreateSnsTopicWithSqsEndpointTask.subscribe client topicArn none)).wp
      (fun _ _ => False) (fun _ w' => ¬ AbsentWhenStruck name s w') w := by
  refine wp_execute_keeps (fun w => ¬ AbsentWhenStruck name s w) _ (fun _ _ h => h) ?_ w h
  intro w₀ h₀
  have hx : (Messaging.service client.addresses).exec (.subscribeQueue topicArn none) w₀.store =
      (.error Messaging.invalidAddress, w₀.store) :=
    subscribeQueue_null client.addresses topicArn w₀.store
  unfold CreateSnsTopicWithSqsEndpointTask.subscribe
  rw [Prog.wp_bind]
  refine Prog.wp_mono (wp_call_refused hx) (fun _ _ h => h.elim) ?_
  rintro t w₁ ⟨-, hstruck⟩
  have hsame : w₁.struckBy isEndpointCall = w₀.struckBy isEndpointCall := by
    rcases hstruck with ⟨hat, -⟩ | ⟨-, hstruck⟩
    · exact hat.struckBy_other rfl
    · exact World.struckBy_of_struck_eq hstruck _
  rwa [AbsentWhenStruck.of_struckBy_eq hsame]

/-- **The run.** -/
theorem wp_sns_run
    (htransient : client.sched.Throws fun t => t.getClass ≠ Messaging.queueDoesNotExistClass) :
    (task.run client).wp
      (fun _ w' => AbsentWhenStruck task.getQueueName s w' ∧ Subscribed client task w'.store)
      (fun _ w' => 10 ≤ (w'.struckBy isEndpointCall).length ∨
        10 ≤ (w'.struckBy isTopicCall).length ∨ 10 ≤ (w'.struckBy isSubscribeCall).length ∨
        ¬ AbsentWhenStruck task.getQueueName s w') (World.start s) := by
  unfold CreateSnsTopicWithSqsEndpointTask.run
  simp only [Prog.wp_bind]
  refine Prog.wp_mono (wp_endpointBlock htransient) ?_ (fun _ _ he => .inl he)
  intro url w₁ h₁
  refine Prog.wp_mono (wp_topicBlock h₁) ?_ (fun _ _ he => .inr (.inl he))
  rintro _ w₂ ⟨rfl, h₂, htopic⟩
  cases url with
  | some url =>
    exact Prog.wp_mono (wp_subscribeBlock h₂ htopic) (fun _ _ hq => hq)
      (fun _ _ he => .inr (.inr (.inl he)))
  | none =>
    have hlate : ¬ AbsentWhenStruck task.getQueueName s w₂ := by
      rcases h₂.url_eq with ⟨-, hurl⟩ | ⟨hlate, -⟩
      · cases hurl
      · exact hlate
    exact Prog.wp_mono (wp_subscribeBlock_null hlate) (fun _ _ hq => hq.elim)
      (fun _ _ he => .inr (.inr (.inr he)))

end Blocks

/-- **When a topic with a queue endpoint is set up**: with fewer than ten failures in each
block, exactly when the queue did not exist and every failing call of the first block left
it so.
SRC: aws/sns/CreateSnsTopicWithSqsEndpointTask.java:44-89, core/Retry.java:72-93 -/
theorem sns_endpoint_subscribed_iff (client : MessagingClient)
    (task : CreateSnsTopicWithSqsEndpointTask) (s : MessagingStore)
    (htransient : client.sched.Throws fun t => t.getClass ≠ Messaging.queueDoesNotExistClass)
    (out : Exit Throwable Unit × MessagingWorld) (hrun : task.run client (World.start s) = out)
    (hendpoint : (out.2.struckBy isEndpointCall).length < 10)
    (htopic : (out.2.struckBy isTopicCall).length < 10)
    (hsubscribe : (out.2.struckBy isSubscribeCall).length < 10) :
    (out.1 = .returned () ∧ Subscribed client task out.2.store) ↔
      AbsentWhenStruck task.getQueueName s out.2 := by
  have hwp := @wp_sns_run client task s htransient
  obtain ⟨exit, w'⟩ := out
  cases exit with
  | returned u =>
    obtain ⟨habsent, hsubscribed⟩ := Prog.wp_returned hwp hrun
    exact ⟨fun _ => habsent, fun _ => ⟨rfl, hsubscribed⟩⟩
  | thrown t =>
    have hlate : ¬ AbsentWhenStruck task.getQueueName s w' := by
      have hthrown := Prog.wp_thrown hwp hrun
      dsimp only at hendpoint htopic hsubscribe
      rcases hthrown with h | h | h | h
      · omega
      · omega
      · omega
      · exact h
    constructor
    · rintro ⟨h, -⟩
      cases h
    · intro h
      exact absurd h hlate
  | diverged => exact absurd hrun (Prog.wp_not_diverged hwp)

/-- A failed `createTopic` that took effect costs an attempt, and nothing else. -/
theorem sns_endpoint_survives_failed_createTopic :
    Subscribed ⟨sampleAddresses, .only 3 { unavailable with tookEffect := true }⟩ ⟨"events", none⟩
      (CreateSnsTopicWithSqsEndpointTask.run
        ⟨sampleAddresses, .only 3 { unavailable with tookEffect := true }⟩ ⟨"events", none⟩
        (World.start twoQueues)).2.store := by
  refine ((sns_endpoint_subscribed_iff _ ⟨"events", none⟩ twoQueues
    (Schedule.throws_only (by decide)) _ rfl (by decide) (by decide) (by decide)).mpr ?_).2
  unfold AbsentWhenStruck
  decide

/-- A run on an environment in which the endpoint queue exists fails, without any failure
of a call. -/
theorem sns_endpoint_fails_on_existing_queue :
    ¬ ∀ (client : MessagingClient) (task : CreateSnsTopicWithSqsEndpointTask)
      (s : MessagingStore),
      (client.sched.Throws fun t => t.getClass ≠ Messaging.queueDoesNotExistClass) →
      ((task.run client (World.start s)).2.struckBy isEndpointCall).length < 10 →
      ((task.run client (World.start s)).2.struckBy isTopicCall).length < 10 →
      ((task.run client (World.start s)).2.struckBy isSubscribeCall).length < 10 →
      (task.run client (World.start s)).1 = .returned () ∧
        Subscribed client task (task.run client (World.start s)).2.store := by
  intro h
  obtain ⟨hreturned, -⟩ := h ⟨sampleAddresses, .clear⟩ ⟨"events", some "orders"⟩ twoQueues
    (Schedule.throws_clear _) (by decide) (by decide) (by decide)
  exact absurd hreturned (by decide)

end GradleLocalstack.Analysis
