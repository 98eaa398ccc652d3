import GradleLocalstack.Program.SnsTasks

/-!
# What the SQS and SNS calls do

One equation for each call and each case of the store it meets, so that no later proof
unfolds the service, and the rule of `queueExists`, with which every creation starts.
-/

set_option autoImplicit false

namespace GradleLocalstack.Analysis

open Foundation GradleLocalstack.Model GradleLocalstack.Program

variable {addresses : Addresses} {s : MessagingStore} {name : String} {q : Queue} {t : Topic}

/-- The URL of a queue that exists is answered. -/
theorem getQueueUrl_of_some (h : s.queues name = some q) :
    Messaging.getQueueUrl addresses name s = (.ok (addresses.queueUrls.address name), s) := by
  simp [Messaging.getQueueUrl, h]

/-- A queue that does not exist is reported. -/
theorem getQueueUrl_of_none (h : s.queues name = none) :
    Messaging.getQueueUrl addresses name s = (.error Messaging.queueDoesNotExist, s) := by
  simp [Messaging.getQueueUrl, h]

/-- Asking for a URL changes nothing. -/
theorem getQueueUrl_store (addresses : Addresses) (name : String) (s : MessagingStore) :
    (Messaging.getQueueUrl addresses name s).2 = s := by
  cases h : s.queues name with
  | none => rw [getQueueUrl_of_none h]
  | some q => rw [getQueueUrl_of_some h]

/-- A new queue is asked for with the configured attributes, and with none if there are
none. -/
theorem createQueueRequest_eq (name : String) (queueAttributes : Option AttributeMap) :
    SqsTaskUtil.createQueueRequest name queueAttributes =
      ⟨name, queueAttributes.getD .empty⟩ := by
  unfold SqsTaskUtil.createQueueRequest
  cases queueAttributes with
  | none => rfl
  | some attributes =>
    by_cases h : attributes.isEmpty = true
    · simp [AttributeMap.eq_empty_of_isEmpty h]
    · simp [h]

/-- A queue that does not exist is created with the attributes of the request. -/
theorem createQueue_of_none {attributes : AttributeMap} (h : s.queues name = none) :
    Messaging.createQueue addresses ⟨name, attributes⟩ s =
      (.ok (addresses.queueUrls.address name),
        { s with queues := Function.update s.queues name (some ⟨attributes, []⟩) }) := by
  simp [Messaging.createQueue, h]

/-- Creating a queue that exists changes nothing, whether it is refused or not. -/
theorem createQueue_store_of_some {attributes : AttributeMap} (h : s.queues name = some q) :
    (Messaging.createQueue addresses ⟨name, attributes⟩ s).2 = s := by
  unfold Messaging.createQueue
  simp only [h]
  split <;> rfl

/-- A queue whose creation was answered exists and has the attributes asked for. -/
theorem createQueue_answered {attributes : AttributeMap} {url : String} {s' : MessagingStore}
    (h : Messaging.createQueue addresses ⟨name, attributes⟩ s = (.ok url, s')) :
    ∃ q, s'.queues name = some q ∧ q.attributes.carries attributes = true := by
  cases hq : s.queues name with
  | some q =>
    unfold Messaging.createQueue at h
    rw [hq] at h
    dsimp only at h
    by_cases hcarries : q.attributes.carries attributes = true
    · rw [if_pos hcarries] at h
      cases h
      exact ⟨q, hq, hcarries⟩
    · rw [if_neg hcarries] at h
      cases congrArg Prod.fst h
  | none =>
    rw [createQueue_of_none hq] at h
    cases h
    exact ⟨⟨attributes, []⟩, Function.update_self .., AttributeMap.carries_self⟩

/-- Creating a queue keeps every queue that there is. -/
theorem createQueue_keeps {attributes : AttributeMap} {c : String} {q' : Queue}
    (h : s.queues c = some q') :
    (Messaging.createQueue addresses ⟨name, attributes⟩ s).2.queues c = some q' := by
  cases hq : s.queues name with
  | some q =>
    rw [createQueue_store_of_some hq]
    exact h
  | none =>
    have hne : c ≠ name := by
      intro heq
      rw [heq, hq] at h
      cases h
    rw [createQueue_of_none hq]
    exact (Function.update_of_ne hne ..).trans h

/-- A queue that exists still does when some queue has changed. -/
theorem isSome_update {c : String} (q : Queue) (hname : (s.queues name).isSome) :
    (Function.update s.queues c (some q) name).isSome := by
  by_cases heq : name = c
  · rw [heq, Function.update_self]
    rfl
  · rwa [Function.update_of_ne heq]

/-- The URL of a queue that exists leads to it. -/
theorem findQueue_of_some (h : s.queues name = some q) :
    Messaging.findQueue addresses s (some (addresses.queueUrls.address name)) =
      .ok (name, q) := by
  simp [Messaging.findQueue, addresses.queueUrls.resolve_address, h]

/-- A message to a queue that exists comes last in it. -/
theorem sendMessage_of_some {messageBody : String} (h : s.queues name = some q) :
    Messaging.sendMessage addresses (addresses.queueUrls.address name) messageBody s =
      (.ok (), { s with queues := Function.update s.queues name
                          (some { q with messages := q.messages ++ [messageBody] }) }) := by
  simp [Messaging.sendMessage, findQueue_of_some h]

/-- The attributes of a queue that exists are overwritten with those given. -/
theorem setQueueAttributes_of_some {attributes : AttributeMap} (h : s.queues name = some q) :
    Messaging.setQueueAttributes addresses (addresses.queueUrls.address name) attributes s =
      (.ok (), { s with queues := Function.update s.queues name
                          (some { q with attributes := q.attributes.putAll attributes }) }) := by
  simp [Messaging.setQueueAttributes, findQueue_of_some h]

/-- Setting attributes that a queue carries changes nothing. -/
theorem setQueueAttributes_carried {attributes : AttributeMap} (h : s.queues name = some q)
    (hcarries : q.attributes.carries attributes = true) :
    Messaging.setQueueAttributes addresses (addresses.queueUrls.address name) attributes s =
      (.ok (), s) := by
  rw [setQueueAttributes_of_some h, AttributeMap.putAll_eq_self hcarries, ← h,
    Function.update_eq_self]

/-- Creating a topic always succeeds, and leaves a topic of the name. -/
theorem createTopic_eq (addresses : Addresses) (name : String) (s : MessagingStore) :
    ∃ t, Messaging.createTopic addresses name s = (.ok (addresses.topicArns.address name),
      ⟨s.queues, Function.update s.topics name (some t)⟩) := by
  unfold Messaging.createTopic
  cases h : s.topics name with
  | none => exact ⟨⟨[]⟩, by simp⟩
  | some t =>
    refine ⟨t, ?_⟩
    have hsame : Function.update s.topics name (some t) = s.topics := by
      rw [← h, Function.update_eq_self]
    rw [hsame, Option.isSome_some, if_pos rfl]

/-- The ARN of a topic that exists leads to it. -/
theorem findTopic_of_some (h : s.topics name = some t) :
    Messaging.findTopic addresses s (addresses.topicArns.address name) = .ok (name, t) := by
  simp [Messaging.findTopic, addresses.topicArns.resolve_address, h]

/-- Subscribing a queue that exists to a topic that exists succeeds. -/
theorem subscribeQueue_of_some (addresses : Addresses) {topicName : String}
    (hq : s.queues name = some q) (ht : s.topics topicName = some t) :
    ∃ r t', Messaging.subscribeQueue addresses (addresses.topicArns.address topicName)
      (some (addresses.queueUrls.address name)) s =
        (.ok r, ⟨s.queues, Function.update s.topics topicName (some t')⟩) ∧
      addresses.queueArns.address name ∈ t'.endpoints := by
  unfold Messaging.subscribeQueue
  rw [findQueue_of_some hq, findTopic_of_some ht]
  refine ⟨_, _, rfl, ?_⟩
  dsimp only
  split
  · rename_i hmem
    simpa using hmem
  · simp

/-- Subscribing without the URL of a queue is refused. -/
theorem subscribeQueue_null (addresses : Addresses) (topicArn : String) (s : MessagingStore) :
    Messaging.subscribeQueue addresses topicArn none s = (.error Messaging.invalidAddress, s) :=
  rfl

section QueueExists

variable {amazonSQS : MessagingClient} {w : MessagingWorld}

/-- `queueExists` keeps what a call that only reads keeps, and answers `true` only for a
queue that exists. -/
theorem wp_queueExists {I : MessagingWorld → Prop}
    (hI : ∀ fault, I (w.record (.getQueueUrl name) fault w.store)) :
    (SqsTaskUtil.queueExists amazonSQS name).wp
      (fun r w' => I w' ∧ w'.store = w.store ∧ (r = true → (w.store.queues name).isSome))
      (fun _ w' => I w' ∧ w'.store = w.store) w := by
  have hread : ((Messaging.service amazonSQS.addresses).exec (.getQueueUrl name) w.store).2 =
      w.store := getQueueUrl_store amazonSQS.addresses name w.store
  unfold SqsTaskUtil.queueExists
  rw [Prog.wp_tryCatch, Prog.wp_bind]
  have hwp : (amazonSQS.getQueueUrl name).wp
      (fun r w' => (Messaging.service amazonSQS.addresses).exec (.getQueueUrl name) w.store =
        (.ok r, w'.store) ∧ I w' ∧ w'.store = w.store)
      (fun _ w' => I w' ∧ w'.store = w.store) w := by
    apply wp_call_keeps
    · intro fault
      exact ⟨hI fault, rfl⟩
    · intro fault
      rw [hread]
      exact ⟨hI fault, rfl⟩
  refine Prog.wp_mono hwp ?_ ?_
  · intro r w' hw'
    obtain ⟨hx, hw', hstore⟩ := hw'
    have hsome : (w.store.queues name).isSome := by
      by_contra hnot
      simp only [Messaging.service, Messaging.getQueueUrl, hnot] at hx
      cases congrArg Prod.fst hx
    exact ⟨hw', hstore, fun _ => hsome⟩
  · intro t w' hw'
    obtain ⟨hw', hstore⟩ := hw'
    by_cases hclass : t.getClass = Messaging.queueDoesNotExistClass
    · rw [if_pos hclass]
      exact ⟨hw', hstore, fun hfalse => by cases hfalse⟩
    · rw [if_neg hclass]
      exact ⟨hw', hstore⟩

/-- Without failures, a queue that exists is found. -/
theorem wp_queueExists_clear (hq : w.store.queues name = some q) :
    (SqsTaskUtil.queueExists { amazonSQS with sched := .clear } name).wp
      (fun r w' => r = true ∧ w' = w.record (.getQueueUrl name) none w.store)
      (fun _ _ => False) w := by
  have hx : (Messaging.service amazonSQS.addresses).exec (.getQueueUrl name) w.store =
      (.ok (amazonSQS.addresses.queueUrls.address name), w.store) := getQueueUrl_of_some hq
  unfold SqsTaskUtil.queueExists
  rw [Prog.wp_tryCatch, Prog.wp_bind]
  refine Prog.wp_mono (wp_call_clear hx) ?_ (fun _ _ he => he.elim)
  intro _ w' hw'
  obtain ⟨-, rfl⟩ := hw'
  exact ⟨rfl, rfl⟩

/-- Without failures, a queue that does not exist is not found. -/
theorem wp_queueExists_clear_none (hq : w.store.queues name = none) :
    (SqsTaskUtil.queueExists ⟨addresses, .clear⟩ name).wp
      (fun r w' => r = false ∧ w' = w.record (.getQueueUrl name) none w.store)
      (fun _ _ => False) w := by
  have hx : (Messaging.service addresses).exec (.getQueueUrl name) w.store =
      (.error Messaging.queueDoesNotExist, w.store) := getQueueUrl_of_none hq
  unfold SqsTaskUtil.queueExists
  rw [Prog.wp_tryCatch, Prog.wp_bind]
  refine Prog.wp_mono (wp_call_clear_refused hx) (fun _ _ hq => hq.elim) ?_
  intro _ w' hw'
  obtain ⟨rfl, rfl⟩ := hw'
  exact ⟨rfl, rfl⟩

/-- **Resolving queue names** reads only: it keeps what such calls keep, and answers with the
URLs of queues that exist. -/
theorem wp_getQueueUrls {I : MessagingWorld → Prop}
    (hI : ∀ w name fault, I w → I (w.record (.getQueueUrl name) fault w.store))
    (names : List String) (w : MessagingWorld) (h : I w) :
    (SqsTaskUtil.getQueueUrls amazonSQS names).wp
      (fun urls w' => urls = names.map amazonSQS.addresses.queueUrls.address ∧
        (∀ c ∈ names, (w.store.queues c).isSome) ∧ I w' ∧ w'.store = w.store)
      (fun _ w' => I w' ∧ w'.store = w.store) w := by
  induction names generalizing w with
  | nil => exact ⟨rfl, fun _ hc => (List.not_mem_nil hc).elim, h, rfl⟩
  | cons name names ih =>
    have hread : ((Messaging.service amazonSQS.addresses).exec (.getQueueUrl name) w.store).2 =
        w.store := getQueueUrl_store amazonSQS.addresses name w.store
    have hone : (amazonSQS.getQueueUrl name).wp
        (fun url w' => (Messaging.service amazonSQS.addresses).exec (.getQueueUrl name) w.store =
          (.ok url, w'.store) ∧ I w' ∧ w'.store = w.store)
        (fun _ w' => I w' ∧ w'.store = w.store) w := by
      apply wp_call_keeps
      · intro fault
        exact ⟨hI w name fault h, rfl⟩
      · intro fault
        rw [hread]
        exact ⟨hI w name fault h, rfl⟩
    unfold SqsTaskUtil.getQueueUrls
    simp only [Prog.wp_bind, Prog.wp_pure]
    apply Prog.wp_conseq hone
    intro url w₁ hw₁
    obtain ⟨hx, h₁, hstore₁⟩ := hw₁
    obtain ⟨hurl, hsome⟩ : url = amazonSQS.addresses.queueUrls.address name ∧
        (w.store.queues name).isSome := by
      have hanswer : (Messaging.getQueueUrl amazonSQS.addresses name w.store).1 = .ok url :=
        congrArg Prod.fst hx
      cases hq : w.store.queues name with
      | none =>
        rw [getQueueUrl_of_none hq] at hanswer
        cases hanswer
      | some q =>
        rw [getQueueUrl_of_some hq] at hanswer
        cases hanswer
        exact ⟨rfl, rfl⟩
    refine Prog.wp_mono (ih w₁ h₁) ?_ ?_
    · intro urls w₂ hw₂
      obtain ⟨rfl, hrest, h₂, hstore₂⟩ := hw₂
      refine ⟨by rw [hurl, List.map_cons], ?_, h₂, hstore₂.trans hstore₁⟩
      intro c hc
      cases List.mem_cons.mp hc with
      | inl heq => rwa [heq]
      | inr hmem =>
        rw [← hstore₁]
        exact hrest c hmem
    · intro _ w₂ hw₂
      obtain ⟨h₂, hstore₂⟩ := hw₂
      exact ⟨h₂, hstore₂.trans hstore₁⟩

end QueueExists

/-! ## Queues, addresses and a project to try the results on -/

/-- A store with two empty queues. -/
def twoQueues : MessagingStore where
  queues := Function.update (Function.update (fun _ => none) "orders" (some ⟨.empty, []⟩))
    "audit" (some ⟨.empty, []⟩)
  topics := fun _ => none

/-- Addresses as LocalStack gives them out. -/
def sampleAddresses : Addresses where
  queueUrls := .prefixed "http://localhost:4566/000000000000/"
  queueArns := .prefixed "arn:aws:sqs:us-east-1:000000000000:"
  topicArns := .prefixed "arn:aws:sns:us-east-1:000000000000:"
  subscriptionArn topic _ := "arn:aws:sns:us-east-1:000000000000:" ++ topic ++ ":0"

/-- A project with the default signing region. -/
def sampleProject : Project where
  rootDir := ⟨true, ["work", "app"]⟩
  projectDir := ⟨true, ["work", "app"]⟩
  tasks := ⟨[], List.nodup_nil⟩

/-- The sample addresses name topics as `getTopicArn` does. -/
theorem topicArn_of_sample (name : String) :
    sampleAddresses.topicArns.address name = SnsTaskUtil.getTopicArn sampleProject name := by
  have hhead : "arn:aws:sns:us-east-1:000000000000:" =
      "arn:aws:sns:" ++ "us-east-1" ++ ":000000000000:" := by decide
  show "arn:aws:sns:us-east-1:000000000000:" ++ name = _
  rw [hhead]
  rfl

/-- The sample addresses name queues as `getQueueArnFromName` does. -/
theorem queueArn_of_sample (name : String) :
    sampleAddresses.queueArns.address name =
      SqsTaskUtil.getQueueArnFromName sampleProject name := by
  have hhead : "arn:aws:sqs:us-east-1:000000000000:" =
      "arn:aws:sqs:" ++ "us-east-1" ++ ":000000000000:" := by decide
  show "arn:aws:sqs:us-east-1:000000000000:" ++ name = _
  rw [hhead]
  rfl

/-- A failure of a messaging call, without effect. -/
def unavailable : Fault Throwable :=
  ⟨.plain ⟨"com.amazonaws.SdkClientException", true⟩ (some "Connection refused"), false⟩

end GradleLocalstack.Analysis
