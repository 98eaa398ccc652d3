import GradleLocalstack.Analysis.SetupEstablished
import GradleLocalstack.Foundation.Quiet

/-!
# A second build against an environment that is set up

A setup task that finds what it sets up changes nothing, whatever fails, and returns unless a
failure strikes; all but `CreateSnsTopicWithSqsEndpointTask`, which takes a queue that exists
for a `null` URL.
-/

set_option autoImplicit false

namespace GradleLocalstack.Analysis

open Foundation GradleLocalstack.Model GradleLocalstack.Program

/-- A retried function that finds everything done. -/
theorem quiet_execute {ω α : Type} [Console ω] {P : ω → Prop} {F : Prop} {Q : α → Prop}
    {fn : Prog ω Throwable α} {maxRetries : ℤ} {expectedErrors : List JavaClass}
    (hpos : 0 < maxRetries) (hP : ∀ o w, P w → P (Console.emit o w)) (h : fn.Quiet P F Q) :
    (Retry.execute fn maxRetries expectedErrors).Quiet P F Q := by
  intro w hw
  refine wp_execute (fun k w => P w ∧ (0 < k → F)) maxRetries ?_ ?_ ?_ w ⟨hw, fun h => by omega⟩
  · rintro k o w' ⟨hw', hk⟩
    exact ⟨hP o w' hw', hk⟩
  · rintro k w' - ⟨hw', -⟩
    refine Prog.wp_mono (h w' hw') (fun _ _ ha => ha) ?_
    rintro t w'' ⟨hw'', hF⟩
    unfold AfterError
    split
    · exact ⟨hP _ _ hw'', hF⟩
    · exact ⟨hP _ _ hw'', fun _ => hF⟩
  · rintro w' ⟨hw', hk⟩
    exact ⟨hw', hk (by omega)⟩

/-! ## SQS and SNS -/

section Messaging

variable {client : MessagingClient} {s : MessagingStore} {name : String}

/-- The store is as it was. -/
abbrev Unchanged (s : MessagingStore) : MessagingWorld → Prop := fun w => w.store = s

/-- Printing leaves the store. -/
theorem unchanged_emit (o : Output) (w : MessagingWorld) (hw : Unchanged s w) :
    Unchanged s (Console.emit o w) := hw

/-- The URL of a queue that exists. -/
theorem quiet_getQueueUrl (hname : (s.queues name).isSome) :
    (client.getQueueUrl name).Quiet (Unchanged s) client.sched.Strikes
      (fun url => url = client.addresses.queueUrls.address name) := by
  obtain ⟨q, hq⟩ := Option.isSome_iff_exists.mp hname
  have hx : (Messaging.service client.addresses).exec (.getQueueUrl name) s =
      (.ok (client.addresses.queueUrls.address name), s) := getQueueUrl_of_some hq
  exact quiet_call hx

/-- A queue that exists is found, unless a failure strikes. -/
theorem quiet_queueExists (hname : (s.queues name).isSome) :
    (SqsTaskUtil.queueExists client name).Quiet (Unchanged s) client.sched.Strikes
      (fun r => r = false → client.sched.Strikes) := by
  unfold SqsTaskUtil.queueExists
  refine .tryCatch ?_ fun hstrikes e => ?_
  · exact .bind (quiet_getQueueUrl hname) fun _ _ => .pure (fun hfalse => by cases hfalse)
  · split
    · exact .pure fun _ => hstrikes
    · exact .throw hstrikes e

/-- Creating a queue that exists, which only happens when a failure has hidden it. -/
theorem quiet_createQueue {attributes : AttributeMap} (hname : (s.queues name).isSome)
    (hstrikes : client.sched.Strikes) :
    (client.createQueue ⟨name, attributes⟩).Quiet (Unchanged s) client.sched.Strikes
      (fun _ => True) := by
  obtain ⟨q, hq⟩ := Option.isSome_iff_exists.mp hname
  have hx : ((Messaging.service client.addresses).exec (.createQueue ⟨name, attributes⟩) s).2 =
      s := createQueue_store_of_some hq
  exact (quiet_call_excused hx hstrikes).mono fun _ _ => trivial

/-- **`CreateSqsQueuesTask`**, when its queues exist. -/
theorem quiet_createSqsQueues {queueNames : List String}
    {queueAttributes : Option AttributeMap} (hqueues : ∀ c ∈ queueNames, (s.queues c).isSome) :
    (CreateSqsQueuesTask.run client ⟨some queueNames, queueAttributes⟩).Quiet (Unchanged s)
      client.sched.Strikes (fun _ => True) := by
  refine quiet_execute defaultMaxRetries_pos unchanged_emit (.forEach fun name hname => ?_)
  unfold CreateSqsQueuesTask.createQueue
  refine .bind (quiet_log unchanged_emit _) fun _ _ =>
    .bind (quiet_queueExists (hqueues name hname)) fun queueExists hexists => ?_
  cases queueExists with
  | true => exact quiet_log unchanged_emit _
  | false =>
    rw [createQueueRequest_eq]
    exact .bind (quiet_createQueue (hqueues name hname) (hexists rfl)) fun _ _ =>
      quiet_log unchanged_emit _

/-- Without names the task never returns. -/
theorem quiet_createSqsQueues_null {queueAttributes : Option AttributeMap} :
    (CreateSqsQueuesTask.run client ⟨none, queueAttributes⟩).Quiet (Unchanged s) True
      (fun _ => False) :=
  quiet_execute defaultMaxRetries_pos unchanged_emit (.throw trivial _)

/-! ### `CreateSqsQueueWithDlqTask` -/

section Dlq

variable {project : Project} {mapper : ObjectMapper CreateSqsQueueWithDlqTask.RedrivePolicy}
  {task : CreateSqsQueueWithDlqTask}

/-- The store is as it was, and so is the task up to its policy. -/
abbrev TaskUnchanged (s : MessagingStore) (task : CreateSqsQueueWithDlqTask) :
    CreateSqsQueueWithDlqTask.TaskWorld → Prop :=
  fun w => Unchanged s w.1 ∧ SameTask task w.2

/-- Printing leaves the store and the task. -/
theorem taskUnchanged_emit (o : Output) (w : CreateSqsQueueWithDlqTask.TaskWorld)
    (hw : TaskUnchanged s task w) : TaskUnchanged s task (Console.emit o w) := hw

/-- Reading the fields of the task. -/
theorem quiet_fields {F : Prop} :
    CreateSqsQueueWithDlqTask.fields.Quiet (TaskUnchanged s task) F (SameTask task) :=
  .bind .current fun _ hw => .pure hw.2

/-- The first block, when the dead-letter queue exists. -/
theorem quiet_createDeadletterQueue
    (hdlq : (s.queues (CreateSqsQueueWithDlqTask.getDeadletterQueueName task)).isSome) :
    (CreateSqsQueueWithDlqTask.createDeadletterQueue client).Quiet (TaskUnchanged s task)
      client.sched.Strikes (fun _ => True) := by
  unfold CreateSqsQueueWithDlqTask.createDeadletterQueue
  refine .bind quiet_fields fun task' hsame => ?_
  dsimp only
  rw [hsame.getDeadletterQueueName_eq]
  refine .bind (.onFirst (quiet_queueExists hdlq)) fun queueExists hexists => ?_
  cases queueExists with
  | true => exact quiet_log taskUnchanged_emit _
  | false =>
    unfold SqsTaskUtil.createQueue
    rw [createQueueRequest_eq]
    exact .bind (quiet_log taskUnchanged_emit _) fun _ _ =>
      .bind (.onFirst (quiet_createQueue hdlq (hexists rfl))) fun _ _ =>
        quiet_log taskUnchanged_emit _

/-- The policy that is written again is the one that the queue carries. -/
theorem quiet_putRedrivePolicy {F : Prop} {dlqArn policy : String}
    (hwrite : mapper.writeValueAsString ⟨dlqArn, "1"⟩ = .ok policy) :
    (CreateSqsQueueWithDlqTask.putRedrivePolicy mapper dlqArn).Quiet (TaskUnchanged s task) F
      (fun attributes => attributes = linkedAttributes task policy) := by
  rintro w ⟨hstore, hsame⟩
  refine Prog.wp_mono (wp_putRedrivePolicy mapper dlqArn hsame) ?_ ?_
  · rintro attributes w' ⟨hfirst, hsame', policy', hwrite', rfl⟩
    rw [hwrite] at hwrite'
    cases hwrite'
    exact ⟨⟨hfirst ▸ hstore, hsame'⟩, rfl⟩
  · rintro e w' ⟨-, -, hwrite'⟩
    rw [hwrite] at hwrite'
    cases hwrite'

/-- The second block, when the queue carries the link. -/
theorem quiet_createMainQueue (hlink : CarriesLink project mapper task s) :
    (CreateSqsQueueWithDlqTask.createQueue client project mapper).Quiet (TaskUnchanged s task)
      client.sched.Strikes (fun _ => True) := by
  obtain ⟨policy, hwrite, q, hq, hcarries⟩ := hlink
  have hname : (s.queues task.queueName).isSome := by
    rw [hq]
    rfl
  have hset : (Messaging.service client.addresses).exec (.setQueueAttributes
      (client.addresses.queueUrls.address task.queueName) (linkedAttributes task policy)) s =
      (.ok (), s) := setQueueAttributes_carried hq hcarries
  unfold CreateSqsQueueWithDlqTask.createQueue
  refine .bind quiet_fields fun task' hsame => ?_
  dsimp only
  rw [hsame.getDeadletterQueueName_eq, hsame.queueName_eq]
  refine .bind (.onFirst (quiet_queueExists hname)) fun queueExists hexists => ?_
  cases queueExists with
  | true =>
    refine .bind (quiet_log taskUnchanged_emit _) fun _ _ =>
      .bind (.onFirst (quiet_getQueueUrl hname)) fun queueUrl hurl =>
      .bind (quiet_putRedrivePolicy hwrite) fun attributes hattributes => ?_
    rw [hurl, hattributes]
    exact .bind (.onFirst (quiet_call hset)) fun _ _ => quiet_log taskUnchanged_emit _
  | false =>
    refine .bind (quiet_log taskUnchanged_emit _) fun _ _ =>
      .bind (quiet_putRedrivePolicy hwrite) fun attributes _ => ?_
    unfold SqsTaskUtil.createQueue
    rw [createQueueRequest_eq]
    exact .bind (.onFirst (quiet_createQueue hname (hexists rfl))) fun _ _ =>
      quiet_log taskUnchanged_emit _

/-- **`CreateSqsQueueWithDlqTask`**, when its link is there. -/
theorem quiet_createSqsQueueWithDlq
    (hdlq : (s.queues (CreateSqsQueueWithDlqTask.getDeadletterQueueName task)).isSome)
    (hlink : CarriesLink project mapper task s) :
    (CreateSqsQueueWithDlqTask.run client project mapper).Quiet (TaskUnchanged s task)
      client.sched.Strikes (fun _ => True) := by
  unfold CreateSqsQueueWithDlqTask.run
  exact .bind
    (quiet_execute defaultMaxRetries_pos taskUnchanged_emit (quiet_createDeadletterQueue hdlq))
    fun _ _ => quiet_execute defaultMaxRetries_pos taskUnchanged_emit (quiet_createMainQueue hlink)

end Dlq

/-! ### `CreateSnsTopicWithSqsEndpointTask` -/

section Endpoint

/-- A topic that exists stays as it is. -/
theorem createTopic_of_some {addresses : Addresses} {topic : Topic}
    (h : s.topics name = some topic) :
    Messaging.createTopic addresses name s = (.ok (addresses.topicArns.address name), s) := by
  simp [Messaging.createTopic, h]

/-- A queue that is subscribed stays subscribed. -/
theorem subscribeQueue_subscribed {addresses : Addresses} {q : Queue} {topicName : String}
    {topic : Topic} (hq : s.queues name = some q) (ht : s.topics topicName = some topic)
    (hmem : addresses.queueArns.address name ∈ topic.endpoints) :
    Messaging.subscribeQueue addresses (addresses.topicArns.address topicName)
      (some (addresses.queueUrls.address name)) s =
      (.ok (addresses.subscriptionArn topicName (addresses.queueArns.address name)), s) := by
  have hsame : Function.update s.topics topicName (some topic) = s.topics := by
    rw [← ht, Function.update_eq_self]
  unfold Messaging.subscribeQueue
  rw [findQueue_of_some hq, findTopic_of_some ht]
  simp [hmem, hsame]

variable {task : CreateSnsTopicWithSqsEndpointTask}

/-- What the first block hands on, when the endpoint queue is there. -/
theorem quiet_createEndpoint (h : Subscribed client task s) :
    (task.createEndpoint client).Quiet (Unchanged s) client.sched.Strikes
      (fun url => (∀ u ∈ url, u = client.addresses.queueUrls.address task.getQueueName) ∧
        (url.isSome → client.sched.Strikes)) := by
  have hname := h.1
  unfold CreateSnsTopicWithSqsEndpointTask.createEndpoint
  refine .bind (quiet_queueExists hname) fun queueExists hexists => ?_
  cases queueExists with
  | true =>
    refine .bind (quiet_log unchanged_emit _) fun _ _ => .pure ⟨?_, fun hsome => ?_⟩
    · rintro u ⟨⟩
    · cases hsome
  | false =>
    unfold SqsTaskUtil.createQueue SqsTaskUtil.getQueueUrl
    rw [createQueueRequest_eq]
    refine .bind (quiet_log unchanged_emit _) fun _ _ =>
      .bind (quiet_createQueue hname (hexists rfl)) fun _ _ =>
      .bind (quiet_log unchanged_emit _) fun _ _ =>
      .bind (quiet_getQueueUrl hname) fun url hurl => .pure ⟨?_, fun _ => hexists rfl⟩
    rintro u ⟨⟩
    exact hurl

/-- Creating a topic that exists. -/
theorem quiet_createTopic (h : Subscribed client task s) :
    (task.createTopic client).Quiet (Unchanged s) client.sched.Strikes
      (fun topicArn => topicArn = client.addresses.topicArns.address task.topicName) := by
  obtain ⟨-, topic, htopic, -⟩ := h
  have hx : (Messaging.service client.addresses).exec (.createTopic task.topicName) s =
      (.ok (client.addresses.topicArns.address task.topicName), s) :=
    createTopic_of_some htopic
  exact .bind (quiet_log unchanged_emit _) fun _ _ => .bind (quiet_call hx) fun topicArn harn =>
    .bind (quiet_log unchanged_emit _) fun _ _ => .pure harn

/-- Subscribing a queue that is subscribed, or `null`. -/
theorem quiet_subscribe (h : Subscribed client task s) {url : Option String}
    (hurl : ∀ u ∈ url, u = client.addresses.queueUrls.address task.getQueueName) :
    (CreateSnsTopicWithSqsEndpointTask.subscribe client
      (client.addresses.topicArns.address task.topicName) url).Quiet (Unchanged s) True
      (fun _ => url.isSome) := by
  obtain ⟨hname, topic, htopic, hmem⟩ := h
  obtain ⟨q, hq⟩ := Option.isSome_iff_exists.mp hname
  have hx : ((Messaging.service client.addresses).exec (.subscribeQueue
      (client.addresses.topicArns.address task.topicName) url) s).2 = s := by
    cases url with
    | none => rfl
    | some u =>
      rw [hurl u rfl]
      exact congrArg Prod.snd (subscribeQueue_subscribed hq htopic hmem)
  refine .bind (quiet_call_excused hx trivial) fun r hr =>
    (quiet_log unchanged_emit _).mono fun _ _ => ?_
  cases url with
  | none => cases congrArg Prod.fst hr
  | some u => rfl

/-- **`CreateSnsTopicWithSqsEndpointTask`**, when its queue is subscribed: nothing changes, but
it returns only if a failure has hidden the queue. -/
theorem quiet_createSnsTopicWithSqsEndpoint (h : Subscribed client task s) :
    (task.run client).Quiet (Unchanged s) True (fun _ => client.sched.Strikes) := by
  unfold CreateSnsTopicWithSqsEndpointTask.run
  refine .bind (.excuse (quiet_execute defaultMaxRetries_pos unchanged_emit
    (quiet_createEndpoint h)) fun _ => trivial) fun url hurl =>
    .bind (.excuse (quiet_execute defaultMaxRetries_pos unchanged_emit
      (quiet_createTopic h)) fun _ => trivial) fun topicArn harn => ?_
  rw [harn]
  exact (quiet_execute defaultMaxRetries_pos unchanged_emit
    (quiet_subscribe h hurl.1)).mono fun _ hsome => hurl.2 hsome

end Endpoint

end Messaging

/-! ## S3 and DynamoDB -/

section Buckets

variable {amazonS3 : AmazonS3} {s : S3Store}

/-- **`CreateS3BucketsTask`**, when its buckets exist. -/
theorem quiet_createS3Buckets {task : CreateS3BucketsTask}
    (hbuckets : ∀ b ∈ namesOf task.buckets, (s b).isSome) :
    (task.run amazonS3).Quiet (fun w => w.store = s) amazonS3.sched.Strikes (fun _ => True) := by
  have hemit : ∀ o (w : S3World), w.store = s → (Console.emit o w).store = s := fun _ _ hw => hw
  unfold CreateS3BucketsTask.run
  refine quiet_execute defaultMaxRetries_pos hemit ?_
  obtain ⟨buckets⟩ := task
  cases buckets with
  | none => exact quiet_log hemit _
  | some buckets =>
    refine .forEach fun b hb => ?_
    have hx : (S3.service amazonS3.pageSize).exec (.doesBucketExistV2 b) s =
        (.ok (s b).isSome, s) := rfl
    unfold CreateS3BucketsTask.createBucket
    refine .bind (quiet_call hx) fun bucketExists hexists => ?_
    rw [hexists, hbuckets b ⟨buckets, rfl, hb⟩]
    exact quiet_log hemit _

end Buckets

section Tables

variable {amazonDynamoDB : AmazonDynamoDB} {s : DynamoDbStore}

/-- **`CreateDynamoDbTableTask`**, when its table exists: its initializer does not run. -/
theorem quiet_createDynamoDbTable {task : CreateDynamoDbTableTask}
    (htable : task.tableName ∈ s.names) :
    (task.run amazonDynamoDB).Quiet (fun w => w.store = s) amazonDynamoDB.sched.Strikes
      (fun _ => True) := by
  have hemit : ∀ o (w : DynamoDbWorld), w.store = s → (Console.emit o w).store = s :=
    fun _ _ hw => hw
  have hlist : ∀ marker, (amazonDynamoDB.listTables marker).Quiet (fun w => w.store = s)
      amazonDynamoDB.sched.Strikes
      (fun p => p = Page.of id amazonDynamoDB.pageSize marker s.names) :=
    fun marker => quiet_call rfl
  have hexists : (DynamoDBTaskUtil.tableExists amazonDynamoDB task.tableName).Quiet
      (fun w => w.store = s) amazonDynamoDB.sched.Strikes
      (fun r => r = s.names.any fun name => name == task.tableName) := by
    refine .searchPages amazonDynamoDB.pageSize_pos (fun a _ b _ hab => hab) hlist ?_
    rintro w rfl
    exact Nat.lt_succ_self _
  refine quiet_execute (by decide) hemit ?_
  unfold CreateDynamoDbTableTask.attempt
  refine .bind (quiet_log hemit _) fun _ _ => .bind hexists fun tableExists hfound => ?_
  have htrue : tableExists = true := by
    rw [hfound]
    simpa using htable
  rw [htrue]
  exact quiet_log hemit _

end Tables

/-! ## One task again -/

/-- The task subscribes a queue to a topic. -/
def subscribesQueue : AwsTask → Bool
  | .createSnsTopicWithSqsEndpoint _ => true
  | _ => false

section Task

variable {env : Environment} {sched : Schedule Throwable} {s : LocalStack} {task : AwsTask}

/-- An action that finds everything done leaves the environment. -/
theorem onMessaging_quiet {action : Prog MessagingWorld Throwable Unit} {F : Prop}
    {Q : Unit → Prop} (h : action.Quiet (Unchanged s.messaging) F Q) :
    (AwsTask.onMessaging action s).2 = s :=
  congrArg (fun m => (⟨m, s.buckets, s.tables⟩ : LocalStack))
    (h.keeps (w := World.start s.messaging) rfl)

/-- **A setup task that finds what it sets up** changes nothing, whatever fails. -/
theorem run_unchanged (hsetup : task.isSetup = true) (h : task.Provides env s) :
    (task.run env sched s).2 = s := by
  cases task with
  | createSqsQueues task =>
    obtain ⟨queueNames, queueAttributes⟩ := task
    cases queueNames with
    | none => exact onMessaging_quiet quiet_createSqsQueues_null
    | some queueNames =>
      exact onMessaging_quiet (quiet_createSqsQueues fun c hc => h c ⟨queueNames, rfl, hc⟩)
  | createSqsQueueWithDlq task =>
    have hquiet : (CreateSqsQueueWithDlqTask.run (env.messaging sched) env.project
        env.mapper).Quiet (TaskUnchanged s.messaging task) sched.Strikes (fun _ => True) :=
      quiet_createSqsQueueWithDlq h.1 h.2
    have hkept := hquiet.keeps (w := (World.start s.messaging, task)) ⟨rfl, SameTask.refl task⟩
    exact congrArg (fun m => (⟨m, s.buckets, s.tables⟩ : LocalStack)) hkept.1
  | createSnsTopicWithSqsEndpoint task =>
    have hsubscribed : Subscribed (env.messaging sched) task s.messaging := h
    exact onMessaging_quiet (quiet_createSnsTopicWithSqsEndpoint hsubscribed)
  | createS3Buckets task =>
    have hquiet : (task.run (env.amazonS3 sched)).Quiet (fun w => w.store = s.buckets)
        sched.Strikes (fun _ => True) := quiet_createS3Buckets h
    have hkept := hquiet.keeps (w := World.start s.buckets) rfl
    exact congrArg (fun b => (⟨s.messaging, b, s.tables⟩ : LocalStack)) hkept
  | createDynamoDbTable task =>
    have hquiet : (task.run (env.amazonDynamoDB sched)).Quiet (fun w => w.store = s.tables)
        sched.Strikes (fun _ => True) := quiet_createDynamoDbTable h
    have hkept := hquiet.keeps (w := World.start s.tables) rfl
    exact congrArg (fun tables => (⟨s.messaging, s.buckets, tables⟩ : LocalStack)) hkept
  | publishSqs _ | purgeSqsQueues _ | deleteSnsTopic _ | purgeS3Buckets _ | deleteS3Buckets _
  | deleteDynamoDbTable _ => cases hsetup

/-- A task of queues that has returned once has been given their names. -/
theorem queueNames_of_returned {first : Schedule Throwable} {s₁ s₂ : LocalStack}
    {task : CreateSqsQueuesTask}
    (hran : (AwsTask.createSqsQueues task).run env first s₁ = (.returned (), s₂)) :
    ∃ queueNames, task.queueNames = some queueNames := by
  obtain ⟨queueNames, queueAttributes⟩ := task
  cases queueNames with
  | some queueNames => exact ⟨queueNames, rfl⟩
  | none =>
    obtain ⟨w, hrun, -⟩ := AwsTask.onMessaging_returned hran
    exact (Prog.wp_returned (quiet_createSqsQueues_null (World.start s₁.messaging) rfl) hrun).2.elim

/-- **When no failure strikes**, a setup task that has returned once returns again, unless it
subscribes a queue. -/
theorem run_returns_iff {first : Schedule Throwable} {s₁ s₂ : LocalStack}
    (hran : task.run env first s₁ = (.returned (), s₂)) (hsetup : task.isSetup = true)
    (h : task.Provides env s) (hclear : ¬ sched.Strikes) :
    (task.run env sched s).1 = .returned () ↔ subscribesQueue task = false := by
  cases task with
  | createSqsQueues task =>
    obtain ⟨names, hnames⟩ := queueNames_of_returned hran
    obtain ⟨queueNames, queueAttributes⟩ := task
    obtain rfl : queueNames = some names := hnames
    have hquiet : (CreateSqsQueuesTask.run (env.messaging sched)
        ⟨some names, queueAttributes⟩).Quiet (Unchanged s.messaging) sched.Strikes
        (fun _ => True) := quiet_createSqsQueues fun c hc => h c ⟨names, rfl, hc⟩
    obtain ⟨u, hreturned, -⟩ := hquiet.returns hclear (w := World.start s.messaging) rfl
    exact ⟨fun _ => rfl, fun _ => hreturned⟩
  | createSqsQueueWithDlq task =>
    have hquiet : (CreateSqsQueueWithDlqTask.run (env.messaging sched) env.project
        env.mapper).Quiet (TaskUnchanged s.messaging task) sched.Strikes (fun _ => True) :=
      quiet_createSqsQueueWithDlq h.1 h.2
    obtain ⟨u, hreturned, -⟩ := hquiet.returns hclear (w := (World.start s.messaging, task))
      ⟨rfl, SameTask.refl task⟩
    exact ⟨fun _ => rfl, fun _ => hreturned⟩
  | createSnsTopicWithSqsEndpoint task =>
    have hsubscribed : Subscribed (env.messaging sched) task s.messaging := h
    constructor
    · intro hreturned
      have hstrikes := Prog.wp_returned
        (quiet_createSnsTopicWithSqsEndpoint hsubscribed (World.start s.messaging) rfl)
        (Prod.ext hreturned rfl)
      exact absurd hstrikes.2 hclear
    · intro hnot
      cases hnot
  | createS3Buckets task =>
    have hquiet : (task.run (env.amazonS3 sched)).Quiet (fun w => w.store = s.buckets)
        sched.Strikes (fun _ => True) := quiet_createS3Buckets h
    obtain ⟨u, hreturned, -⟩ := hquiet.returns hclear (w := World.start s.buckets) rfl
    exact ⟨fun _ => rfl, fun _ => hreturned⟩
  | createDynamoDbTable task =>
    have hquiet : (task.run (env.amazonDynamoDB sched)).Quiet (fun w => w.store = s.tables)
        sched.Strikes (fun _ => True) := quiet_createDynamoDbTable h
    obtain ⟨u, hreturned, -⟩ := hquiet.returns hclear (w := World.start s.tables) rfl
    exact ⟨fun _ => rfl, fun _ => hreturned⟩
  | publishSqs _ | purgeSqsQueues _ | deleteSnsTopic _ | purgeS3Buckets _ | deleteS3Buckets _
  | deleteDynamoDbTable _ => cases hsetup

end Task

/-! ## The build again -/

section Builds

variable {build : Build} {names : List String} {name : String} {s s' : LocalStack}

/-- Each task of a build that has returned has returned. -/
theorem ran_of_mem (hrun : build.run names s = (.returned (), s')) (hname : name ∈ names) :
    ∃ s₁ s₂, build.runTask name s₁ = (.returned (), s₂) := by
  obtain ⟨before, after, rfl⟩ := List.append_of_mem hname
  obtain ⟨s₁, -, hrest⟩ := Build.run_append_returned hrun
  obtain ⟨s₂, hone, -⟩ := Build.run_cons_returned hrest
  exact ⟨s₁, s₂, hone⟩

/-- Tasks none of which changes anything. -/
theorem run_of_unchanged (h : ∀ name ∈ names, (build.runTask name s).2 = s) :
    (build.run names s).2 = s ∧
      ((build.run names s).1 = .returned () ↔
        ∀ name ∈ names, (build.runTask name s).1 = .returned ()) := by
  induction names with
  | nil => simp [Build.run]
  | cons name names ih =>
    have hfirst := h name List.mem_cons_self
    have hrest := ih fun n hn => h n (List.mem_cons_of_mem name hn)
    rw [List.forall_mem_cons]
    rcases hone : build.runTask name s with ⟨_ | e | _, s₁⟩
    · rw [hone] at hfirst
      obtain rfl : s₁ = s := hfirst
      rw [Build.run, hone]
      exact ⟨hrest.1, by simpa using hrest.2⟩
    · rw [hone] at hfirst
      rw [Build.run, hone]
      simpa using hfirst
    · rw [hone] at hfirst
      rw [Build.run, hone]
      simpa using hfirst

end Builds

/-- **A second build of `startLocalStack`** changes nothing in the environment that the first
has left, whatever fails; and without failures it returns if and only if no task of it is a
`CreateSnsTopicWithSqsEndpointTask`.
SRC: compose/LocalStackModule.java:62-71, 123-139 -/
theorem second_build_changes_nothing {cwd : Path} {files : FileSystem} {project loaded : Project}
    (hload : LocalStackModule.load cwd files project = .ok loaded)
    (hfollows : SetupFollowsComposeUp project) {order order' : List String}
    (horder : (taskGraph loaded.tasks.tasks).ExecutionOrder "startLocalStack" order)
    (horder' : (taskGraph loaded.tasks.tasks).ExecutionOrder "startLocalStack" order')
    {build : Build} (hfits : FitsProject build project) (hlinks : LinksOnce build)
    {s s' : LocalStack} (hrun : build.run order s = (.returned (), s'))
    (sched : String → Schedule Throwable) :
    ((build.again sched).run order' s').2 = s' ∧
      ((∀ name ∈ order', ¬ (sched name).Strikes) →
        (((build.again sched).run order' s').1 = .returned () ↔
          ∀ name ∈ order', ∀ task, build.task name = some task →
            subscribesQueue task = false)) := by
  rw [load_tasks hload] at horder horder'
  -- what each task of the second build finds
  have hfinds : ∀ name ∈ order', ∀ task, build.task name = some task →
      name ≠ "composeUp" ∧ task.isSetup = true ∧ task.Provides build.env s' := by
    intro name hname task htask
    obtain ⟨hsetup, t, ht, rfl⟩ := isSetup_of_mem_order hfits horder' hname htask
    have hflag : t.localStackSetupTask = true := hfits.annotated t ht task htask ▸ hsetup
    have hcompose : Before order' "composeUp" t.name :=
      horder'.before_of_follows (hfollows horder'.schedulable t ht hflag)
    refine ⟨fun heq => ?_, hsetup,
      setupEstablished_of_follows hfollows horder hfits hlinks hrun ht htask hsetup⟩
    rw [heq] at hcompose
    exact Before.irrefl horder'.nodup hcompose
  have hunchanged : ∀ name ∈ order', ((build.again sched).runTask name s').2 = s' := by
    intro name hname
    rw [Build.runTask_again]
    cases htask : build.task name with
    | none => rw [ite_self]
    | some task =>
      obtain ⟨hne, hsetup, hprovides⟩ := hfinds name hname task htask
      rw [if_neg hne]
      exact run_unchanged hsetup hprovides
  obtain ⟨hsame, hreturns⟩ := run_of_unchanged hunchanged
  refine ⟨hsame, fun hclear => hreturns.trans (forall₂_congr fun name hname => ?_)⟩
  rw [Build.runTask_again]
  cases htask : build.task name with
  | none => simp
  | some task =>
    obtain ⟨hne, hsetup, hprovides⟩ := hfinds name hname task htask
    -- it is a task of the first build too, which has returned
    obtain ⟨s₁, s₂, hran⟩ := ran_of_mem hrun
      ((horder.mem_iff name).mpr ((horder'.mem_iff name).mp hname))
    rw [Build.runTask, if_neg hne, htask] at hran
    rw [if_neg hne]
    simpa using run_returns_iff hran hsetup hprovides (hclear name hname)

/-- A bucket that one build has created is left by the next. -/
theorem second_build_of_buckets :
    let order := ["composeUp", "createBuckets", "startLocalStack"]
    let s' := ((freshBuild "createBuckets").run order emptyLocalStack).2
    ((freshBuild "createBuckets").again fun _ => .clear).run order s' = (.returned (), s') := by
  intro order s'
  have hload : ∃ loaded, LocalStackModule.load [] FileSystem.blank
      (bucketsProject ["composeUp"]) = .ok loaded := ⟨_, rfl⟩
  obtain ⟨loaded, hload⟩ := hload
  have hbuckets : (loadedGraph (bucketsProject ["composeUp"])).Required "startLocalStack"
      "createBuckets" := TaskGraph.Required.refl.tail (startLocalStack_dependsOn (.inr (by decide)))
  have hrequired : ∀ a ∈ order,
      (loadedGraph (bucketsProject ["composeUp"])).Required "startLocalStack" a := by
    intro a ha
    simp only [order, List.mem_cons, List.not_mem_nil, or_false] at ha
    obtain rfl | rfl | rfl := ha
    · exact TaskGraph.Required.refl.tail (startLocalStack_dependsOn (.inl rfl))
    · exact hbuckets
    · exact TaskGraph.Required.refl
  have horder : (taskGraph loaded.tasks.tasks).ExecutionOrder "startLocalStack" order := by
    rw [load_tasks hload]
    exact executionOrder_of_tasks (by decide) (by decide) (by decide) hrequired (by decide)
      (by decide)
  have hfits : FitsProject (freshBuild "createBuckets") (bucketsProject ["composeUp"]) :=
    freshBuild_fits (by decide) (by decide)
  have hrun : (freshBuild "createBuckets").run order emptyLocalStack = (.returned (), s') :=
    Prod.ext rfl rfl
  obtain ⟨hsame, hreturns⟩ := second_build_changes_nothing hload bucketsProject_follows horder
    horder hfits freshBuild_linksOnce hrun fun _ => .clear
  refine Prod.ext ((hreturns fun _ _ => Schedule.not_strikes_clear).mpr ?_) hsame
  intro name _ task htask
  rw [(freshBuild_task htask).2]
  rfl

end GradleLocalstack.Analysis
