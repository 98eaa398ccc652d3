import GradleLocalstack.Analysis.Creation
import GradleLocalstack.Analysis.DeadletterQueue
import GradleLocalstack.Analysis.DynamoDbSession
import GradleLocalstack.Analysis.SetupOrder
import GradleLocalstack.Analysis.SnsEndpoint
import GradleLocalstack.Analysis.TableInitializer
import GradleLocalstack.Program.Build

/-!
# What stands when `startLocalStack` is reached

A setup task that returns has set up what it names (`Provides`), whatever failures it met on
the way, and the tasks that run after it leave that standing unless they were configured to
undo it.  `startLocalStack` so finds everything set up, in every order that Gradle may choose
and whatever `composeUp` makes of the environment, if and only if the build script puts each
setup task after `composeUp`.
-/

set_option autoImplicit false

namespace GradleLocalstack.Program.AwsTask

open Foundation GradleLocalstack.Model GradleLocalstack.Analysis

/-- What the task sets up is there. -/
def Provides (env : Environment) : AwsTask → LocalStack → Prop
  | createSqsQueues task, s => ∀ c ∈ namesOf task.queueNames, (s.messaging.queues c).isSome
  | createSqsQueueWithDlq task, s =>
    (s.messaging.queues task.getDeadletterQueueName).isSome ∧
      CarriesLink env.project env.mapper task s.messaging
  | createSnsTopicWithSqsEndpoint task, s => Subscribed (env.messaging .clear) task s.messaging
  | createS3Buckets task, s => ∀ b ∈ namesOf task.buckets, (s.buckets b).isSome
  | createDynamoDbTable task, s => task.tableName ∈ s.tables.names
  | _, _ => True

/-- The first task is configured to undo what the second sets up. -/
def Undoes (env : Environment) (other : AwsTask) : AwsTask → Prop
  | createSqsQueueWithDlq task => task.queueName ∈ (other.messagingRights env).relink
  | createSnsTopicWithSqsEndpoint task =>
    task.topicName ∈ (other.messagingRights env).deleteTopic
  | createS3Buckets task => ∃ b ∈ namesOf task.buckets, b ∈ other.bucketRights.delete
  | createDynamoDbTable task => task.tableName ∈ other.tableRights.delete
  | _ => False

end GradleLocalstack.Program.AwsTask

namespace GradleLocalstack.Analysis

open Foundation GradleLocalstack.Model GradleLocalstack.Program

variable {env : Environment} {sched : Schedule Throwable} {s s' : LocalStack}

/-! ## A task that returns -/

section Returned

variable {client : MessagingClient}

/-- The first block, if it returns, hands on the URL of the queue, or `null`. -/
theorem wp_createEndpoint_url (task : CreateSnsTopicWithSqsEndpointTask) (w : MessagingWorld) :
    (task.createEndpoint client).wp
      (fun url _ => ∀ u ∈ url, u = client.addresses.queueUrls.address task.getQueueName)
      (fun _ _ => True) w := by
  unfold CreateSnsTopicWithSqsEndpointTask.createEndpoint
  simp only [Prog.wp_bind]
  refine Prog.wp_mono (wp_queueExists (I := fun _ => True) fun _ => trivial) ?_
    (fun _ _ _ => trivial)
  intro queueExists w₁ _
  cases queueExists with
  | true =>
    rintro u ⟨⟩
  | false =>
    simp only [Bool.false_eq_true, if_false, Prog.wp_bind, wp_log, SqsTaskUtil.createQueue]
    refine Prog.wp_mono (wp_call_keeps (I := fun _ => True) (fun _ => trivial) fun _ => trivial)
      ?_ (fun _ _ _ => trivial)
    intro _ w₂ _
    refine wp_call (fun _ _ => trivial) ?_ (fun _ _ _ _ => trivial)
    intro url s₃ _ hx
    rintro u ⟨⟩
    cases hq : w₂.store.queues task.getQueueName with
    | none =>
      have hrefused := @getQueueUrl_of_none client.addresses _ _ hq
      cases congrArg Prod.fst (hrefused.symm.trans hx)
    | some q =>
      have hanswer := @getQueueUrl_of_some client.addresses _ _ _ hq
      exact (Except.ok.inj (congrArg Prod.fst (hanswer.symm.trans hx))).symm

/-- The second block, if it returns, hands on the ARN of the topic. -/
theorem wp_createTopic_arn (task : CreateSnsTopicWithSqsEndpointTask) (w : MessagingWorld) :
    (task.createTopic client).wp
      (fun topicArn _ => topicArn = client.addresses.topicArns.address task.topicName)
      (fun _ _ => True) w := by
  unfold CreateSnsTopicWithSqsEndpointTask.createTopic
  simp only [Prog.wp_bind, wp_log, Prog.wp_pure]
  refine wp_call (fun _ _ => trivial) ?_ (fun _ _ _ _ => trivial)
  intro topicArn s₁ _ hx
  obtain ⟨t, ht⟩ := createTopic_eq client.addresses task.topicName w.store
  exact (Except.ok.inj (congrArg Prod.fst (ht.symm.trans hx))).symm

/-- A subscription that is answered is there. -/
theorem subscribed_of_answered {task : CreateSnsTopicWithSqsEndpointTask} {url : Option String}
    {s s' : MessagingStore} {r : String}
    (hurl : ∀ u ∈ url, u = client.addresses.queueUrls.address task.getQueueName)
    (hx : Messaging.subscribeQueue client.addresses
      (client.addresses.topicArns.address task.topicName) url s = (.ok r, s')) :
    Subscribed client task s' := by
  cases url with
  | none => cases congrArg Prod.fst hx
  | some u =>
    rw [hurl u rfl] at hx
    cases hq : s.queues task.getQueueName with
    | none =>
      simp [Messaging.subscribeQueue, Messaging.findQueue,
        client.addresses.queueUrls.resolve_address, hq] at hx
    | some q =>
      cases ht : s.topics task.topicName with
      | none =>
        simp [Messaging.subscribeQueue, Messaging.findTopic, findQueue_of_some hq,
          client.addresses.topicArns.resolve_address, ht] at hx
      | some t =>
        obtain ⟨r', t', heq, hmem⟩ := subscribeQueue_of_some client.addresses hq ht
        have hs' : _ = s' := congrArg Prod.snd (heq.symm.trans hx)
        rw [← hs']
        refine ⟨?_, t', Function.update_self .., hmem⟩
        rw [hq]
        rfl

/-- **`CreateSnsTopicWithSqsEndpointTask`**: when it returns, its queue is subscribed. -/
theorem wp_sns_returns (task : CreateSnsTopicWithSqsEndpointTask) (w : MessagingWorld) :
    (task.run client).wp (fun _ w' => Subscribed client task w'.store) (fun _ _ => True) w := by
  unfold CreateSnsTopicWithSqsEndpointTask.run
  simp only [Prog.wp_bind]
  apply Prog.wp_conseq (wp_execute_keeps (fun _ => True) _ (fun _ _ _ => trivial)
    (fun w₁ _ => wp_createEndpoint_url task w₁) w trivial)
  intro url w₁ hurl
  apply Prog.wp_conseq (wp_execute_keeps (fun _ => True) _ (fun _ _ _ => trivial)
    (fun w₂ _ => wp_createTopic_arn task w₂) w₁ trivial)
  intro topicArn w₂ harn
  rw [harn]
  refine wp_execute_keeps (fun _ => True) _ (fun _ _ _ => trivial) (fun w₃ _ => ?_) w₂ trivial
  unfold CreateSnsTopicWithSqsEndpointTask.subscribe
  simp only [Prog.wp_bind, wp_log]
  refine wp_call (fun _ _ => trivial) ?_ (fun _ _ _ _ => trivial)
  intro r s₄ _ hx
  exact subscribed_of_answered hurl hx

/-- A step of the initializer leaves the tables. -/
theorem wp_initializer_step {amazonDynamoDB : AmazonDynamoDB} {tableName : String}
    {c : DynamoDbCall} {w : DynamoDbWorld} (h : tableName ∈ w.store.names)
    (hread : ∀ s, ((DynamoDb.service amazonDynamoDB.pageSize).exec c s).2 = s) :
    (amazonDynamoDB.invoke c).wp (fun _ w' => tableName ∈ w'.store.names) (fun _ _ => True) w := by
  refine Prog.wp_mono (wp_call_keeps (I := fun w' => tableName ∈ w'.store.names)
    (fun _ => h) fun _ => ?_) (fun _ _ h => h.2) (fun _ _ _ => trivial)
  rw [World.store_record, hread]
  exact h

/-- The initializer, if it returns, leaves the tables. -/
theorem wp_initializer_present {amazonDynamoDB : AmazonDynamoDB} {tableName : String}
    {w : DynamoDbWorld} (initializer : String) (h : tableName ∈ w.store.names) :
    (DynamoDbInitializerExecutor.invoke amazonDynamoDB tableName initializer).wp
      (fun _ w' => tableName ∈ w'.store.names) (fun _ _ => True) w := by
  unfold DynamoDbInitializerExecutor.invoke
  simp only [Prog.wp_bind, wp_log]
  apply Prog.wp_conseq (wp_catching (I := fun _ => True) _ _
    (wp_initializer_step (w := Console.emit _ w) h fun _ => rfl))
  intro _ w₁ h₁
  apply Prog.wp_conseq (wp_catching (I := fun _ => True) _ _
    (wp_initializer_step h₁ fun _ => rfl))
  intro _ w₂ h₂
  apply Prog.wp_conseq (wp_catching (I := fun _ => True) _ _
    (wp_initializer_step h₂ fun _ => rfl))
  intro _ w₃ h₃
  rw [Prog.wp_tryCatch]
  refine Prog.wp_mono (wp_initializer_step h₃ fun _ => rfl) ?_ ?_
  · intro _ w₄ h₄
    rw [Prog.wp_tryCatch]
    refine Prog.wp_mono (wp_initializer_step h₄ fun _ => rfl) (fun _ _ h => h) ?_
    intro e w₅ _
    split
    · exact trivial
    · exact trivial
  · intro e w₄ _
    split
    · exact trivial
    · exact trivial

/-- **One attempt** at a table, with or without an initializer. -/
theorem wp_createTable_attempt_present {amazonDynamoDB : AmazonDynamoDB}
    (task : CreateDynamoDbTableTask) (w : DynamoDbWorld) :
    (task.attempt amazonDynamoDB).wp (fun _ w' => task.tableName ∈ w'.store.names)
      (fun _ _ => True) w := by
  unfold CreateDynamoDbTableTask.attempt
  simp only [Prog.wp_bind, wp_log]
  apply Prog.wp_conseq
    (wp_tableExists (I := fun _ => True) task.tableName (fun _ _ _ h => h) trivial)
  intro tableExists w₁ hw₁
  obtain ⟨⟨-, hstore⟩, hexists⟩ := hw₁
  have hiff : tableExists = true ↔ task.tableName ∈ w₁.store.names := by
    rw [hstore, hexists]
    simp
  cases tableExists with
  | true =>
    rw [if_pos rfl]
    exact hiff.mp rfl
  | false =>
    have habsent : (CreateDynamoDbTableTask.createTableRequest task).tableName ∉
        w₁.store.names := fun hmem => Bool.false_ne_true (hiff.mpr hmem)
    have hx : (DynamoDb.service amazonDynamoDB.pageSize).exec
        (.createTable (CreateDynamoDbTableTask.createTableRequest task)) w₁.store =
        (.ok (), w₁.store.add _ habsent) := by
      simp [DynamoDb.service, habsent]
    rw [if_neg Bool.false_ne_true]
    simp only [Prog.wp_bind, wp_log]
    refine Prog.wp_mono (wp_call_ok hx) ?_ (fun _ _ _ => trivial)
    rintro _ w₂ ⟨-, rfl⟩
    have hpresent : task.tableName ∈ (w₁.store.add _ habsent).names := List.mem_cons_self
    cases task.initializer with
    | none => exact hpresent
    | some initializer =>
      exact wp_initializer_present (w := Console.emit _ (World.record _ _ _ _)) initializer
        hpresent

/-- **A task that returns** has set up what it names, whatever failed on the way. -/
theorem provides_of_returned {task : AwsTask} (hrun : task.run env sched s = (.returned (), s')) :
    task.Provides env s' := by
  cases task with
  | createSqsQueues task =>
    obtain ⟨queueNames, queueAttributes⟩ := task
    rintro c ⟨names, hnames, hc⟩
    obtain rfl : queueNames = some names := hnames
    obtain ⟨w', hrun', rfl⟩ := AwsTask.onMessaging_returned hrun
    exact (Prog.wp_returned (wp_createQueues_run _ names queueAttributes s.messaging) hrun').2 c hc
  | createSqsQueueWithDlq task =>
    obtain ⟨hreturned, hstore⟩ := Prod.ext_iff.mp hrun
    obtain ⟨-, hlinking, hlink⟩ := Prog.wp_returned (wp_createSqsQueueWithDlq_run task s.messaging)
      (Prod.ext hreturned rfl)
    rw [← show _ = s' from hstore]
    exact ⟨hlinking.deadletterQueue, hlink⟩
  | createSnsTopicWithSqsEndpoint task =>
    obtain ⟨w', hrun', rfl⟩ := AwsTask.onMessaging_returned hrun
    have hsubscribed : Subscribed (env.messaging sched) task w'.store :=
      Prog.wp_returned (wp_sns_returns task _) hrun'
    exact hsubscribed
  | createS3Buckets task =>
    obtain ⟨buckets⟩ := task
    rintro b ⟨names, hnames, hb⟩
    obtain rfl : buckets = some names := hnames
    obtain ⟨w', hrun', rfl⟩ := AwsTask.onBuckets_returned hrun
    exact (Prog.wp_returned (wp_createBuckets_run _ names s.buckets) hrun').2 b hb
  | createDynamoDbTable task =>
    obtain ⟨w', hrun', rfl⟩ := AwsTask.onTables_returned hrun
    have hwp : (task.run (env.amazonDynamoDB sched)).wp
        (fun _ w' => task.tableName ∈ w'.store.names) (fun _ _ => True) (World.start s.tables) :=
      wp_execute_keeps (fun _ => True) _ (fun _ _ _ => trivial)
        (fun w _ => wp_createTable_attempt_present task w) _ trivial
    exact Prog.wp_returned hwp hrun'
  | publishSqs _ => trivial
  | purgeSqsQueues _ => trivial
  | deleteSnsTopic _ => trivial
  | purgeS3Buckets _ => trivial
  | deleteS3Buckets _ => trivial
  | deleteDynamoDbTable _ => trivial

end Returned

/-! ## The tasks that run after it -/

/-- **A task that was not configured to undo** what another has set up leaves it standing,
however it ends. -/
theorem provides_kept {other task : AwsTask} (hnot : ¬ other.Undoes env task)
    (h : task.Provides env s) : task.Provides env (other.run env sched s).2 := by
  have hmessaging : MessagingKept (other.messagingRights env) ∅ s.messaging
      (other.run env sched s).2.messaging :=
    (run_evolves other s).keeps fun _ s hc => kept_of_allowed hc s
  have hbuckets : BucketsKept other.bucketRights s.buckets (other.run env sched s).2.buckets :=
    (run_evolves_buckets other s).keeps fun _ s hc => bucketsKept_of_allowed hc _ s
  have htables : TablesKept other.tableRights s.tables (other.run env sched s).2.tables :=
    (run_evolves_tables other s).keeps fun _ s hc => tablesKept_of_allowed hc _ s
  have hqueue : ∀ c, (s.messaging.queues c).isSome →
      ((other.run env sched s).2.messaging.queues c).isSome := by
    intro c hc
    obtain ⟨q, hq⟩ := Option.isSome_iff_exists.mp hc
    obtain ⟨q', hq', -⟩ := hmessaging.queue c q hq
    rw [hq']
    rfl
  cases task with
  | createSqsQueues task => exact fun c hc => hqueue c (h c hc)
  | createSqsQueueWithDlq task =>
    obtain ⟨hdlq, policy, hwrite, q, hq, hcarries⟩ := h
    obtain ⟨q', hq', hkept⟩ := hmessaging.queue task.queueName q hq
    refine ⟨hqueue _ hdlq, policy, hwrite, q', hq', ?_⟩
    have hget : ∀ key, q'.attributes.get key = q.attributes.get key :=
      fun key => hkept.attributes hnot key (Set.notMem_empty key)
    rw [AttributeMap.carries_iff] at hcarries ⊢
    intro key value hvalue
    rw [hget]
    exact hcarries key value hvalue
  | createSnsTopicWithSqsEndpoint task =>
    obtain ⟨hpresent, topic, ht, hendpoint⟩ := h
    obtain ⟨topic', ht', hprefix⟩ := hmessaging.topic task.topicName topic ht hnot
    exact ⟨hqueue _ hpresent, topic', ht', hprefix.subset hendpoint⟩
  | createS3Buckets task =>
    intro b hb
    obtain ⟨bkt, hbkt⟩ := Option.isSome_iff_exists.mp (h b hb)
    obtain ⟨bkt', hbkt', -⟩ := (hbuckets b).undeleted (fun hdelete => hnot ⟨b, hb, hdelete⟩)
      bkt hbkt
    rw [show _ = some bkt' from hbkt']
    rfl
  | createDynamoDbTable task =>
    obtain ⟨table, htable, hname⟩ := List.mem_map.mp h
    have hkept := htables.kept table htable (by rwa [hname])
    exact List.mem_map.mpr ⟨table, hkept, hname⟩
  | publishSqs _ => trivial
  | purgeSqsQueues _ => trivial
  | deleteSnsTopic _ => trivial
  | purgeS3Buckets _ => trivial
  | deleteS3Buckets _ => trivial
  | deleteDynamoDbTable _ => trivial

/-! ## Builds of `startLocalStack` -/

section Builds

variable {build : Build} {task : AwsTask} {names : List String}

/-- The tasks of a build that ran after one that has set something up, and after `composeUp`. -/
theorem provides_after (hcompose : "composeUp" ∉ names)
    (hnot : ∀ name ∈ names, ∀ other, build.task name = some other →
      ¬ other.Undoes build.env task)
    (h : task.Provides build.env s) (hrun : build.run names s = (.returned (), s')) :
    task.Provides build.env s' := by
  induction names generalizing s with
  | nil =>
    cases hrun
    exact h
  | cons name names ih =>
    obtain ⟨s₁, hone, hrest⟩ := Build.run_cons_returned hrun
    have hne : name ≠ "composeUp" := fun heq => hcompose (heq ▸ List.mem_cons_self)
    refine ih (fun hmem => hcompose (List.mem_cons_of_mem name hmem))
      (fun n hn => hnot n (List.mem_cons_of_mem name hn)) ?_ hrest
    rw [Build.runTask, if_neg hne] at hone
    cases hother : build.task name with
    | none =>
      rw [hother] at hone
      cases hone
      exact h
    | some other =>
      rw [hother] at hone
      have hkept : task.Provides build.env (other.run build.env (build.sched name) s).2 :=
        provides_kept (hnot name List.mem_cons_self other hother) h
      rwa [show other.run build.env (build.sched name) s = _ from hone] at hkept

/-- Tasks that return and change nothing. -/
theorem run_idle (h : ∀ name ∈ names, build.runTask name s = (.returned (), s)) :
    build.run names s = (.returned (), s) := by
  induction names with
  | nil => rfl
  | cons name names ih =>
    rw [Build.run, h name List.mem_cons_self]
    exact ih fun n hn => h n (List.mem_cons_of_mem name hn)

/-- The tasks with an action are as their classes make them: a setup task carries the
annotation, and every other one must run after `startLocalStack`.
SRC: aws/sns/DeleteSnsTopicTask.java:34, aws/dynamodb/DeleteDynamoDbTableTask.java:35,
aws/sqs/PurgeSqsQueuesTask.java:40, aws/sqs/PublishSqsTask.java:51,
aws/s3/PurgeS3BucketsTask.java:41, aws/s3/DeleteS3BucketsTask.java:49 -/
structure FitsProject (build : Build) (project : Project) : Prop where
  known : ∀ name task, build.task name = some task → name ∈ project.tasks.names
  annotated : ∀ t ∈ project.tasks.tasks, ∀ task, build.task t.name = some task →
    task.isSetup = t.localStackSetupTask
  after : ∀ t ∈ project.tasks.tasks, ∀ task, build.task t.name = some task →
    task.isSetup = false → "startLocalStack" ∈ t.mustRunAfter

/-- No two tasks give a redrive policy to one queue. -/
def LinksOnce (build : Build) : Prop :=
  ∀ name name' task task', build.task name = some (.createSqsQueueWithDlq task) →
    build.task name' = some (.createSqsQueueWithDlq task') → task.queueName = task'.queueName →
    name = name'

/-- When a build of `startLocalStack` has returned, all that its setup tasks set up is there:
in each order that Gradle may choose, whatever `composeUp` does, whatever failures the tasks
met, and whatever there was before. -/
def SetupEstablished (project loaded : Project) : Prop :=
  ∀ order, (taskGraph loaded.tasks.tasks).ExecutionOrder "startLocalStack" order →
    ∀ build : Build, FitsProject build project → LinksOnce build →
    ∀ s s', build.run order s = (.returned (), s') →
    ∀ t ∈ project.tasks.tasks, ∀ task, build.task t.name = some task → task.isSetup = true →
      task.Provides build.env s'

/-- A setup task undoes what another has set up only by linking the same queue. -/
theorem not_undoes_of_setup {name name' : String} {other : AwsTask} (hlinks : LinksOnce build)
    (htask : build.task name = some task) (hother : build.task name' = some other)
    (hne : name ≠ name') (hsetup : other.isSetup = true) : ¬ other.Undoes build.env task := by
  intro hundoes
  cases other with
  | createSqsQueueWithDlq other =>
    cases task with
    | createSqsQueueWithDlq task => exact hne (hlinks _ _ _ _ htask hother hundoes)
    | createS3Buckets task =>
      obtain ⟨b, -, hb⟩ := hundoes
      exact hb
    | _ => exact hundoes
  | createSqsQueues _ | createSnsTopicWithSqsEndpoint _ | createS3Buckets _
  | createDynamoDbTable _ =>
    cases task with
    | createS3Buckets task =>
      obtain ⟨b, -, hb⟩ := hundoes
      exact hb
    | _ => exact hundoes
  | _ => cases hsetup

end Builds

/-! ### A build whose `composeUp` starts afresh -/

/-- An environment that holds nothing. -/
def emptyLocalStack : LocalStack := ⟨⟨fun _ => none, fun _ => none⟩, fun _ => none, ⟨[], .nil⟩⟩

/-- An environment to try the result on. -/
def sampleEnvironment : Environment where
  addresses := sampleAddresses
  s3PageSize := 1
  s3PageSize_pos := Nat.one_pos
  dynamoDbPageSize := 1
  dynamoDbPageSize_pos := Nat.one_pos
  project := sampleProject
  mapper := sampleMapper

/-- The task of the given name creates a bucket, and `composeUp` starts afresh. -/
def freshBuild (name : String) : Build where
  env := sampleEnvironment
  composeUp _ := emptyLocalStack
  task n := if n = name then some (.createS3Buckets ⟨some ["uploads"]⟩) else none
  sched _ := .clear

section FreshBuilds

variable {name : String} {order : List String}

/-- The only task of the build is the one that it was made for. -/
theorem freshBuild_task {n : String} {task : AwsTask}
    (h : (freshBuild name).task n = some task) :
    n = name ∧ task = .createS3Buckets ⟨some ["uploads"]⟩ := by
  by_cases heq : n = name
  · refine ⟨heq, ?_⟩
    have hmine : (freshBuild name).task n = some (.createS3Buckets ⟨some ["uploads"]⟩) :=
      if_pos heq
    exact (Option.some.inj (hmine.symm.trans h)).symm
  · have hnone : (freshBuild name).task n = none := if_neg heq
    cases hnone.symm.trans h

/-- The build fits a project in which the task is annotated. -/
theorem freshBuild_fits {project : Project} (hmem : name ∈ project.tasks.names)
    (hname : ∀ t ∈ project.tasks.tasks, t.name = name → t.localStackSetupTask = true) :
    FitsProject (freshBuild name) project where
  known n task htask := (freshBuild_task htask).1 ▸ hmem
  annotated t ht task htask := by
    obtain ⟨heq, rfl⟩ := freshBuild_task htask
    exact (hname t ht heq).symm
  after t ht task htask hnot := by
    obtain ⟨-, rfl⟩ := freshBuild_task htask
    cases hnot

/-- The build links no queue. -/
theorem freshBuild_linksOnce : LinksOnce (freshBuild name) := by
  intro x y task task' hx _ _
  cases (freshBuild_task hx).2

/-- Where the bucket is there already, its task returns and changes nothing. -/
theorem freshBuild_idle (hbucket : (s.buckets "uploads").isSome) {n : String}
    (hn : n ≠ "composeUp") : (freshBuild name).runTask n s = (.returned (), s) := by
  rw [Build.runTask, if_neg hn]
  by_cases heq : n = name
  · have htask : (freshBuild name).task n = some (.createS3Buckets ⟨some ["uploads"]⟩) :=
      if_pos heq
    rw [htask]
    have hsome : ∀ c ∈ ["uploads"], (s.buckets c).isSome := by simpa using hbucket
    obtain ⟨hreturned, hsame, -⟩ :=
      Prog.wp_returns (wp_createBuckets_rerun (sampleEnvironment.amazonS3 .clear) hsome)
    exact Prod.ext hreturned (congrArg (fun b => (⟨s.messaging, b, s.tables⟩ : LocalStack)) hsame)
  · have htask : (freshBuild name).task n = none := if_neg heq
    rw [htask]

/-- A build that starts afresh after its setup task ends with nothing. -/
theorem freshBuild_run (hbucket : (s.buckets "uploads").isSome) {before after : List String}
    (hbefore : "composeUp" ∉ before) (hafter : "composeUp" ∉ after) (hname : name ∉ after) :
    (freshBuild name).run (before ++ "composeUp" :: after) s =
      (.returned (), emptyLocalStack) := by
  have hfirst : (freshBuild name).run before s = (.returned (), s) :=
    run_idle fun n hn => freshBuild_idle hbucket fun heq => hbefore (heq ▸ hn)
  have hlast : (freshBuild name).run after emptyLocalStack = (.returned (), emptyLocalStack) := by
    refine run_idle fun n hn => ?_
    have hne : n ≠ "composeUp" := fun heq => hafter (heq ▸ hn)
    have hother : n ≠ name := fun heq => hname (heq ▸ hn)
    have htask : (freshBuild name).task n = none := if_neg hother
    rw [Build.runTask, if_neg hne, htask]
  rw [Build.run_append hfirst, Build.run]
  exact hlast

end FreshBuilds

/-! ### What the order of the tasks gives -/

/-- Every annotated task is part of a build of `startLocalStack`. -/
theorem setup_required {project : Project} {t : GradleTask} (ht : t ∈ project.tasks.tasks)
    (hsetup : t.localStackSetupTask = true) :
    (loadedGraph project).Required "startLocalStack" t.name := by
  apply TaskGraph.Required.refl.tail
  apply startLocalStack_dependsOn
  right
  exact List.mem_map_of_mem (List.mem_filter.mpr ⟨ht, hsetup⟩)

/-- Of the tasks with an action, only setup tasks are part of a build of `startLocalStack`. -/
theorem isSetup_of_mem_order {project : Project} {build : Build} {order : List String}
    (hfits : FitsProject build project)
    (horder : (loadedGraph project).ExecutionOrder "startLocalStack" order) {name : String}
    (hname : name ∈ order) {task : AwsTask} (htask : build.task name = some task) :
    task.isSetup = true ∧ ∃ t ∈ project.tasks.tasks, t.name = name := by
  obtain ⟨t, ht, rfl⟩ := List.mem_map.mp (hfits.known name task htask)
  refine ⟨?_, t, ht, rfl⟩
  by_contra hnot
  rw [Bool.not_eq_true] at hnot
  exact horder.not_mem_of_after_target ⟨t, List.mem_append_left _ ht, rfl,
    hfits.after t ht task htask hnot⟩ hname

/-- Where each annotated task comes after `composeUp`, nothing of the build undoes what it has
set up. -/
theorem setupEstablished_of_follows {project : Project} {order : List String}
    (hfollows : SetupFollowsComposeUp project)
    (horder : (loadedGraph project).ExecutionOrder "startLocalStack" order) {build : Build}
    (hfits : FitsProject build project) (hlinks : LinksOnce build) {s s' : LocalStack}
    (hrun : build.run order s = (.returned (), s')) {t : GradleTask} (ht : t ∈ project.tasks.tasks)
    {task : AwsTask} (htask : build.task t.name = some task) (hissetup : task.isSetup = true) :
    task.Provides build.env s' := by
  have hsetup : t.localStackSetupTask = true := hfits.annotated t ht task htask ▸ hissetup
  have hcomposeFirst : Before order "composeUp" t.name :=
    horder.before_of_follows (hfollows horder.schedulable t ht hsetup)
  obtain ⟨before, after, hsplit⟩ :=
    List.append_of_mem ((horder.mem_iff _).mpr (setup_required ht hsetup))
  have hnodup := horder.nodup
  have hlater : ∀ n ∈ after, Before order t.name n := by
    intro n hn
    rw [hsplit]
    exact Before.append_cons hn
  have hmem : ∀ n ∈ after, n ∈ order := by
    intro n hn
    rw [hsplit]
    exact List.mem_append_right _ (List.mem_cons_of_mem _ hn)
  rw [hsplit] at hrun
  obtain ⟨s₁, -, hrest⟩ := Build.run_append_returned hrun
  obtain ⟨s₂, hone, hafter⟩ := Build.run_cons_returned hrest
  have hne : t.name ≠ "composeUp" := by
    intro heq
    rw [heq] at hcomposeFirst
    exact Before.irrefl hnodup hcomposeFirst
  rw [Build.runTask, if_neg hne, htask] at hone
  refine provides_after ?_ ?_ (provides_of_returned hone) hafter
  · intro hcompose
    exact Before.irrefl hnodup (hcomposeFirst.trans hnodup (hlater _ hcompose))
  · intro n hn other hother
    have hlast : t.name ≠ n := by
      intro heq
      exact Before.irrefl hnodup (heq ▸ hlater n hn)
    obtain ⟨hothersetup, -⟩ := isSetup_of_mem_order hfits horder (hmem n hn) hother
    exact not_undoes_of_setup hlinks htask hother hlast hothersetup

/-- **When `startLocalStack` finds everything set up**: if and only if the build script puts
each annotated task after `composeUp`.
SRC: compose/LocalStackModule.java:62-71, 123-139 -/
theorem setup_established_iff {cwd : Path} {files : FileSystem} {project loaded : Project}
    (hload : LocalStackModule.load cwd files project = .ok loaded) :
    SetupEstablished project loaded ↔ SetupFollowsComposeUp project := by
  have htasks := load_tasks hload
  have hcompose : (loadedGraph project).Required "startLocalStack" "composeUp" :=
    TaskGraph.Required.refl.tail (startLocalStack_dependsOn (.inl rfl))
  unfold SetupEstablished
  rw [htasks]
  constructor
  · intro hestablished hschedulable t ht hsetup
    refine (TaskGraph.runs_before_iff (setup_required ht hsetup) hcompose).mp ?_ hschedulable
    intro order horder
    by_contra hnot
    -- cut the order at `composeUp`: the task is not behind it
    obtain ⟨before, after, hsplit⟩ := List.append_of_mem ((horder.mem_iff _).mpr hcompose)
    have hnodup := horder.nodup
    rw [hsplit] at hnot hnodup
    have hname : t.name ∉ after := fun hmem => hnot (Before.append_cons hmem)
    obtain ⟨hbefore, hafter⟩ : "composeUp" ∉ before ∧ "composeUp" ∉ after := by
      simp only [List.nodup_append, List.nodup_cons] at hnodup
      exact ⟨fun hmem => (hnodup.2.2 _ hmem _ List.mem_cons_self) rfl, hnodup.2.1.1⟩
    have hunique : ∀ t' ∈ project.tasks.tasks, t'.name = t.name →
        t'.localStackSetupTask = true := by
      intro t' ht' heq
      rw [List.inj_on_of_nodup_map project.tasks.nodup ht' ht heq]
      exact hsetup
    let s : LocalStack := { emptyLocalStack with
      buckets := Function.update (fun _ => none) "uploads" (some .empty) }
    have hbucket : (s.buckets "uploads").isSome := by simp [s]
    have hrun := @freshBuild_run s t.name hbucket _ _ hbefore hafter hname
    rw [← hsplit] at hrun
    have hfits := freshBuild_fits (List.mem_map_of_mem ht) hunique
    have hprovides := hestablished order horder (freshBuild t.name) hfits freshBuild_linksOnce
      s _ hrun t ht _ (if_pos rfl) rfl
    have hnothing := hprovides "uploads" ⟨_, rfl, List.mem_cons_self⟩
    cases hnothing
  · intro hfollows order horder build hfits hlinks s s' hrun t ht task htask hissetup
    exact setupEstablished_of_follows hfollows horder hfits hlinks hrun ht htask hissetup

/-- A task that declares that it needs `composeUp` comes after it. -/
theorem bucketsProject_follows : SetupFollowsComposeUp (bucketsProject ["composeUp"]) := by
  intro _ task htask hsetup
  obtain rfl : task = ⟨"createBuckets", ["composeUp"], [], true⟩ := by
    simp only [bucketsProject, List.mem_cons, List.not_mem_nil, or_false] at htask
    obtain rfl | rfl | rfl | rfl | rfl := htask
    · cases hsetup
    · cases hsetup
    · cases hsetup
    · cases hsetup
    · rfl
  apply Relation.TransGen.single
  apply TaskGraph.Waits.of_dependsOn
  · exact TaskGraph.Required.refl.tail (startLocalStack_dependsOn (.inr (by decide)))
  · exact ⟨_, List.mem_append_left _ htask, rfl, List.mem_singleton_self _⟩

/-- It has created its buckets when `startLocalStack` is reached. -/
theorem buckets_established_when_composeUp_declared :
    ∃ loaded, LocalStackModule.load [] FileSystem.blank (bucketsProject ["composeUp"]) =
      .ok loaded ∧ SetupEstablished (bucketsProject ["composeUp"]) loaded :=
  ⟨_, rfl, (@setup_established_iff [] FileSystem.blank (bucketsProject ["composeUp"]) _ rfl).mpr
    bucketsProject_follows⟩

end GradleLocalstack.Analysis
