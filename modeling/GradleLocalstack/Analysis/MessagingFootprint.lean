import Mathlib.Data.Set.Basic
import GradleLocalstack.Analysis.MessagingService
import GradleLocalstack.Foundation.Footprint
import GradleLocalstack.Program.AwsTasks

/-!
# What a task may do to the queues and topics

`MessagingRights` lists what a task was configured to touch, and `Allows` the calls that keep
to it.  Each task makes only calls that its rights allow, under every schedule of failures
and however its run ends; so it keeps whatever such calls keep (`MessagingKept`).
-/

set_option autoImplicit false

namespace GradleLocalstack.Analysis

open Foundation GradleLocalstack.Model GradleLocalstack.Program

/-! ## Retried blocks -/

section Retry

variable {ω α : Type} [Console ω] {R : ω → ω → Prop} [IsPreorder ω R] {Q : α → Prop}
  {fn : Prog ω Throwable α}

/-- Retrying a block does nothing but what the block does. -/
theorem within_execute (hemit : ∀ o w, R w (Console.emit o w)) (hfn : Prog.Within R Q fn)
    (maxRetries : ℤ) (expectedErrors : List JavaClass) :
    Prog.Within R Q (Retry.execute fn maxRetries expectedErrors) := by
  have hwait : ∀ attempt, Prog.Within R (fun _ => True)
      (Retry.doWait attempt : Prog ω Throwable Unit) :=
    fun attempt => .update fun w => hemit _ w
  have hlog : ∀ text, Prog.Within R (fun _ => True) (log text : Prog ω Throwable Unit) :=
    fun text => .update fun w => hemit _ w
  have hhandler : ∀ attempt t, Prog.Within R (fun _ => True)
      (Retry.handleException attempt t expectedErrors : Prog ω Throwable Unit) := by
    intro attempt t
    unfold Retry.handleException
    refine .seq (hlog _) fun _ => ?_
    split
    · exact .seq (.throw _) fun _ => .seq (hwait _) fun _ => hlog _
    · exact .seq (hwait _) fun _ => hlog _
  unfold Retry.execute
  generalize maxRetries.toNat = remaining
  generalize 0 = attempt
  induction remaining generalizing attempt with
  | zero => exact .throw _
  | succ remaining ih =>
    rw [Retry.executeFrom]
    exact .tryCatch hfn fun t => .seq (hhandler attempt t) fun _ => ih (attempt + 1)

end Retry

/-! ## Rights -/

/-- Which queues and topics may be touched, and how: created, sent to, given attributes,
purged; created or subscribed to, deleted. -/
structure MessagingRights where
  create : Set String
  send : Set String
  relink : Set String
  purge : Set String
  createTopic : Set String
  deleteTopic : Set String

namespace MessagingRights

/-- The call keeps to the rights. -/
def Allows (rights : MessagingRights) (addresses : Addresses) : MessagingCall → Prop
  | .getQueueUrl _ => True
  | .createQueue request => request.queueName ∈ rights.create
  | .sendMessage queueUrl _ => ∀ c ∈ addresses.queueUrls.resolve queueUrl, c ∈ rights.send
  | .setQueueAttributes queueUrl _ =>
    ∀ c ∈ addresses.queueUrls.resolve queueUrl, c ∈ rights.relink
  | .purgeQueue queueUrl => ∀ c ∈ addresses.queueUrls.resolve queueUrl, c ∈ rights.purge
  | .createTopic name => name ∈ rights.createTopic
  | .subscribeQueue topicArn _ =>
    ∀ n ∈ addresses.topicArns.resolve topicArn, n ∈ rights.createTopic
  | .deleteTopic topicArn => ∀ n ∈ addresses.topicArns.resolve topicArn, n ∈ rights.deleteTopic

end MessagingRights

/-- What the names of a list that may be `null` allow. -/
def namesOf (names : Option (List String)) : Set String := { c | ∃ l, names = some l ∧ c ∈ l }

end GradleLocalstack.Analysis

namespace GradleLocalstack.Program.AwsTask

open GradleLocalstack.Analysis

/-- The rights of a task, from its configuration. -/
def messagingRights (env : Environment) : AwsTask → MessagingRights
  | createSqsQueues task => ⟨namesOf task.queueNames, ∅, ∅, ∅, ∅, ∅⟩
  | createSqsQueueWithDlq task =>
    ⟨{task.queueName, task.getDeadletterQueueName}, ∅, {task.queueName}, ∅, ∅, ∅⟩
  | publishSqs task => ⟨∅, namesOf task.queueNames, ∅, ∅, ∅, ∅⟩
  | purgeSqsQueues task => ⟨∅, ∅, ∅, namesOf task.queueNames, ∅, ∅⟩
  | createSnsTopicWithSqsEndpoint task => ⟨{task.getQueueName}, ∅, ∅, ∅, {task.topicName}, ∅⟩
  | deleteSnsTopic task => ⟨∅, ∅, ∅, ∅, ∅,
      { n | env.addresses.topicArns.resolve
        (SnsTaskUtil.getTopicArn env.project task.topicName) = some n }⟩
  | _ => ⟨∅, ∅, ∅, ∅, ∅, ∅⟩

end GradleLocalstack.Program.AwsTask

namespace GradleLocalstack.Analysis

open Foundation GradleLocalstack.Model GradleLocalstack.Program

/-! ## The calls of each task -/

section Calls

variable {client : MessagingClient} {rights : MessagingRights} {name : String}

/-- The rights allow all calls of the program; what it returns satisfies `Q`. -/
abbrev KeepsTo (rights : MessagingRights) (client : MessagingClient) {α : Type} (Q : α → Prop)
    (m : Prog MessagingWorld Throwable α) : Prop :=
  m.Within (StoreEvolves (Messaging.service client.addresses) (rights.Allows client.addresses)) Q

/-- A retried block makes the calls of its attempts. -/
theorem keepsTo_execute {α : Type} {Q : α → Prop} {fn : Prog MessagingWorld Throwable α}
    (hfn : KeepsTo rights client Q fn) (maxRetries : ℤ) (expectedErrors : List JavaClass) :
    KeepsTo rights client Q (Retry.execute fn maxRetries expectedErrors) :=
  within_execute (fun _ w => refl_of (Evolves _ _) w.store) hfn maxRetries expectedErrors

/-- Printing is no call. -/
theorem keepsTo_log (text : String) : KeepsTo rights client (fun _ => True) (log text) :=
  within_log text

/-- What a call that is allowed adds, when nothing is asked of its answer. -/
theorem keepsTo_invoke {c : MessagingCall} (hc : rights.Allows client.addresses c) :
    KeepsTo rights client (fun _ => True) (client.invoke c) :=
  (within_call hc client.sched).mono (fun _ _ h => h) fun _ _ => trivial

/-- The URL that is answered is that of the queue. -/
theorem keepsTo_getQueueUrl (name : String) :
    KeepsTo rights client (fun url => url = client.addresses.queueUrls.address name)
      (client.getQueueUrl name) := by
  have hcall : rights.Allows client.addresses (.getQueueUrl name) := trivial
  refine (within_call hcall client.sched).mono (fun _ _ h => h) ?_
  rintro url ⟨s, s', hx⟩
  cases hq : s.queues name with
  | none =>
    have hrefused : (Messaging.service client.addresses).exec (.getQueueUrl name) s =
        (.error Messaging.queueDoesNotExist, s) := getQueueUrl_of_none hq
    rw [hrefused] at hx
    cases congrArg Prod.fst hx
  | some q =>
    have hanswer : (Messaging.service client.addresses).exec (.getQueueUrl name) s =
        (.ok (client.addresses.queueUrls.address name), s) := getQueueUrl_of_some hq
    rw [hanswer] at hx
    cases hx
    rfl

/-- Looking for a queue needs no right. -/
theorem keepsTo_queueExists (name : String) :
    KeepsTo rights client (fun _ => True) (SqsTaskUtil.queueExists client name) := by
  unfold SqsTaskUtil.queueExists
  refine .tryCatch (.bind (keepsTo_getQueueUrl name) fun _ _ => .pure trivial) fun t => ?_
  split
  · exact .pure trivial
  · exact .throw t

/-- The URL of a queue resolves to that queue only. -/
theorem eq_of_resolve_queueUrl {c : String}
    (hc : c ∈ client.addresses.queueUrls.resolve (client.addresses.queueUrls.address name)) :
    c = name := by
  rw [client.addresses.queueUrls.resolve_address] at hc
  exact (Option.some.inj hc).symm

/-- The ARN of a topic addresses no other. -/
theorem eq_of_resolve_topicArn {n : String}
    (hn : n ∈ client.addresses.topicArns.resolve (client.addresses.topicArns.address name)) :
    n = name := by
  rw [client.addresses.topicArns.resolve_address] at hn
  exact (Option.some.inj hn).symm

/-- The ARN that is answered is that of the topic. -/
theorem keepsTo_createTopic (hname : name ∈ rights.createTopic) :
    KeepsTo rights client (fun arn => arn = client.addresses.topicArns.address name)
      (client.createTopic name) := by
  have hcall : rights.Allows client.addresses (.createTopic name) := hname
  refine (within_call hcall client.sched).mono (fun _ _ h => h) ?_
  rintro arn ⟨s, s', hx⟩
  obtain ⟨t, ht⟩ := createTopic_eq client.addresses name s
  rw [show (Messaging.service client.addresses).exec (.createTopic name) s = _ from ht] at hx
  cases hx
  rfl

/-- Creating a queue needs the right to create it. -/
theorem keepsTo_createQueue {queueAttributes : Option AttributeMap} (hname : name ∈ rights.create) :
    KeepsTo rights client (fun _ => True)
      (SqsTaskUtil.createQueue client name queueAttributes) := by
  unfold SqsTaskUtil.createQueue
  rw [createQueueRequest_eq]
  exact keepsTo_invoke hname

/-- Asking for the URLs of queues needs no right; they are those of the names. -/
theorem keepsTo_getQueueUrls (names : List String) :
    KeepsTo rights client (fun urls => urls = names.map client.addresses.queueUrls.address)
      (SqsTaskUtil.getQueueUrls client names) := by
  induction names with
  | nil => exact .pure rfl
  | cons name names ih =>
    unfold SqsTaskUtil.getQueueUrls
    refine .bind (keepsTo_getQueueUrl name) fun url hurl => .bind ih fun urls hurls => .pure ?_
    rw [hurl, hurls, List.map_cons]

/-- **`CreateSqsQueuesTask`** creates queues it lists. -/
theorem keepsTo_createSqsQueues {task : CreateSqsQueuesTask}
    (hrights : namesOf task.queueNames ⊆ rights.create) :
    KeepsTo rights client (fun _ => True) (task.run client) := by
  apply keepsTo_execute
  split
  · rename_i queueNames hnames
    refine .forEach fun name hname => ?_
    unfold CreateSqsQueuesTask.createQueue
    refine .seq (keepsTo_log _) fun _ => .seq (keepsTo_queueExists name) fun queueExists => ?_
    split
    · exact keepsTo_log _
    · rw [createQueueRequest_eq]
      exact .seq (keepsTo_invoke (hrights ⟨queueNames, hnames, hname⟩)) fun _ => keepsTo_log _
  · exact .throw _

/-- **`PurgeSqsQueuesTask`** purges queues it lists. -/
theorem keepsTo_purgeSqsQueues {task : PurgeSqsQueuesTask}
    (hrights : namesOf task.queueNames ⊆ rights.purge) :
    KeepsTo rights client (fun _ => True) (task.run client) := by
  apply keepsTo_execute
  split
  · rename_i first queueNames hnames
    refine .forEach fun name hname => ?_
    have hpurge : ∀ c ∈ client.addresses.queueUrls.resolve
        (client.addresses.queueUrls.address name), c ∈ rights.purge := by
      intro c hc
      rw [eq_of_resolve_queueUrl hc]
      exact hrights ⟨first :: queueNames, hnames, hname⟩
    unfold PurgeSqsQueuesTask.purgeQueue
    refine .seq (keepsTo_log _) fun _ => .seq (keepsTo_queueExists name) fun queueExists => ?_
    have hrest : KeepsTo rights client (fun _ => True) (do
        let queueUrl ← client.getQueueUrl name
        client.purgeQueue queueUrl
        log s!"Purged SQS queue: {name}") := by
      refine .bind (keepsTo_getQueueUrl name) fun queueUrl hurl => ?_
      rw [hurl]
      exact .seq (keepsTo_invoke hpurge) fun _ => keepsTo_log _
    split
    · exact .seq (.throw _) fun _ => hrest
    · exact hrest
  · exact keepsTo_log _

/-- Sending to queues that may be sent to. -/
theorem keepsTo_publishLine {names : List String} (hnames : ∀ c ∈ names, c ∈ rights.send)
    (line : String) :
    KeepsTo rights client (fun _ => True) (PublishSqsTask.publishLine client
      (names.map client.addresses.queueUrls.address) line) := by
  unfold PublishSqsTask.publishLine
  split
  · exact .pure trivial
  · refine .forEach fun queueUrl hurl => ?_
    obtain ⟨c, hc, rfl⟩ := List.mem_map.mp hurl
    apply keepsTo_invoke
    intro d hd
    rw [eq_of_resolve_queueUrl hd]
    exact hnames c hc

/-- Reading a source makes the calls that its body makes. -/
theorem keepsTo_openAndRead {α : Type} {body : α → Prog MessagingWorld Throwable Unit}
    (hbody : ∀ a, KeepsTo rights client (fun _ => True) (body a))
    (source : Except JavaException (Source α)) :
    KeepsTo rights client (fun _ => True) (PublishSqsTask.openAndRead body source) := by
  unfold PublishSqsTask.openAndRead PublishSqsTask.readAll
  split
  · exact .throw _
  · refine .seq (.forEach fun a _ => hbody a) fun _ => ?_
    split
    · exact .throw _
    · exact .pure trivial

/-- **`PublishSqsTask`** sends to queues it lists. -/
theorem keepsTo_publishSqs {task : PublishSqsTask}
    (hrights : namesOf task.queueNames ⊆ rights.send) :
    KeepsTo rights client (fun _ => True) (task.run client) := by
  apply keepsTo_execute
  split
  · rename_i first queueNames hnames
    have hsend : ∀ c ∈ first :: queueNames, c ∈ rights.send :=
      fun c hc => hrights ⟨first :: queueNames, hnames, hc⟩
    refine .bind (keepsTo_getQueueUrls _) fun queueUrls hurls => ?_
    rw [hurls]
    split
    · refine .forEach fun messageFile _ => ?_
      have hentry : ∀ te, KeepsTo rights client (fun _ => True) (PublishSqsTask.processEntry
          client ((first :: queueNames).map client.addresses.queueUrls.address) te) := by
        intro te
        unfold PublishSqsTask.processEntry
        split
        · exact .pure trivial
        · exact keepsTo_openAndRead (keepsTo_publishLine hsend) (.ok te.lines)
      unfold PublishSqsTask.publishFile PublishSqsTask.processArchive PublishSqsTask.processFile
      refine .tryCatch ?_ fun e => ?_
      · split
        · exact .seq (keepsTo_log _) fun _ => keepsTo_openAndRead hentry _
        · exact .seq (keepsTo_log _) fun _ =>
            keepsTo_openAndRead (keepsTo_publishLine hsend) _
      · split
        · exact keepsTo_log _
        · exact .throw _
    · exact .throw _
  · exact keepsTo_log _

/-- **`DeleteSnsTopicTask`** deletes the topic it names. -/
theorem keepsTo_deleteSnsTopic {task : DeleteSnsTopicTask} {project : Project}
    (hrights : ∀ n ∈ client.addresses.topicArns.resolve
      (SnsTaskUtil.getTopicArn project task.topicName), n ∈ rights.deleteTopic) :
    KeepsTo rights client (fun _ => True) (task.run client project) := by
  apply keepsTo_execute
  unfold DeleteSnsTopicTask.attempt
  refine .tryCatch (.seq (keepsTo_log _) fun _ => .seq (keepsTo_invoke hrights) fun _ =>
    keepsTo_log _) fun e => ?_
  split
  · exact keepsTo_log _
  · exact .throw _

/-- The first block of `CreateSnsTopicWithSqsEndpointTask` hands on the URL of its queue, or
`null`. -/
theorem keepsTo_createEndpoint {task : CreateSnsTopicWithSqsEndpointTask}
    (hqueue : task.getQueueName ∈ rights.create) :
    KeepsTo rights client
      (fun url => ∀ u ∈ url, u = client.addresses.queueUrls.address task.getQueueName)
      (task.createEndpoint client) := by
  unfold CreateSnsTopicWithSqsEndpointTask.createEndpoint
  refine .seq (keepsTo_queueExists _) fun queueExists => ?_
  split
  · refine .seq (keepsTo_log _) fun _ => .pure ?_
    rintro u ⟨⟩
  · refine .seq (keepsTo_log _) fun _ => .seq (keepsTo_createQueue hqueue) fun _ =>
      .seq (keepsTo_log _) fun _ => .bind (keepsTo_getQueueUrl _) fun url hurl => .pure ?_
    rintro u ⟨⟩
    exact hurl

/-- The second block hands on the ARN of its topic. -/
theorem keepsTo_createTopicBlock {task : CreateSnsTopicWithSqsEndpointTask}
    (htopic : task.topicName ∈ rights.createTopic) :
    KeepsTo rights client (fun arn => arn = client.addresses.topicArns.address task.topicName)
      (task.createTopic client) := by
  unfold CreateSnsTopicWithSqsEndpointTask.createTopic
  exact .seq (keepsTo_log _) fun _ => .bind (keepsTo_createTopic htopic) fun arn harn =>
    .seq (keepsTo_log _) fun _ => .pure harn

/-- **`CreateSnsTopicWithSqsEndpointTask`** creates its queue and its topic, and subscribes to
that topic. -/
theorem keepsTo_createSnsTopic {task : CreateSnsTopicWithSqsEndpointTask}
    (hqueue : task.getQueueName ∈ rights.create) (htopic : task.topicName ∈ rights.createTopic) :
    KeepsTo rights client (fun _ => True) (task.run client) := by
  unfold CreateSnsTopicWithSqsEndpointTask.run
  refine .bind (keepsTo_execute (keepsTo_createEndpoint hqueue) _ _) fun url _ =>
    .bind (keepsTo_execute (keepsTo_createTopicBlock htopic) _ _) fun topicArn harn => ?_
  apply keepsTo_execute
  unfold CreateSnsTopicWithSqsEndpointTask.subscribe
  rw [harn]
  refine .seq (keepsTo_invoke fun n hn => ?_) fun _ => keepsTo_log _
  rw [eq_of_resolve_topicArn hn]
  exact htopic

/-! ### The task with the dead-letter queue -/

open CreateSqsQueueWithDlqTask (TaskWorld)

variable {task : CreateSqsQueueWithDlqTask}

/-- The two tasks create the same queues. -/
def SameQueues (task task' : CreateSqsQueueWithDlqTask) : Prop :=
  task'.queueName = task.queueName ∧
    task'.getDeadletterQueueName = task.getDeadletterQueueName

/-- In a world in which the fields name the queues of `task`, they go on doing so, and the
store changes by calls that the rights allow. -/
def TaskEvolves (rights : MessagingRights) (client : MessagingClient)
    (task : CreateSqsQueueWithDlqTask) (w w' : TaskWorld) : Prop :=
  SameQueues task w.2 → SameQueues task w'.2 ∧
    StoreEvolves (Messaging.service client.addresses) (rights.Allows client.addresses) w.1 w'.1

/-- Evolving from the task's own fields is reflexive and transitive. -/
instance : IsPreorder TaskWorld (TaskEvolves rights client task) where
  refl w h := ⟨h, refl_of (StoreEvolves _ _) w.1⟩
  trans w₁ w₂ w₃ h₁ h₂ h := by
    obtain ⟨hsame, hstore⟩ := h₁ h
    obtain ⟨hsame', hstore'⟩ := h₂ hsame
    exact ⟨hsame', trans_of (StoreEvolves _ _) hstore hstore'⟩

/-- A block of the client alone. -/
theorem within_task_of_keepsTo {α : Type} {Q : α → Prop} {m : Prog MessagingWorld Throwable α}
    (h : KeepsTo rights client Q m) :
    (Prog.onFirst m).Within (TaskEvolves rights client task) Q :=
  .onFirst h fun _ _ _ hstore hsame => ⟨hsame, hstore⟩

/-- Printing is no call and leaves the fields. -/
theorem within_task_log (text : String) :
    (log text : Prog TaskWorld Throwable Unit).Within (TaskEvolves rights client task)
      (fun _ => True) :=
  .update fun w h => ⟨h, refl_of (StoreEvolves _ _) w.1⟩

/-- Reading the fields: they name the queues of the task. -/
theorem within_task_fields {f : CreateSqsQueueWithDlqTask → Prog TaskWorld Throwable Unit}
    (hf : ∀ task', SameQueues task task' →
      (f task').Within (TaskEvolves rights client task) (fun _ => True)) :
    (CreateSqsQueueWithDlqTask.fields >>= f).Within (TaskEvolves rights client task)
      (fun _ => True) := by
  intro w
  refine ⟨?_, fun _ _ => trivial⟩
  intro hsame
  exact (hf w.2 hsame w).1 hsame

/-- Writing the policy assigns the attributes, and nothing else. -/
theorem within_task_putRedrivePolicy
    (mapper : ObjectMapper CreateSqsQueueWithDlqTask.RedrivePolicy) (dlqArn : String) :
    (CreateSqsQueueWithDlqTask.putRedrivePolicy mapper dlqArn).Within
      (TaskEvolves rights client task) (fun _ => True) := by
  have hassign : ∀ attributes, (CreateSqsQueueWithDlqTask.assignQueueAttributes
      attributes).Within (TaskEvolves rights client task) (fun _ => True) :=
    fun attributes => .update fun w h => ⟨h, refl_of (StoreEvolves _ _) w.1⟩
  unfold CreateSqsQueueWithDlqTask.putRedrivePolicy CreateSqsQueueWithDlqTask.fields
  refine .seq (.seq .current fun w => .pure trivial) fun task' => .seq (hassign _) fun _ =>
    .bind (.ofExcept fun _ _ => trivial) fun policy _ => .seq (hassign _) fun _ => .pure trivial

/-- **`CreateSqsQueueWithDlqTask`** creates its two queues, and gives attributes to one. -/
theorem within_createSqsQueueWithDlq (project : Project)
    (mapper : ObjectMapper CreateSqsQueueWithDlqTask.RedrivePolicy)
    (hqueue : task.queueName ∈ rights.create)
    (hdlq : task.getDeadletterQueueName ∈ rights.create)
    (hrelink : task.queueName ∈ rights.relink) :
    (CreateSqsQueueWithDlqTask.run client project mapper).Within
      (TaskEvolves rights client task) (fun _ => True) := by
  have hemit : ∀ o (w : TaskWorld), TaskEvolves rights client task w (Console.emit o w) :=
    fun o w h => ⟨h, refl_of (StoreEvolves _ _) w.1⟩
  refine .seq (within_execute hemit ?_ _ _) fun _ => within_execute hemit ?_ _ _
  · refine within_task_fields fun task' hsame => ?_
    refine .seq (within_task_of_keepsTo (keepsTo_queueExists _)) fun queueExists => ?_
    split
    · exact within_task_log _
    · have hcreate : task'.getDeadletterQueueName ∈ rights.create := hsame.2 ▸ hdlq
      exact .seq (within_task_log _) fun _ =>
        .seq (within_task_of_keepsTo (keepsTo_createQueue hcreate)) fun _ => within_task_log _
  · refine within_task_fields fun task' hsame => ?_
    have hcreate : task'.queueName ∈ rights.create := hsame.1 ▸ hqueue
    have hset : ∀ c ∈ client.addresses.queueUrls.resolve
        (client.addresses.queueUrls.address task'.queueName), c ∈ rights.relink := by
      intro c hc
      rw [eq_of_resolve_queueUrl hc, hsame.1]
      exact hrelink
    refine .seq (within_task_of_keepsTo (keepsTo_queueExists _)) fun queueExists => ?_
    split
    · refine .seq (within_task_log _) fun _ =>
        .bind (within_task_of_keepsTo (keepsTo_getQueueUrl _)) fun queueUrl hurl =>
        .seq (within_task_putRedrivePolicy mapper _) fun queueAttributes => ?_
      rw [hurl]
      exact .seq (within_task_of_keepsTo (keepsTo_invoke hset)) fun _ => within_task_log _
    · exact .seq (within_task_log _) fun _ =>
        .seq (within_task_putRedrivePolicy mapper _) fun queueAttributes =>
        .seq (within_task_of_keepsTo (keepsTo_createQueue hcreate)) fun _ => within_task_log _

end Calls

end GradleLocalstack.Analysis
