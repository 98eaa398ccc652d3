import GradleLocalstack.Analysis.RetryRule
import GradleLocalstack.Analysis.MessagingService

/-!
# The dead-letter link

`CreateSqsQueueWithDlqTask` creates the dead-letter queue in one retried block and links
the main queue to it in another.  The second block creates the main queue with the redrive
policy or sets the policy on it, and an attempt that failed after its effect leaves the
next one on the other branch.  Either way the call that was answered leaves the main queue
with the configured attributes and the policy; the first block touches no queue that
exists, the second none but the main queue.
-/

set_option autoImplicit false

namespace GradleLocalstack.Analysis

open Foundation GradleLocalstack.Model GradleLocalstack.Program
open CreateSqsQueueWithDlqTask (TaskWorld RedrivePolicy getDeadletterQueueName)

/-- **The name of the dead-letter queue** is the configured one, unless that is absent or
empty: then it is the name of the main queue with the default suffix. -/
theorem getDeadletterQueueName_eq_getD (task : CreateSqsQueueWithDlqTask) :
    getDeadletterQueueName task =
      (task.deadletterQueueName.filter fun name => name ≠ "").getD
        (task.queueName ++ "-dlq") := by
  unfold getDeadletterQueueName CreateSqsQueueWithDlqTask.defaultDlqSuffix
  cases task.deadletterQueueName with
  | none => rfl
  | some name => by_cases h : name = "" <;> simp [Option.filter, h]

/-! ## The redrive policy -/

section RedrivePolicies

variable {task task' : CreateSqsQueueWithDlqTask} {w : TaskWorld}

/-- The configured attributes with a redrive policy. -/
def linkedAttributes (task : CreateSqsQueueWithDlqTask) (policy : String) : AttributeMap :=
  (task.queueAttributes.getD .empty).put "RedrivePolicy" policy

/-- The task as a run may leave it: only its attributes differ, and with a redrive policy
they are the same. -/
def SameTask (task task' : CreateSqsQueueWithDlqTask) : Prop :=
  (∃ attributes, task' = { task with queueAttributes := attributes }) ∧
    ∀ policy, linkedAttributes task' policy = linkedAttributes task policy

/-- A task no run has touched. -/
theorem SameTask.refl (task : CreateSqsQueueWithDlqTask) : SameTask task task :=
  ⟨⟨task.queueAttributes, rfl⟩, fun _ => rfl⟩

/-- The main queue keeps its name. -/
theorem SameTask.queueName_eq (h : SameTask task task') : task'.queueName = task.queueName := by
  obtain ⟨⟨attributes, rfl⟩, -⟩ := h
  rfl

/-- The dead-letter queue keeps its name. -/
theorem SameTask.getDeadletterQueueName_eq (h : SameTask task task') :
    getDeadletterQueueName task' = getDeadletterQueueName task := by
  obtain ⟨⟨attributes, rfl⟩, -⟩ := h
  rfl

/-- The attributes may be assigned with any policy put into them. -/
theorem SameTask.assign (h : SameTask task task') {attributes : AttributeMap}
    (hattributes : ∀ policy,
      attributes.put "RedrivePolicy" policy = linkedAttributes task' policy) :
    SameTask task { task' with queueAttributes := some attributes } := by
  obtain ⟨⟨old, rfl⟩, hlinked⟩ := h
  refine ⟨⟨some attributes, rfl⟩, ?_⟩
  intro policy
  exact (hattributes policy).trans (hlinked policy)

/-- **Writing the policy** reads and assigns the attributes of the task, and calls no
service. -/
theorem wp_putRedrivePolicy (mapper : ObjectMapper RedrivePolicy) (dlqArn : String)
    (h : SameTask task w.2) :
    (CreateSqsQueueWithDlqTask.putRedrivePolicy mapper dlqArn).wp
      (fun attributes w' => w'.1 = w.1 ∧ SameTask task w'.2 ∧
        ∃ policy, mapper.writeValueAsString ⟨dlqArn, "1"⟩ = .ok policy ∧
          attributes = linkedAttributes task policy)
      (fun e w' => w'.1 = w.1 ∧ SameTask task w'.2 ∧
        mapper.writeValueAsString ⟨dlqArn, "1"⟩ = .error e) w := by
  unfold CreateSqsQueueWithDlqTask.putRedrivePolicy CreateSqsQueueWithDlqTask.fields
    CreateSqsQueueWithDlqTask.assignQueueAttributes
  simp only [Prog.wp_bind, Prog.wp_current, Prog.wp_pure, Prog.wp_update]
  have hassign : SameTask task
      { w.2 with queueAttributes := some (w.2.queueAttributes.getD .empty) } :=
    h.assign fun _ => rfl
  cases hwrite : mapper.writeValueAsString ⟨dlqArn, "1"⟩ with
  | error e => exact ⟨rfl, hassign, rfl⟩
  | ok policy =>
    refine ⟨rfl, hassign.assign ?_, policy, rfl, h.2 policy⟩
    intro policy'
    exact AttributeMap.put_put policy

end RedrivePolicies

/-! ## What the calls leave alone -/

section Touches

variable {addresses : Addresses} {name : String} {attributes : AttributeMap}
  {s s' : MessagingStore}

/-- From `s` to `s'` no queue but the named one has changed, and that one has not gone. -/
def OnlyTouches (name : String) (s s' : MessagingStore) : Prop :=
  (∀ c, c ≠ name → s'.queues c = s.queues c) ∧
    ((s.queues name).isSome → (s'.queues name).isSome)

/-- Nothing has changed. -/
theorem OnlyTouches.refl (name : String) (s : MessagingStore) : OnlyTouches name s s :=
  ⟨fun _ _ => rfl, fun h => h⟩

/-- A queue that exists still does. -/
theorem OnlyTouches.isSome (h : OnlyTouches name s s') {c : String}
    (hc : (s.queues c).isSome) : (s'.queues c).isSome := by
  by_cases heq : c = name
  · subst heq
    exact h.2 hc
  · rwa [h.1 c heq]

/-- A change of the named queue alone. -/
theorem onlyTouches_update (q : Queue) :
    OnlyTouches name s { s with queues := Function.update s.queues name (some q) } := by
  constructor
  · intro c hc
    exact Function.update_of_ne hc ..
  · intro hname
    exact isSome_update q hname

/-- Creating a queue touches no other. -/
theorem createQueue_touches :
    OnlyTouches name s (Messaging.createQueue addresses ⟨name, attributes⟩ s).2 := by
  cases hq : s.queues name with
  | some q =>
    rw [createQueue_store_of_some hq]
    exact OnlyTouches.refl name s
  | none =>
    rw [createQueue_of_none hq]
    exact onlyTouches_update _

/-- Giving a queue attributes touches no other. -/
theorem setQueueAttributes_touches (h : (s.queues name).isSome) :
    OnlyTouches name s (Messaging.setQueueAttributes addresses
      (addresses.queueUrls.address name) attributes s).2 := by
  obtain ⟨q, hq⟩ := Option.isSome_iff_exists.mp h
  rw [setQueueAttributes_of_some hq]
  exact onlyTouches_update _

end Touches

/-! ## The two blocks -/

section Blocks

variable {client : MessagingClient} {project : Project} {mapper : ObjectMapper RedrivePolicy}
  {task : CreateSqsQueueWithDlqTask} {s s₁ s₂ : MessagingStore} {w : TaskWorld}

/-- Every queue of the first store is in the second as it was. -/
def KeepsQueues (s s₁ : MessagingStore) : Prop :=
  ∀ name q, s.queues name = some q → s₁.queues name = some q

/-- **One attempt at the dead-letter queue**: if it returns, the queue exists. -/
theorem wp_createDeadletterQueue (htask : w.2 = task) (h : KeepsQueues s w.1.store) :
    (CreateSqsQueueWithDlqTask.createDeadletterQueue client).wp
      (fun _ w' => w'.2 = task ∧ KeepsQueues s w'.1.store ∧
        (w'.1.store.queues (getDeadletterQueueName task)).isSome)
      (fun _ w' => w'.2 = task ∧ KeepsQueues s w'.1.store) w := by
  unfold CreateSqsQueueWithDlqTask.createDeadletterQueue CreateSqsQueueWithDlqTask.fields
  simp only [Prog.wp_bind, Prog.wp_current, Prog.wp_pure, Prog.wp_onFirst, htask]
  refine Prog.wp_mono (wp_queueExists (I := fun v => KeepsQueues s v.store) fun _ => h) ?_ ?_
  · intro queueExists w₁ hw₁
    obtain ⟨h₁, hstore, hexists⟩ := hw₁
    cases queueExists with
    | true =>
      refine ⟨rfl, h₁, ?_⟩
      show (w₁.store.queues _).isSome
      rw [hstore]
      exact hexists rfl
    | false =>
      simp only [Bool.false_eq_true, if_false, Prog.wp_bind, wp_log, Prog.wp_onFirst]
      unfold SqsTaskUtil.createQueue
      rw [createQueueRequest_eq]
      refine Prog.wp_mono (wp_call_keeps (I := fun v => KeepsQueues s v.store) ?_ ?_) ?_ ?_
      · intro fault
        exact h₁
      · intro fault name q hq
        exact createQueue_keeps (h₁ name q hq)
      · intro url w₂ hw₂
        obtain ⟨hx, h₂⟩ := hw₂
        obtain ⟨q, hq, -⟩ := createQueue_answered hx
        refine ⟨rfl, h₂, ?_⟩
        show (w₂.store.queues _).isSome
        rw [hq]
        rfl
      · intro e w₂ h₂
        exact ⟨rfl, h₂⟩
  · intro e w₁ hw₁
    obtain ⟨h₁, -⟩ := hw₁
    exact ⟨trivial, h₁⟩

/-- What the second block keeps: the dead-letter queue, as it was if it is not the main
queue. -/
structure Linking (s : MessagingStore) (task : CreateSqsQueueWithDlqTask)
    (s₁ : MessagingStore) : Prop where
  deadletterQueue : (s₁.queues (getDeadletterQueueName task)).isSome
  keeps : getDeadletterQueueName task ≠ task.queueName → ∀ q,
    s.queues (getDeadletterQueueName task) = some q →
      s₁.queues (getDeadletterQueueName task) = some q

/-- The main queue carries the configured attributes and a policy that was written for the
dead-letter queue. -/
def CarriesLink (project : Project) (mapper : ObjectMapper RedrivePolicy)
    (task : CreateSqsQueueWithDlqTask) (s₁ : MessagingStore) : Prop :=
  ∃ policy, mapper.writeValueAsString
      ⟨SqsTaskUtil.getQueueArnFromName project (getDeadletterQueueName task), "1"⟩ = .ok policy ∧
    ∃ q, s₁.queues task.queueName = some q ∧
      q.attributes.carries (linkedAttributes task policy) = true

/-- What touches the main queue alone keeps the dead-letter queue. -/
theorem Linking.touch (h : Linking s task s₁) (htouches : OnlyTouches task.queueName s₁ s₂) :
    Linking s task s₂ := by
  refine ⟨htouches.isSome h.deadletterQueue, ?_⟩
  intro hne q hq
  rw [htouches.1 _ hne]
  exact h.keeps hne q hq

/-- **The end of an attempt** on either branch: the policy is written, and the call that is
made with it, if it is answered, leaves the main queue with the link. -/
theorem wp_policyAndCall {c : AttributeMap → MessagingCall} (hsame : SameTask task w.2)
    (h : Linking s task w.1.store)
    (htouches : ∀ policy, OnlyTouches task.queueName w.1.store
      ((Messaging.service client.addresses).exec (c (linkedAttributes task policy)) w.1.store).2)
    (hanswered : ∀ policy r s₂, (Messaging.service client.addresses).exec
        (c (linkedAttributes task policy)) w.1.store = (.ok r, s₂) →
      ∃ q, s₂.queues task.queueName = some q ∧
        q.attributes.carries (linkedAttributes task policy) = true) :
    (CreateSqsQueueWithDlqTask.putRedrivePolicy mapper
      (SqsTaskUtil.getQueueArnFromName project (getDeadletterQueueName task))).wp
      (fun attributes w' => (client.invoke (c attributes)).wp
        (fun _ v => SameTask task w'.2 ∧ Linking s task v.store ∧
          CarriesLink project mapper task v.store)
        (fun _ v => SameTask task w'.2 ∧ Linking s task v.store) w'.1)
      (fun _ w' => SameTask task w'.2 ∧ Linking s task w'.1.store) w := by
  refine Prog.wp_mono (wp_putRedrivePolicy mapper _ hsame) ?_ ?_
  · rintro attributes ⟨v, task'⟩ ⟨rfl, hsame', policy, hwrite, rfl⟩
    let I : MessagingWorld → Prop := fun v => SameTask task task' ∧ Linking s task v.store
    have hkeeps : (client.invoke (c (linkedAttributes task policy))).wp
        (fun r v => (Messaging.service client.addresses).exec (c (linkedAttributes task policy))
          w.1.store = (.ok r, v.store) ∧ I v) (fun _ v => I v) w.1 := by
      apply wp_call_keeps
      · intro fault
        exact ⟨hsame', h⟩
      · intro fault
        exact ⟨hsame', h.touch (htouches policy)⟩
    apply Prog.wp_conseq hkeeps
    intro r v hv
    obtain ⟨hx, -, h'⟩ := hv
    exact ⟨hsame', h', policy, hwrite, hanswered policy r v.store hx⟩
  · rintro e ⟨v, task'⟩ ⟨rfl, hsame', -⟩
    exact ⟨hsame', h⟩

/-- **One attempt at the main queue**: if it returns, the queue carries the link. -/
theorem wp_createMainQueue (hsame : SameTask task w.2) (h : Linking s task w.1.store) :
    (CreateSqsQueueWithDlqTask.createQueue client project mapper).wp
      (fun _ w' => SameTask task w'.2 ∧ Linking s task w'.1.store ∧
        CarriesLink project mapper task w'.1.store)
      (fun _ w' => SameTask task w'.2 ∧ Linking s task w'.1.store) w := by
  have hname := hsame.queueName_eq
  have hdlq := hsame.getDeadletterQueueName_eq
  unfold CreateSqsQueueWithDlqTask.createQueue CreateSqsQueueWithDlqTask.fields
  simp only [Prog.wp_bind, Prog.wp_current, Prog.wp_pure, Prog.wp_onFirst, hname, hdlq]
  refine Prog.wp_mono (wp_queueExists (I := fun v => Linking s task v.store) fun _ => h) ?_
    (fun _ _ he => ⟨hsame, he.1⟩)
  intro queueExists w₁ hw₁
  obtain ⟨h₁, hstore, hexists⟩ := hw₁
  cases queueExists with
  | true =>
    simp only [if_true, Prog.wp_bind, wp_log, Prog.wp_onFirst]
    have hsome : (w₁.store.queues task.queueName).isSome := by
      rw [hstore]
      exact hexists rfl
    obtain ⟨q, hq⟩ := Option.isSome_iff_exists.mp hsome
    -- the URL that is answered is that of the main queue
    have hurl : (Messaging.service client.addresses).exec (.getQueueUrl task.queueName)
        w₁.store = (.ok (client.addresses.queueUrls.address task.queueName), w₁.store) :=
      getQueueUrl_of_some hq
    unfold SqsTaskUtil.getQueueUrl SqsTaskUtil.setQueueAttributes
    refine Prog.wp_mono (wp_call_read hurl) ?_ ?_
    · intro _ w₂ hw₂
      obtain ⟨rfl, rfl⟩ := hw₂
      refine wp_policyAndCall (w := (World.record (Console.emit _ w₁) _ _ _, w.2)) hsame h₁ ?_ ?_
      · intro policy
        exact setQueueAttributes_touches hsome
      · intro policy r s₂ hx
        have hs₂ : _ = s₂ := congrArg Prod.snd ((setQueueAttributes_of_some hq).symm.trans hx)
        rw [← hs₂]
        exact ⟨_, Function.update_self .., AttributeMap.carries_putAll⟩
    · intro e w₂ hw₂
      obtain ⟨-, -, hstore₂⟩ := hw₂
      exact ⟨hsame, hstore₂ ▸ h₁⟩
  | false =>
    simp only [Bool.false_eq_true, if_false, Prog.wp_bind, wp_log, Prog.wp_onFirst,
      SqsTaskUtil.createQueue, createQueueRequest_eq, Option.getD_some]
    refine wp_policyAndCall (w := (Console.emit _ w₁, w.2))
      (c := fun attributes => .createQueue ⟨task.queueName, attributes⟩) hsame h₁ ?_ ?_
    · intro policy
      exact createQueue_touches
    · intro policy url s₂ hx
      exact createQueue_answered hx

/-- **The first block**, retried. -/
theorem wp_deadletterBlock (htask : w.2 = task) :
    (Retry.executeDefault (CreateSqsQueueWithDlqTask.createDeadletterQueue client)).wp
      (fun _ w' => w'.2 = task ∧ KeepsQueues w.1.store w'.1.store ∧
        (w'.1.store.queues (getDeadletterQueueName task)).isSome)
      (fun _ _ => True) w := by
  let I : TaskWorld → Prop := fun w' => w'.2 = task ∧ KeepsQueues w.1.store w'.1.store
  have hstart : I w := ⟨htask, fun _ _ hq => hq⟩
  refine Prog.wp_mono (wp_execute_keeps I _ (fun _ _ h => h) ?_ w hstart) (fun _ _ hq => hq)
    (fun _ _ _ => trivial)
  intro w₁ hw₁
  obtain ⟨htask₁, h₁⟩ := hw₁
  exact wp_createDeadletterQueue htask₁ h₁

/-- **The second block**, retried. -/
theorem wp_mainBlock (hsame : SameTask task w.2) (h : Linking s task w.1.store) :
    (Retry.executeExpecting (CreateSqsQueueWithDlqTask.createQueue client project mapper)
      [.jsonProcessingException]).wp
      (fun _ w' => SameTask task w'.2 ∧ Linking s task w'.1.store ∧
        CarriesLink project mapper task w'.1.store)
      (fun _ _ => True) w := by
  let I : TaskWorld → Prop := fun w' => SameTask task w'.2 ∧ Linking s task w'.1.store
  have hstart : I w := ⟨hsame, h⟩
  refine Prog.wp_mono (wp_execute_keeps I _ (fun _ _ h => h) ?_ w hstart) (fun _ _ hq => hq)
    (fun _ _ _ => trivial)
  intro w₁ hw₁
  obtain ⟨hsame₁, h₁⟩ := hw₁
  exact wp_createMainQueue hsame₁ h₁

/-- **The run**: if it returns, the link is there, and a dead-letter queue that is not the
main queue is as it was. -/
theorem wp_createSqsQueueWithDlq_run (task : CreateSqsQueueWithDlqTask) (s : MessagingStore) :
    (CreateSqsQueueWithDlqTask.run client project mapper).wp
      (fun _ w' => SameTask task w'.2 ∧ Linking s task w'.1.store ∧
        CarriesLink project mapper task w'.1.store)
      (fun _ _ => True) (World.start s, task) := by
  unfold CreateSqsQueueWithDlqTask.run
  rw [Prog.wp_bind]
  apply Prog.wp_conseq (wp_deadletterBlock rfl)
  intro _ w₁ hw₁
  obtain ⟨htask, hkeeps, hdlq⟩ := hw₁
  have hsame : SameTask task w₁.2 := htask ▸ SameTask.refl task
  exact wp_mainBlock hsame ⟨hdlq, fun _ q hq => hkeeps _ q hq⟩

/-! ## The second run -/

/-- Without failures, nothing is done for a dead-letter queue that exists. -/
theorem wp_createDeadletterQueue_again (hsame : SameTask task w.2)
    (hdlq : (w.1.store.queues (getDeadletterQueueName task)).isSome) :
    (CreateSqsQueueWithDlqTask.createDeadletterQueue { client with sched := .clear }).wp
      (fun _ w' => w'.2 = w.2 ∧ w'.1.store = w.1.store) (fun _ _ => False) w := by
  obtain ⟨q, hq⟩ := Option.isSome_iff_exists.mp hdlq
  unfold CreateSqsQueueWithDlqTask.createDeadletterQueue CreateSqsQueueWithDlqTask.fields
  simp only [Prog.wp_bind, Prog.wp_current, Prog.wp_pure, Prog.wp_onFirst,
    hsame.getDeadletterQueueName_eq]
  apply Prog.wp_conseq (wp_queueExists_clear hq)
  intro _ w₁ hw₁
  obtain ⟨rfl, rfl⟩ := hw₁
  exact ⟨rfl, rfl⟩

/-- Without failures, the attributes that are set on a linked queue are those it carries. -/
theorem wp_createMainQueue_again (hsame : SameTask task w.2)
    (hlink : CarriesLink project mapper task w.1.store) :
    (CreateSqsQueueWithDlqTask.createQueue { client with sched := .clear } project mapper).wp
      (fun _ w' => w'.1.store = w.1.store) (fun _ _ => False) w := by
  obtain ⟨policy, hwrite, q, hq, hcarries⟩ := hlink
  have hurl : (Messaging.service client.addresses).exec (.getQueueUrl task.queueName)
      w.1.store = (.ok (client.addresses.queueUrls.address task.queueName), w.1.store) :=
    getQueueUrl_of_some hq
  have hset : (Messaging.service client.addresses).exec (.setQueueAttributes
      (client.addresses.queueUrls.address task.queueName) (linkedAttributes task policy))
      w.1.store = (.ok (), w.1.store) := setQueueAttributes_carried hq hcarries
  unfold CreateSqsQueueWithDlqTask.createQueue CreateSqsQueueWithDlqTask.fields
    SqsTaskUtil.getQueueUrl SqsTaskUtil.setQueueAttributes
  simp only [Prog.wp_bind, Prog.wp_current, Prog.wp_pure, Prog.wp_onFirst, hsame.queueName_eq,
    hsame.getDeadletterQueueName_eq]
  apply Prog.wp_conseq (wp_queueExists_clear hq)
  intro _ w₁ hw₁
  obtain ⟨rfl, rfl⟩ := hw₁
  simp only [if_true, Prog.wp_bind, wp_log, Prog.wp_onFirst]
  refine Prog.wp_conseq (wp_call_clear (w := Console.emit _ (w.1.record _ _ _)) hurl) ?_
  intro _ w₂ hw₂
  obtain ⟨rfl, rfl⟩ := hw₂
  refine Prog.wp_mono (wp_putRedrivePolicy mapper _ hsame) ?_ ?_
  · rintro attributes ⟨v, task'⟩ ⟨rfl, -, policy', hwrite', rfl⟩
    rw [hwrite] at hwrite'
    cases hwrite'
    refine Prog.wp_conseq (wp_call_clear (w := World.record _ _ _ _) hset) ?_
    intro _ w₃ hw₃
    obtain ⟨-, rfl⟩ := hw₃
    rfl
  · intro e w₃ hw₃
    obtain ⟨-, -, hwrite'⟩ := hw₃
    rw [hwrite] at hwrite'
    cases hwrite'

/-- **A second run without failures** leaves the store. -/
theorem wp_createSqsQueueWithDlq_rerun (hsame : SameTask task w.2)
    (hdlq : (w.1.store.queues (getDeadletterQueueName task)).isSome)
    (hlink : CarriesLink project mapper task w.1.store) :
    (CreateSqsQueueWithDlqTask.run { client with sched := .clear } project mapper).wp
      (fun _ w' => w'.1.store = w.1.store) (fun _ _ => False) w := by
  unfold CreateSqsQueueWithDlqTask.run
  rw [Prog.wp_bind]
  apply wp_execute_first defaultMaxRetries_pos
  apply Prog.wp_conseq (wp_createDeadletterQueue_again hsame hdlq)
  intro _ w₁ hw₁
  obtain ⟨htask, hstore⟩ := hw₁
  apply wp_execute_first defaultMaxRetries_pos
  rw [← htask] at hsame
  rw [← hstore] at hlink
  apply Prog.wp_conseq (wp_createMainQueue_again hsame hlink)
  intro _ w₂ hw₂
  exact hw₂.trans hstore

end Blocks

/-! ## The link -/

/-- The queues of the task are there, and the main queue has the configured attributes and
a redrive policy whose target is the dead-letter queue. -/
structure DeadletterLinked (addresses : Addresses) (mapper : ObjectMapper RedrivePolicy)
    (task : CreateSqsQueueWithDlqTask) (s : MessagingStore) : Prop where
  deadletterQueue : (s.queues (getDeadletterQueueName task)).isSome
  mainQueue : ∃ q, s.queues task.queueName = some q ∧
    (∀ key, key ≠ "RedrivePolicy" → ∀ value,
      (task.queueAttributes.getD .empty).get key = some value →
        q.attributes.get key = some value) ∧
    ∃ text policy, q.attributes.get "RedrivePolicy" = some text ∧
      mapper.readValue text = some policy ∧
      policy.deadLetterTargetArn = addresses.queueArns.address (getDeadletterQueueName task)

/-- What the main queue carries is the link. -/
theorem CarriesLink.linked {addresses : Addresses} {project : Project}
    {mapper : ObjectMapper RedrivePolicy} {task : CreateSqsQueueWithDlqTask}
    {s : MessagingStore} (h : CarriesLink project mapper task s)
    (hdlq : (s.queues (getDeadletterQueueName task)).isSome)
    (harn : ∀ name, addresses.queueArns.address name =
      SqsTaskUtil.getQueueArnFromName project name) :
    DeadletterLinked addresses mapper task s := by
  obtain ⟨text, hwrite, q, hq, hcarries⟩ := h
  rw [AttributeMap.carries_iff] at hcarries
  refine ⟨hdlq, q, hq, ?_, text, _, ?_, mapper.readValue_write _ _ hwrite, ?_⟩
  · intro key hkey value hvalue
    apply hcarries
    unfold linkedAttributes
    rw [AttributeMap.get_put, if_neg hkey]
    exact hvalue
  · apply hcarries
    unfold linkedAttributes
    rw [AttributeMap.get_put, if_pos rfl]
  · exact (harn _).symm

/-- **The dead-letter link is established** by every run that returns, whatever fails and
whatever was there before; and once it is there, a run without failures changes nothing.
SRC: aws/sqs/CreateSqsQueueWithDlqTask.java:54-121, 176-178, aws/sqs/SqsTaskUtil.java:92-114 -/
theorem deadletter_link_established (client : MessagingClient) (project : Project)
    (mapper : ObjectMapper RedrivePolicy) (task : CreateSqsQueueWithDlqTask)
    (s : MessagingStore) (w' : TaskWorld)
    (harn : ∀ name, client.addresses.queueArns.address name =
      s!"arn:aws:sqs:{nullable project.localstack.signingRegion}:000000000000:{name}")
    (hrun : CreateSqsQueueWithDlqTask.run client project mapper (World.start s, task) =
      (.returned (), w')) :
    DeadletterLinked client.addresses mapper task w'.1.store ∧
      (getDeadletterQueueName task ≠ task.queueName → ∀ q,
        s.queues (getDeadletterQueueName task) = some q →
          w'.1.store.queues (getDeadletterQueueName task) = some q) ∧
      ∀ task₂ ∈ [task, w'.2],
        let second := CreateSqsQueueWithDlqTask.run { client with sched := .clear } project
          mapper (World.start w'.1.store, task₂)
        second.1 = .returned () ∧ second.2.1.store = w'.1.store := by
  obtain ⟨hsame, hlinking, hlink⟩ :=
    Prog.wp_returned (wp_createSqsQueueWithDlq_run task s) hrun
  refine ⟨hlink.linked hlinking.deadletterQueue harn, hlinking.keeps, ?_⟩
  intro task₂ htask₂
  have hsame₂ : SameTask task task₂ := by
    rcases List.mem_cons.mp htask₂ with rfl | hlast
    · exact SameTask.refl task₂
    · rw [List.mem_singleton.mp hlast]
      exact hsame
  exact Prog.wp_returns (wp_createSqsQueueWithDlq_rerun
    (w := (World.start w'.1.store, task₂)) hsame₂ hlinking.deadletterQueue hlink)

/-! ## A mapper to try the result on -/

/-- The rest of a text behind a prefix. -/
def dropPrefix (p text : List Char) : Option (List Char) :=
  if p.isPrefixOf text then some (text.drop p.length) else none

/-- A prefix that is there is dropped. -/
theorem dropPrefix_append (p text : List Char) : dropPrefix p (p ++ text) = some text := by
  simp [dropPrefix]

/-- The characters that stand for themselves in a JSON string: no quote, no backslash and no
control character. -/
def isPlain (c : Char) : Bool := c != '\x22' && c != '\x5c' && 32 ≤ c.toNat

/-- A JSON string whose content is plain: the content, and what follows the quote. -/
def readQuoted (text : List Char) : Option (String × List Char) :=
  (dropPrefix ['\x22'] (text.dropWhile isPlain)).map fun rest =>
    (String.ofList (text.takeWhile isPlain), rest)

/-- A plain value behind an opening quote is read to the closing one. -/
theorem readQuoted_append {value : String} (h : value.toList.all isPlain = true)
    (rest : List Char) :
    readQuoted (value.toList ++ ('\x22' :: rest)) = some (value, rest) := by
  have hall : ∀ c ∈ value.toList, isPlain c = true := by simpa using h
  have hquote : isPlain '\x22' = false := rfl
  unfold readQuoted
  rw [List.dropWhile_append_of_pos hall, List.takeWhile_append_of_pos hall]
  simp [hquote, dropPrefix]

/-- A JSON object of one field, as far as the opening quote of its value, and the same for
a further field. -/
def policyHead : List Char := "\x7b\"deadLetterTargetArn\":\"".toList

/-- The same for a further field. -/
def policyMiddle : List Char := ",\"maxReceiveCount\":\"".toList

/-- A redrive policy as a JSON object. -/
def policyText (policy : RedrivePolicy) : List Char :=
  policyHead ++ (policy.deadLetterTargetArn.toList ++ ('\x22' ::
    (policyMiddle ++ (policy.maxReceiveCount.toList ++ ['\x22', '\x7d']))))

/-- The policy that a text of this form holds. -/
def readPolicy (text : List Char) : Option RedrivePolicy := do
  let text ← dropPrefix policyHead text
  let (deadLetterTargetArn, text) ← readQuoted text
  let text ← dropPrefix policyMiddle text
  let (maxReceiveCount, text) ← readQuoted text
  if text = ['\x7d'] then some ⟨deadLetterTargetArn, maxReceiveCount⟩ else none

/-- A policy with plain fields is read back. -/
theorem readPolicy_policyText {policy : RedrivePolicy}
    (harn : policy.deadLetterTargetArn.toList.all isPlain = true)
    (hcount : policy.maxReceiveCount.toList.all isPlain = true) :
    readPolicy (policyText policy) = some policy := by
  unfold readPolicy policyText
  rw [dropPrefix_append]
  simp only [Option.bind_eq_bind, Option.bind_some]
  rw [readQuoted_append harn]
  simp only [Option.bind_some]
  rw [dropPrefix_append]
  simp only [Option.bind_some]
  rw [readQuoted_append hcount]
  rfl

/-- A mapper that writes the two fields of a policy if they need no escapes. -/
def sampleMapper : ObjectMapper RedrivePolicy where
  writeValueAsString policy :=
    if policy.deadLetterTargetArn.toList.all isPlain = true ∧
        policy.maxReceiveCount.toList.all isPlain = true then
      .ok (String.ofList (policyText policy))
    else .error (.plain .jsonProcessingException none)
  readValue text := readPolicy text.toList
  readValue_write := by
    intro policy text h
    split at h
    · rename_i hplain
      cases h
      rw [String.toList_ofList]
      exact readPolicy_policyText hplain.1 hplain.2
    · cases h

/-- The second call of the run takes effect and fails. -/
def lostAnswer : MessagingClient :=
  ⟨sampleAddresses, .only 1 { unavailable with tookEffect := true }⟩

/-- The main queue exists, the dead-letter queue is created and reported as failed. -/
theorem deadletter_link_established_orders :
    DeadletterLinked sampleAddresses sampleMapper { queueName := "orders" }
      (CreateSqsQueueWithDlqTask.run lostAnswer sampleProject sampleMapper
        (World.start twoQueues, { queueName := "orders" })).2.1.store :=
  (deadletter_link_established lostAnswer sampleProject sampleMapper { queueName := "orders" }
    twoQueues _ queueArn_of_sample (Prod.ext (by decide) rfl)).1

end GradleLocalstack.Analysis
