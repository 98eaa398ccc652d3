import GradleLocalstack.Analysis.DeadletterQueue
import GradleLocalstack.Analysis.SetupOrder
import GradleLocalstack.Program.SharedAttributes

/-!
# Two setup tasks with one map of attributes

`CreateSqsQueueWithDlqTask` puts the redrive policy into the map it was given.  A
`CreateSqsQueuesTask` with the same map creates its queues with what it finds there, so the
queues depend on which of the two ran first; and `startLocalStack`, which depends on both,
puts neither first.
-/

set_option autoImplicit false

namespace GradleLocalstack.Analysis

open Foundation GradleLocalstack.Model GradleLocalstack.Program
open CreateSqsQueueWithDlqTask (RedrivePolicy getDeadletterQueueName)

/-! ## New queues -/

/-- The store with new queues, all with the same attributes. -/
def withQueues (names : List String) (attributes : AttributeMap) (s : MessagingStore) :
    MessagingStore where
  queues c := if c ∈ names then some ⟨attributes, []⟩ else s.queues c
  topics := s.topics

section NewQueues

variable {names names' : List String} {attributes attributes' : AttributeMap}
  {s : MessagingStore} {c name : String}

/-- A new queue is there, with the attributes and without messages. -/
theorem withQueues_of_mem (h : c ∈ names) :
    (withQueues names attributes s).queues c = some ⟨attributes, []⟩ := if_pos h

/-- The other queues are what they were. -/
theorem withQueues_of_not_mem (h : c ∉ names) :
    (withQueues names attributes s).queues c = s.queues c := if_neg h

/-- No new queue. -/
theorem withQueues_nil : withQueues [] attributes s = s := rfl

/-- One new queue, and then more. -/
theorem withQueues_cons :
    withQueues names attributes (withQueues [name] attributes s) =
      withQueues (name :: names) attributes s := by
  unfold withQueues
  congr 1
  funext c
  by_cases hc : c ∈ names
  · simp [hc]
  · simp [hc]

/-- What `createQueue` does to a store without the queue. -/
theorem update_eq_withQueues :
    (⟨Function.update s.queues name (some ⟨attributes, []⟩), s.topics⟩ : MessagingStore) =
      withQueues [name] attributes s := by
  unfold withQueues
  congr 1
  funext c
  by_cases hc : c = name
  · rw [hc, Function.update_self, if_pos (List.mem_singleton_self name)]
  · rw [Function.update_of_ne hc, if_neg (fun hmem => hc (List.mem_singleton.mp hmem))]

/-- Different queues are created in either order. -/
theorem withQueues_comm (h : names.Disjoint names') :
    withQueues names attributes (withQueues names' attributes' s) =
      withQueues names' attributes' (withQueues names attributes s) := by
  unfold withQueues
  congr 1
  funext c
  by_cases hc : c ∈ names
  · have hnot : c ∉ names' := h hc
    simp [hc, hnot]
  · simp [hc]

end NewQueues

/-! ## Runs without failures, on a store without the queues -/

section Runs

variable {addresses : Addresses} {project : Project} {mapper : ObjectMapper RedrivePolicy}
  {task : CreateSqsQueueWithDlqTask} {queueNames : List String} {attributes : AttributeMap}
  {policy : String}

/-- A queue that does not exist is created. -/
theorem wp_createQueue_new {name : String} {w : MessagingWorld}
    (hnone : w.store.queues name = none) :
    (MessagingClient.createQueue ⟨addresses, .clear⟩ ⟨name, attributes⟩).wp
      (fun _ w' => w'.store = withQueues [name] attributes w.store) (fun _ _ => False) w := by
  have hx : (Messaging.service addresses).exec (.createQueue ⟨name, attributes⟩) w.store =
      (.ok (addresses.queueUrls.address name), withQueues [name] attributes w.store) := by
    rw [← update_eq_withQueues]
    exact createQueue_of_none hnone
  apply Prog.wp_conseq (wp_call_clear hx)
  intro _ w' hw'
  rw [hw'.2]
  rfl

/-- **One queue** of `CreateSqsQueuesTask`. -/
theorem wp_createQueue_clear {name : String} {w : MessagingWorld}
    (hnone : w.store.queues name = none) :
    (CreateSqsQueuesTask.createQueue ⟨addresses, .clear⟩ queueNames (some attributes) name).wp
      (fun _ w' => w'.store = withQueues [name] attributes w.store) (fun _ _ => False) w := by
  unfold CreateSqsQueuesTask.createQueue
  simp only [Prog.wp_bind, wp_log, createQueueRequest_eq, Option.getD_some]
  apply Prog.wp_conseq (wp_queueExists_clear_none (w := Console.emit _ w) hnone)
  intro _ w₁ hw₁
  obtain ⟨rfl, rfl⟩ := hw₁
  simp only [Bool.false_eq_true, if_false, Prog.wp_bind]
  exact wp_createQueue_new (w := World.record (Console.emit _ w) _ _ _) hnone

/-- **`CreateSqsQueuesTask`** creates its queues, with the attributes it has. -/
theorem wp_createQueues_clear (hnodup : queueNames.Nodup) {w : MessagingWorld}
    (hfresh : ∀ name ∈ queueNames, w.store.queues name = none) :
    (CreateSqsQueuesTask.run ⟨addresses, .clear⟩ ⟨some queueNames, some attributes⟩).wp
      (fun _ w' => w'.store = withQueues queueNames attributes w.store) (fun _ _ => False)
      w := by
  apply wp_execute_first defaultMaxRetries_pos
  have hloop : ∀ rest : List String, rest.Nodup → ∀ v : MessagingWorld,
      (∀ name ∈ rest, v.store.queues name = none) →
      (Prog.forEach (CreateSqsQueuesTask.createQueue ⟨addresses, .clear⟩ queueNames
        (some attributes)) rest).wp
        (fun _ w' => w'.store = withQueues rest attributes v.store) (fun _ _ => False) v := by
    intro rest
    induction rest with
    | nil =>
      intro _ v _
      exact withQueues_nil.symm
    | cons name rest ih =>
      intro hrest v hfresh
      obtain ⟨hnot, hrest⟩ := List.nodup_cons.mp hrest
      rw [Prog.forEach, Prog.wp_bind]
      apply Prog.wp_conseq (wp_createQueue_clear (hfresh name List.mem_cons_self))
      intro _ v₁ hv₁
      have hfresh₁ : ∀ c ∈ rest, v₁.store.queues c = none := by
        intro c hc
        have hne : c ∉ [name] := fun hmem => hnot (List.mem_singleton.mp hmem ▸ hc)
        rw [hv₁, withQueues_of_not_mem hne]
        exact hfresh c (List.mem_cons_of_mem name hc)
      apply Prog.wp_conseq (ih hrest v₁ hfresh₁)
      intro _ v₂ hv₂
      rw [hv₂, hv₁, withQueues_cons]
  exact hloop queueNames hnodup w hfresh

/-- The policy is put into the attributes of the task. -/
theorem wp_putRedrivePolicy_ok {dlqArn : String} {w : CreateSqsQueueWithDlqTask.TaskWorld}
    (hpolicy : mapper.writeValueAsString ⟨dlqArn, "1"⟩ = .ok policy) :
    (CreateSqsQueueWithDlqTask.putRedrivePolicy mapper dlqArn).wp
      (fun queueAttributes w' => queueAttributes = linkedAttributes w.2 policy ∧
        w' = (w.1, { w.2 with queueAttributes := some (linkedAttributes w.2 policy) }))
      (fun _ _ => False) w := by
  unfold CreateSqsQueueWithDlqTask.putRedrivePolicy CreateSqsQueueWithDlqTask.fields
    CreateSqsQueueWithDlqTask.assignQueueAttributes
  simp only [Prog.wp_bind, Prog.wp_current, Prog.wp_pure, Prog.wp_update, hpolicy,
    Prog.wp_ofExcept_ok]
  exact ⟨rfl, rfl⟩

/-- The dead-letter queue is created. -/
theorem wp_createDeadletterQueue_new {w : MessagingWorld}
    (hnone : w.store.queues (getDeadletterQueueName task) = none) :
    (CreateSqsQueueWithDlqTask.createDeadletterQueue ⟨addresses, .clear⟩).wp
      (fun _ w' => w'.2 = task ∧ w'.1.store = withQueues [getDeadletterQueueName task]
        (task.deadletterQueueAttributes.getD .empty) w.store)
      (fun _ _ => False) (w, task) := by
  unfold CreateSqsQueueWithDlqTask.createDeadletterQueue CreateSqsQueueWithDlqTask.fields
  simp only [Prog.wp_bind, Prog.wp_current, Prog.wp_pure, Prog.wp_onFirst]
  apply Prog.wp_conseq (wp_queueExists_clear_none hnone)
  intro _ w₁ hw₁
  obtain ⟨rfl, rfl⟩ := hw₁
  simp only [Bool.false_eq_true, if_false, Prog.wp_bind, wp_log, Prog.wp_onFirst,
    SqsTaskUtil.createQueue, createQueueRequest_eq]
  apply Prog.wp_conseq (wp_createQueue_new (w := Console.emit _ (World.record w _ _ _)) hnone)
  intro _ w₂ hw₂
  exact ⟨rfl, hw₂⟩

/-- The main queue is created, and its policy stays in the attributes of the task. -/
theorem wp_createMainQueue_new {w : MessagingWorld}
    (hnone : w.store.queues task.queueName = none)
    (hpolicy : mapper.writeValueAsString
      ⟨SqsTaskUtil.getQueueArnFromName project (getDeadletterQueueName task), "1"⟩ =
        .ok policy) :
    (CreateSqsQueueWithDlqTask.createQueue ⟨addresses, .clear⟩ project mapper).wp
      (fun _ w' => w'.2 = { task with queueAttributes := some (linkedAttributes task policy) } ∧
        w'.1.store = withQueues [task.queueName] (linkedAttributes task policy) w.store)
      (fun _ _ => False) (w, task) := by
  unfold CreateSqsQueueWithDlqTask.createQueue CreateSqsQueueWithDlqTask.fields
  simp only [Prog.wp_bind, Prog.wp_current, Prog.wp_pure, Prog.wp_onFirst]
  apply Prog.wp_conseq (wp_queueExists_clear_none hnone)
  intro _ w₁ hw₁
  obtain ⟨rfl, rfl⟩ := hw₁
  simp only [Bool.false_eq_true, if_false, Prog.wp_bind, wp_log, Prog.wp_onFirst,
    SqsTaskUtil.createQueue, createQueueRequest_eq, Option.getD_some]
  apply Prog.wp_conseq (wp_putRedrivePolicy_ok hpolicy)
  intro _ w₂ hw₂
  obtain ⟨rfl, rfl⟩ := hw₂
  apply Prog.wp_conseq (wp_createQueue_new (w := Console.emit _ (World.record w _ _ _)) hnone)
  intro _ w₃ hw₃
  exact ⟨rfl, hw₃⟩

/-- The store with the two queues of the task. -/
def withLink (task : CreateSqsQueueWithDlqTask) (linked : AttributeMap) (s : MessagingStore) :
    MessagingStore :=
  withQueues [task.queueName] linked
    (withQueues [getDeadletterQueueName task] (task.deadletterQueueAttributes.getD .empty) s)

/-- **`CreateSqsQueueWithDlqTask`** creates its two queues. -/
theorem wp_dlq_run_new (task : CreateSqsQueueWithDlqTask) {w : MessagingWorld}
    (hne : task.queueName ≠ getDeadletterQueueName task)
    (hqueue : w.store.queues task.queueName = none)
    (hdlq : w.store.queues (getDeadletterQueueName task) = none)
    (hpolicy : mapper.writeValueAsString
      ⟨SqsTaskUtil.getQueueArnFromName project (getDeadletterQueueName task), "1"⟩ =
        .ok policy) :
    (CreateSqsQueueWithDlqTask.run ⟨addresses, .clear⟩ project mapper).wp
      (fun _ w' => w'.2 = { task with queueAttributes := some (linkedAttributes task policy) } ∧
        w'.1.store = withLink task (linkedAttributes task policy) w.store)
      (fun _ _ => False) (w, task) := by
  unfold CreateSqsQueueWithDlqTask.run
  rw [Prog.wp_bind]
  apply wp_execute_first defaultMaxRetries_pos
  apply Prog.wp_conseq (wp_createDeadletterQueue_new hdlq)
  intro _ w₁ hw₁
  obtain ⟨v, task₁⟩ := w₁
  obtain ⟨rfl, hstore⟩ := hw₁
  dsimp only at hstore
  have hqueue₁ : v.store.queues task₁.queueName = none := by
    rw [hstore, withQueues_of_not_mem (fun hmem => hne (List.mem_singleton.mp hmem))]
    exact hqueue
  apply wp_execute_first defaultMaxRetries_pos
  apply Prog.wp_conseq (wp_createMainQueue_new hqueue₁ hpolicy)
  intro _ w₂ hw₂
  obtain ⟨htask₂, hstore₂⟩ := hw₂
  rw [hstore₂, hstore]
  exact ⟨htask₂, rfl⟩

/-- With the shared map, it leaves the policy in the map. -/
theorem wp_dlq_runShared {w : SharedWorld} (hne : task.queueName ≠ getDeadletterQueueName task)
    (hqueue : w.1.store.queues task.queueName = none)
    (hdlq : w.1.store.queues (getDeadletterQueueName task) = none)
    (hpolicy : mapper.writeValueAsString
      ⟨SqsTaskUtil.getQueueArnFromName project (getDeadletterQueueName task), "1"⟩ =
        .ok policy) :
    (CreateSqsQueueWithDlqTask.runShared ⟨addresses, .clear⟩ project mapper task).wp
      (fun _ w' => w'.2 = w.2.put "RedrivePolicy" policy ∧
        w'.1.store = withLink task (w.2.put "RedrivePolicy" policy) w.1.store)
      (fun _ _ => False) w := by
  unfold CreateSqsQueueWithDlqTask.runShared
  rw [Prog.wp_through]
  apply Prog.wp_conseq (wp_dlq_run_new { task with queueAttributes := some w.2 } hne
    hqueue hdlq hpolicy)
  intro _ w' hw'
  obtain ⟨htask, hstore⟩ := hw'
  rw [htask]
  exact ⟨rfl, hstore⟩

/-- **`CreateSqsQueuesTask`** with the shared map reads it. -/
theorem wp_queues_runShared (hnodup : queueNames.Nodup) {w : SharedWorld}
    (hfresh : ∀ name ∈ queueNames, w.1.store.queues name = none) :
    (CreateSqsQueuesTask.runShared ⟨addresses, .clear⟩ queueNames).wp
      (fun _ w' => w'.2 = w.2 ∧ w'.1.store = withQueues queueNames w.2 w.1.store)
      (fun _ _ => False) w := by
  unfold CreateSqsQueuesTask.runShared
  rw [Prog.wp_bind, Prog.wp_current, Prog.wp_onFirst]
  apply Prog.wp_conseq (wp_createQueues_clear hnodup hfresh)
  intro _ w₁ hw₁
  exact ⟨rfl, hw₁⟩

end Runs

/-! ## Both orders -/

section Orders

variable (addresses : Addresses) (project : Project) (mapper : ObjectMapper RedrivePolicy)
  (task : CreateSqsQueueWithDlqTask) (queueNames : List String)

/-- The task with the dead-letter queue, and then the other. -/
def dlqFirst : Prog SharedWorld Throwable Unit := do
  CreateSqsQueueWithDlqTask.runShared ⟨addresses, .clear⟩ project mapper task
  CreateSqsQueuesTask.runShared ⟨addresses, .clear⟩ queueNames

/-- The other order. -/
def queuesFirst : Prog SharedWorld Throwable Unit := do
  CreateSqsQueuesTask.runShared ⟨addresses, .clear⟩ queueNames
  CreateSqsQueueWithDlqTask.runShared ⟨addresses, .clear⟩ project mapper task

/-- Without failures both orders leave the same store, with the configured attributes on each
queue of `CreateSqsQueuesTask`. -/
def SetupTasksIndependent (attributes : AttributeMap) (s : MessagingStore) : Prop :=
  let w : SharedWorld := (World.start s, attributes)
  let r := dlqFirst addresses project mapper task queueNames w
  let r' := queuesFirst addresses project mapper task queueNames w
  r.1 = .returned () ∧ r'.1 = .returned () ∧ r.2.1.store = r'.2.1.store ∧
    ∀ name ∈ queueNames, ∃ q, r.2.1.store.queues name = some q ∧ q.attributes = attributes

/-- The names of all queues that the two tasks create. -/
def queuesOfBoth : List String := task.queueName :: getDeadletterQueueName task :: queueNames

/-- The queues of both tasks are different, and none is there yet. -/
structure FreshQueues (s : MessagingStore) : Prop where
  nodup : (queuesOfBoth task queueNames).Nodup
  absent : ∀ name ∈ queuesOfBoth task queueNames, s.queues name = none

variable {addresses project mapper task queueNames} {attributes : AttributeMap}
  {s : MessagingStore} {policy : String}

namespace FreshQueues

variable (h : FreshQueues task queueNames s)
include h

/-- The main queue and the dead-letter queue are different. -/
theorem queueName_ne : task.queueName ≠ getDeadletterQueueName task :=
  fun heq => (List.nodup_cons.mp h.nodup).1 (heq ▸ List.mem_cons_self)

/-- The main queue is not among the listed ones. -/
theorem queueName_not_mem : task.queueName ∉ queueNames :=
  fun hmem => (List.nodup_cons.mp h.nodup).1 (List.mem_cons_of_mem _ hmem)

/-- The dead-letter queue is not among the listed ones. -/
theorem dlqName_not_mem : getDeadletterQueueName task ∉ queueNames :=
  (List.nodup_cons.mp (List.nodup_cons.mp h.nodup).2).1

/-- The listed queues are different. -/
theorem nodup_queueNames : queueNames.Nodup :=
  (List.nodup_cons.mp (List.nodup_cons.mp h.nodup).2).2

/-- The main queue does not exist yet. -/
theorem queueName_absent : s.queues task.queueName = none := h.absent _ List.mem_cons_self

/-- The dead-letter queue does not exist yet. -/
theorem dlqName_absent : s.queues (getDeadletterQueueName task) = none :=
  h.absent _ (List.mem_cons_of_mem _ List.mem_cons_self)

/-- None of the listed queues exists yet. -/
theorem queueNames_absent : ∀ name ∈ queueNames, s.queues name = none :=
  fun _ hname => h.absent _ (List.mem_cons_of_mem _ (List.mem_cons_of_mem _ hname))

/-- The queues of the two tasks are created in either order. -/
theorem withQueues_withLink (linked attributes : AttributeMap) :
    withQueues queueNames attributes (withLink task linked s) =
      withLink task linked (withQueues queueNames attributes s) := by
  have hqueue : queueNames.Disjoint [task.queueName] :=
    List.disjoint_singleton.mpr h.queueName_not_mem
  have hdlq : queueNames.Disjoint [getDeadletterQueueName task] :=
    List.disjoint_singleton.mpr h.dlqName_not_mem
  unfold withLink
  rw [withQueues_comm hqueue, withQueues_comm hdlq]

/-- The queues of `CreateSqsQueuesTask` are not touched by the other task. -/
theorem withLink_absent (linked : AttributeMap) :
    ∀ name ∈ queueNames, (withLink task linked s).queues name = none := by
  intro name hname
  have hne : name ∉ [task.queueName] :=
    fun hmem => h.queueName_not_mem (List.mem_singleton.mp hmem ▸ hname)
  have hne' : name ∉ [getDeadletterQueueName task] :=
    fun hmem => h.dlqName_not_mem (List.mem_singleton.mp hmem ▸ hname)
  unfold withLink
  rw [withQueues_of_not_mem hne, withQueues_of_not_mem hne']
  exact h.queueNames_absent name hname

end FreshQueues

/-- **The first order**: all queues get the policy. -/
theorem run_dlqFirst (addresses : Addresses) (attributes : AttributeMap)
    (h : FreshQueues task queueNames s)
    (hpolicy : mapper.writeValueAsString
      ⟨SqsTaskUtil.getQueueArnFromName project (getDeadletterQueueName task), "1"⟩ =
        .ok policy) :
    (dlqFirst addresses project mapper task queueNames).wp
      (fun _ w' => w'.1.store = withQueues queueNames (attributes.put "RedrivePolicy" policy)
        (withLink task (attributes.put "RedrivePolicy" policy) s))
      (fun _ _ => False) (World.start s, attributes) := by
  unfold dlqFirst
  rw [Prog.wp_bind]
  apply Prog.wp_conseq (wp_dlq_runShared h.queueName_ne h.queueName_absent h.dlqName_absent
    hpolicy)
  intro _ w₁ hw₁
  obtain ⟨hmap, hstore⟩ := hw₁
  have habsent : ∀ name ∈ queueNames, w₁.1.store.queues name = none := by
    rw [hstore]
    exact h.withLink_absent _
  apply Prog.wp_conseq (wp_queues_runShared h.nodup_queueNames habsent)
  intro _ w₂ hw₂
  rw [hw₂.2, hmap, hstore]
  rfl

/-- **The other order**: the queues get what was configured. -/
theorem run_queuesFirst (addresses : Addresses) (attributes : AttributeMap)
    (h : FreshQueues task queueNames s)
    (hpolicy : mapper.writeValueAsString
      ⟨SqsTaskUtil.getQueueArnFromName project (getDeadletterQueueName task), "1"⟩ =
        .ok policy) :
    (queuesFirst addresses project mapper task queueNames).wp
      (fun _ w' => w'.1.store = withLink task (attributes.put "RedrivePolicy" policy)
        (withQueues queueNames attributes s))
      (fun _ _ => False) (World.start s, attributes) := by
  unfold queuesFirst
  rw [Prog.wp_bind]
  apply Prog.wp_conseq (wp_queues_runShared (w := (World.start s, attributes))
    h.nodup_queueNames h.queueNames_absent)
  intro _ w₁ hw₁
  obtain ⟨hmap, hstore⟩ := hw₁
  have hqueue : w₁.1.store.queues task.queueName = none := by
    rw [hstore, withQueues_of_not_mem h.queueName_not_mem]
    exact h.queueName_absent
  have hdlq : w₁.1.store.queues (getDeadletterQueueName task) = none := by
    rw [hstore, withQueues_of_not_mem h.dlqName_not_mem]
    exact h.dlqName_absent
  apply Prog.wp_conseq (wp_dlq_runShared h.queueName_ne hqueue hdlq hpolicy)
  intro _ w₂ hw₂
  rw [hw₂.2, hmap, hstore]
  rfl

/-- **When the two tasks are independent**: there are no queues to create, or the map has the
policy from the start. -/
theorem setupTasksIndependent_iff (h : FreshQueues task queueNames s)
    (hpolicy : mapper.writeValueAsString
      ⟨SqsTaskUtil.getQueueArnFromName project (getDeadletterQueueName task), "1"⟩ =
        .ok policy) :
    SetupTasksIndependent addresses project mapper task queueNames attributes s ↔
      queueNames = [] ∨ attributes.get "RedrivePolicy" = some policy := by
  obtain ⟨hreturned, hstore⟩ := Prog.wp_returns (run_dlqFirst addresses attributes h hpolicy)
  obtain ⟨hreturned', hstore'⟩ :=
    Prog.wp_returns (run_queuesFirst addresses attributes h hpolicy)
  unfold SetupTasksIndependent
  dsimp only
  rw [hstore, hstore', ← h.withQueues_withLink]
  constructor
  · intro hindependent
    obtain ⟨-, -, -, hexact⟩ := hindependent
    cases queueNames with
    | nil => exact .inl rfl
    | cons name queueNames =>
      right
      obtain ⟨q, hq, hattributes⟩ := hexact name List.mem_cons_self
      rw [withQueues_of_mem List.mem_cons_self] at hq
      cases hq
      rw [← hattributes, AttributeMap.get_put, if_pos rfl]
  · intro hcondition
    refine ⟨hreturned, hreturned', ?_⟩
    cases hcondition with
    | inl hnone =>
      subst hnone
      exact ⟨rfl, fun name hname => absurd hname List.not_mem_nil⟩
    | inr hhas =>
      rw [AttributeMap.put_eq_self hhas]
      exact ⟨rfl, fun name hname => ⟨_, withQueues_of_mem hname, rfl⟩⟩

end Orders

/-! ## The order of the build -/

section BuildOrder

variable {cwd : Path} {files : FileSystem} {project loaded : Project}

/-- A chain of edges of other tasks than `startLocalStack` leads from `a` to `b`. -/
def OrderedByOthers (loaded : Project) : String → String → Prop :=
  Relation.TransGen fun x y => x ≠ "startLocalStack" ∧
    (taskGraph loaded.tasks.tasks).Waits "startLocalStack" x y

/-- Of two setup tasks either may run first, if only the edges of other tasks do not say
otherwise, and if there is an order at all. -/
def StartImposesNoOrder (loaded : Project) : Prop :=
  (taskGraph loaded.tasks.tasks).Schedulable "startLocalStack" →
    ∀ a ∈ loaded.tasks.tasks, ∀ b ∈ loaded.tasks.tasks, a.localStackSetupTask = true →
      b.localStackSetupTask = true → a.name ≠ b.name → ¬ OrderedByOthers loaded a.name b.name →
      ∃ order, (taskGraph loaded.tasks.tasks).ExecutionOrder "startLocalStack" order ∧
        Before order a.name b.name

/-- `startLocalStack` waits for the setup tasks, so it stands in no chain between them. -/
theorem startImposesNoOrder (hload : LocalStackModule.load cwd files project = .ok loaded) :
    StartImposesNoOrder loaded := by
  intro hschedulable a ha b hb hsetup hsetup' hne hothers
  have htasks := load_tasks hload
  have hrequired : ∀ task ∈ loaded.tasks.tasks, task.localStackSetupTask = true →
      (taskGraph loaded.tasks.tasks).dependsOn "startLocalStack" task.name := by
    intro task htask hset
    rw [htasks] at htask ⊢
    have hold := (mem_loadedTasks_of_setup hset).mp htask
    exact startLocalStack_dependsOn
      (.inr (List.mem_map_of_mem (List.mem_filter.mpr ⟨hold, hset⟩)))
  have hstart := hrequired a ha hsetup
  by_contra hnever
  -- then `b` always runs before `a`, so there is a chain, and it passes `startLocalStack` by
  have halways : ∀ order, (taskGraph loaded.tasks.tasks).ExecutionOrder "startLocalStack" order →
      Before order b.name a.name := by
    intro order horder
    have hamem := (horder.mem_iff a.name).mpr (TaskGraph.Required.refl.tail hstart)
    have hbmem := (horder.mem_iff b.name).mpr
      (TaskGraph.Required.refl.tail (hrequired b hb hsetup'))
    cases Before.total hamem hbmem hne with
    | inl hbefore => exact absurd ⟨order, horder, hbefore⟩ hnever
    | inr hbefore => exact hbefore
  have hfollows := (TaskGraph.runs_before_iff (TaskGraph.Required.refl.tail hstart)
    (TaskGraph.Required.refl.tail (hrequired b hb hsetup'))).mp halways hschedulable
  exact hothers (hschedulable.follows_avoiding
    (.single (TaskGraph.Waits.of_dependsOn TaskGraph.Required.refl hstart)) hfollows)

end BuildOrder

/-- **Setup tasks are independent** exactly when there are no queues to create with the shared
map, or the map has the redrive policy from the start.
SRC: aws/sqs/CreateSqsQueueWithDlqTask.java:77-121, aws/sqs/CreateSqsQueuesTask.java:42-70,
compose/LocalStackModule.java:123-139 -/
theorem setup_tasks_independent_iff (addresses : Addresses) (mapper : ObjectMapper RedrivePolicy)
    (task : CreateSqsQueueWithDlqTask) (queueNames : List String) (attributes : AttributeMap)
    (s : MessagingStore) (policy : String) {cwd : Path} {files : FileSystem}
    {project loaded : Project} (hload : LocalStackModule.load cwd files project = .ok loaded)
    (hdistinct : (queuesOfBoth task queueNames).Nodup)
    (hfresh : ∀ name ∈ queuesOfBoth task queueNames, s.queues name = none)
    (hpolicy : mapper.writeValueAsString
      ⟨SqsTaskUtil.getQueueArnFromName loaded (getDeadletterQueueName task), "1"⟩ =
        .ok policy) :
    SetupTasksIndependent addresses loaded mapper task queueNames attributes s ∧
        StartImposesNoOrder loaded ↔
      queueNames = [] ∨ attributes.get "RedrivePolicy" = some policy := by
  rw [setupTasksIndependent_iff ⟨hdistinct, hfresh⟩ hpolicy]
  exact and_iff_left (startImposesNoOrder hload)

/-- A store without queues and topics. -/
def noQueues : MessagingStore := ⟨fun _ => none, fun _ => none⟩

/-- What the mapper writes for the queue `orders`. -/
def ordersPolicy : String := String.ofList
  (policyText ⟨SqsTaskUtil.getQueueArnFromName sampleProject "orders-dlq", "1"⟩)

/-- What the sample mapper writes for `orders`. -/
theorem writeValueAsString_orders :
    sampleMapper.writeValueAsString
      ⟨SqsTaskUtil.getQueueArnFromName sampleProject "orders-dlq", "1"⟩ = .ok ordersPolicy := by
  have hplain :
      (SqsTaskUtil.getQueueArnFromName sampleProject "orders-dlq").toList.all isPlain = true ∧
        "1".toList.all isPlain = true := by decide
  unfold sampleMapper
  dsimp only
  rw [if_pos hplain]
  rfl

/-- With the policy in the map from the start, the tasks are independent. -/
theorem setup_tasks_independent_with_policy :
    ∃ loaded, LocalStackModule.load [] FileSystem.blank sampleProject = .ok loaded ∧
      SetupTasksIndependent sampleAddresses loaded sampleMapper { queueName := "orders" }
        ["audit", "billing"] (AttributeMap.empty.put "RedrivePolicy" ordersPolicy) noQueues ∧
      StartImposesNoOrder loaded := by
  refine ⟨_, rfl, (@setup_tasks_independent_iff sampleAddresses sampleMapper
    { queueName := "orders" } ["audit", "billing"]
    (AttributeMap.empty.put "RedrivePolicy" ordersPolicy) noQueues ordersPolicy []
    FileSystem.blank sampleProject _ rfl (by decide) (fun _ _ => rfl)
    writeValueAsString_orders).mpr ?_⟩
  right
  rw [AttributeMap.get_put, if_pos rfl]

/-- Without it, a queue that is created after the task with the dead-letter queue has run gets
its policy. -/
theorem shared_attributes_carry_policy_over :
    ¬ SetupTasksIndependent sampleAddresses sampleProject sampleMapper { queueName := "orders" }
      ["audit"] .empty noQueues := by
  have hfresh : FreshQueues { queueName := "orders" } ["audit"] noQueues :=
    ⟨by decide, fun _ _ => rfl⟩
  rw [setupTasksIndependent_iff hfresh writeValueAsString_orders]
  intro h
  cases h with
  | inl hnone => cases hnone
  | inr hhas => cases hhas

end GradleLocalstack.Analysis
