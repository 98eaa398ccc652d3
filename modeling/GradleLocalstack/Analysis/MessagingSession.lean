import GradleLocalstack.Analysis.MessagingFootprint

/-!
# Queues and topics over a whole session

A session runs any tasks in any order, each under its own failures, and an action that throws
leaves what it has done so far.  `MessagingKept` says what nevertheless holds between its
beginning and its end: no queue is ever lost, messages go only where a purge was asked for and
come only where publishing was, and topics with their endpoints go only where a deletion was.

`Topics.subscribeQueue` also writes the attribute `Policy` of its queue, which the model leaves
out.  What is said of the attributes after a session is therefore said of the others.
-/

set_option autoImplicit false

namespace GradleLocalstack.Analysis

open Foundation GradleLocalstack.Model GradleLocalstack.Program

/-! ## What allowed calls keep -/

/-- How a queue may change: its attributes but for those set apart, the messages it had, and
those it gets. -/
structure QueueKept (rights : MessagingRights) (apart : Set String) (c : String)
    (q q' : Queue) : Prop where
  attributes : c ∉ rights.relink → ∀ key ∉ apart, q'.attributes.get key = q.attributes.get key
  messages : c ∉ rights.purge → q.messages <+: q'.messages
  unsent : c ∉ rights.send → q'.messages = q.messages ∨ c ∈ rights.purge ∧ q'.messages = []

/-- What the rights leave of the queues and topics. -/
structure MessagingKept (rights : MessagingRights) (apart : Set String)
    (s s' : MessagingStore) : Prop where
  /-- No queue is lost. -/
  queue : ∀ c q, s.queues c = some q →
    ∃ q', s'.queues c = some q' ∧ QueueKept rights apart c q q'
  /-- A new queue was asked for, and is empty unless it was sent to. -/
  created : ∀ c q', s.queues c = none → s'.queues c = some q' →
    c ∈ rights.create ∧ (c ∉ rights.send → q'.messages = [])
  /-- A topic that is not deleted keeps its endpoints. -/
  topic : ∀ n t, s.topics n = some t → n ∉ rights.deleteTopic →
    ∃ t', s'.topics n = some t' ∧ t.endpoints <+: t'.endpoints
  /-- A topic that is not asked for stays as it is, or is deleted. -/
  untouched : ∀ n, n ∉ rights.createTopic →
    s'.topics n = s.topics n ∨ n ∈ rights.deleteTopic ∧ s'.topics n = none

section Kept

variable {rights : MessagingRights} {apart : Set String} {addresses : Addresses}
  {s s' : MessagingStore} {c n : String} {q q' : Queue}

/-- A queue that stays as it is. -/
theorem QueueKept.refl : QueueKept rights apart c q q :=
  ⟨fun _ _ _ => rfl, fun _ => List.prefix_rfl, fun _ => .inl rfl⟩

/-- One change after the other. -/
theorem QueueKept.trans {q'' : Queue} (h : QueueKept rights apart c q q')
    (h' : QueueKept rights apart c q' q'') : QueueKept rights apart c q q'' where
  attributes hc key hkey := (h'.attributes hc key hkey).trans (h.attributes hc key hkey)
  messages hc := (h.messages hc).trans (h'.messages hc)
  unsent hc := by
    cases h'.unsent hc with
    | inl hsame =>
      rw [hsame]
      exact h.unsent hc
    | inr hpurged => exact .inr hpurged

/-- What is kept at every call is kept by a run. -/
instance : IsPreorder MessagingStore (MessagingKept rights apart) where
  refl s :=
    { queue := fun c q hq => ⟨q, hq, .refl⟩
      created := fun c q' hnone hsome => by
        rw [hnone] at hsome
        cases hsome
      topic := fun n t ht _ => ⟨t, ht, List.prefix_rfl⟩
      untouched := fun _ _ => .inl rfl }
  trans s₁ s₂ s₃ h h' :=
    { queue := fun c q hq => by
        obtain ⟨q₂, hq₂, hkept⟩ := h.queue c q hq
        obtain ⟨q₃, hq₃, hkept'⟩ := h'.queue c q₂ hq₂
        exact ⟨q₃, hq₃, hkept.trans hkept'⟩
      created := fun c q₃ hnone hsome => by
        cases hq₂ : s₂.queues c with
        | none => exact h'.created c q₃ hq₂ hsome
        | some q₂ =>
          obtain ⟨hcreate, hempty⟩ := h.created c q₂ hnone hq₂
          obtain ⟨q, hq, hkept⟩ := h'.queue c q₂ hq₂
          obtain rfl : q = q₃ := Option.some.inj (hq.symm.trans hsome)
          refine ⟨hcreate, fun hsend => ?_⟩
          cases hkept.unsent hsend with
          | inl hsame => exact hsame.trans (hempty hsend)
          | inr hpurged => exact hpurged.2
      topic := fun n t ht hn => by
        obtain ⟨t₂, ht₂, hprefix⟩ := h.topic n t ht hn
        obtain ⟨t₃, ht₃, hprefix'⟩ := h'.topic n t₂ ht₂ hn
        exact ⟨t₃, ht₃, hprefix.trans hprefix'⟩
      untouched := fun n hn => by
        cases h'.untouched n hn with
        | inl hsame =>
          rw [hsame]
          exact h.untouched n hn
        | inr hgone => exact .inr hgone }

/-- A change of one queue. -/
theorem kept_of_queue (hq : s.queues c = some q) (h : QueueKept rights apart c q q') :
    MessagingKept rights apart s { s with queues := Function.update s.queues c (some q') } where
  queue d p hp := by
    by_cases hd : d = c
    · subst hd
      obtain rfl : q = p := Option.some.inj (hq.symm.trans hp)
      exact ⟨q', Function.update_self .., h⟩
    · exact ⟨p, (Function.update_of_ne hd ..).trans hp, .refl⟩
  created d p hnone hsome := by
    have hd : d ≠ c := by
      rintro rfl
      rw [hq] at hnone
      cases hnone
    have hnone' : Function.update s.queues c (some q') d = none :=
      (Function.update_of_ne hd ..).trans hnone
    cases hnone'.symm.trans hsome
  topic n t ht _ := ⟨t, ht, List.prefix_rfl⟩
  untouched _ _ := .inl rfl

/-- A new queue. -/
theorem kept_of_newQueue {attributes : AttributeMap} (hq : s.queues c = none)
    (hc : c ∈ rights.create) :
    MessagingKept rights apart s
      { s with queues := Function.update s.queues c (some ⟨attributes, []⟩) } where
  queue d p hp := by
    have hd : d ≠ c := by
      rintro rfl
      rw [hq] at hp
      cases hp
    exact ⟨p, (Function.update_of_ne hd ..).trans hp, .refl⟩
  created d p hnone hsome := by
    by_cases hd : d = c
    · subst hd
      have hnew : Function.update s.queues d (some ⟨attributes, []⟩) d = some ⟨attributes, []⟩ :=
        Function.update_self ..
      cases hnew.symm.trans hsome
      exact ⟨hc, fun _ => rfl⟩
    · have hnone' : Function.update s.queues c (some ⟨attributes, []⟩) d = none :=
        (Function.update_of_ne hd ..).trans hnone
      cases hnone'.symm.trans hsome
  topic n t ht _ := ⟨t, ht, List.prefix_rfl⟩
  untouched _ _ := .inl rfl

/-- A topic that is new or has one endpoint more. -/
theorem kept_of_topic {t' : Topic} (hn : n ∈ rights.createTopic)
    (h : ∀ t, s.topics n = some t → t.endpoints <+: t'.endpoints) :
    MessagingKept rights apart s ⟨s.queues, Function.update s.topics n (some t')⟩ where
  queue d p hp := ⟨p, hp, .refl⟩
  created d p hnone hsome := by
    rw [hnone] at hsome
    cases hsome
  topic m t ht _ := by
    by_cases hm : m = n
    · subst hm
      exact ⟨t', Function.update_self .., h t ht⟩
    · exact ⟨t, (Function.update_of_ne hm ..).trans ht, List.prefix_rfl⟩
  untouched m hm := by
    have hne : m ≠ n := by
      rintro rfl
      exact hm hn
    exact .inl (Function.update_of_ne hne ..)

/-- A topic that is gone. -/
theorem kept_of_noTopic (hn : n ∈ rights.deleteTopic) :
    MessagingKept rights apart s { s with topics := Function.update s.topics n none } where
  queue d p hp := ⟨p, hp, .refl⟩
  created d p hnone hsome := by
    rw [hnone] at hsome
    cases hsome
  topic m t ht hm := by
    have hne : m ≠ n := by
      rintro rfl
      exact hm hn
    exact ⟨t, (Function.update_of_ne hne ..).trans ht, List.prefix_rfl⟩
  untouched m _ := by
    by_cases hm : m = n
    · subst hm
      exact .inr ⟨hn, Function.update_self ..⟩
    · exact .inl (Function.update_of_ne hm ..)

/-- A queue that was found is there. -/
theorem findQueue_eq_ok {url : String}
    (h : Messaging.findQueue addresses s (some url) = .ok (c, q)) :
    c ∈ addresses.queueUrls.resolve url ∧ s.queues c = some q := by
  unfold Messaging.findQueue at h
  rw [Option.bind_some] at h
  cases hres : addresses.queueUrls.resolve url with
  | none => simp [hres] at h
  | some d =>
    cases hq : s.queues d with
    | none => simp [hres, hq] at h
    | some p =>
      simp only [hres, hq, Except.ok.injEq, Prod.mk.injEq] at h
      obtain ⟨rfl, rfl⟩ := h
      exact ⟨rfl, hq⟩

/-- A topic that was found is there. -/
theorem findTopic_eq_ok {topicArn : String} {t : Topic}
    (h : Messaging.findTopic addresses s topicArn = .ok (n, t)) :
    n ∈ addresses.topicArns.resolve topicArn ∧ s.topics n = some t := by
  unfold Messaging.findTopic at h
  cases hres : addresses.topicArns.resolve topicArn with
  | none => simp [hres] at h
  | some m =>
    cases ht : s.topics m with
    | none => simp [hres, ht] at h
    | some p =>
      simp only [hres, ht, Except.ok.injEq, Prod.mk.injEq] at h
      obtain ⟨rfl, rfl⟩ := h
      exact ⟨rfl, ht⟩

/-- **Every call that the rights allow** leaves what the rights promise. -/
theorem kept_of_allowed {call : MessagingCall} (h : rights.Allows addresses call)
    (s : MessagingStore) :
    MessagingKept rights apart s ((Messaging.service addresses).exec call s).2 := by
  have hrefl : MessagingKept rights apart s s := refl_of (MessagingKept rights apart) s
  cases call with
  | getQueueUrl name =>
    show MessagingKept rights apart s (Messaging.getQueueUrl addresses name s).2
    rw [getQueueUrl_store]
    exact hrefl
  | createQueue request =>
    show MessagingKept rights apart s (Messaging.createQueue addresses request s).2
    cases hq : s.queues request.queueName with
    | none =>
      rw [createQueue_of_none hq]
      exact kept_of_newQueue hq h
    | some q =>
      rw [createQueue_store_of_some hq]
      exact hrefl
  | sendMessage queueUrl messageBody =>
    show MessagingKept rights apart s (Messaging.sendMessage addresses queueUrl messageBody s).2
    unfold Messaging.sendMessage
    split
    · exact hrefl
    · rename_i c q hfind
      obtain ⟨hres, hq⟩ := findQueue_eq_ok hfind
      exact kept_of_queue hq
        ⟨fun _ _ _ => rfl, fun _ => List.prefix_append _ _, fun hsend => absurd (h c hres) hsend⟩
  | setQueueAttributes queueUrl attributes =>
    show MessagingKept rights apart s
      (Messaging.setQueueAttributes addresses queueUrl attributes s).2
    unfold Messaging.setQueueAttributes
    split
    · exact hrefl
    · rename_i c q hfind
      obtain ⟨hres, hq⟩ := findQueue_eq_ok hfind
      exact kept_of_queue hq
        ⟨fun hrelink => absurd (h c hres) hrelink, fun _ => List.prefix_rfl, fun _ => .inl rfl⟩
  | purgeQueue queueUrl =>
    show MessagingKept rights apart s (Messaging.purgeQueue addresses queueUrl s).2
    unfold Messaging.purgeQueue
    split
    · exact hrefl
    · rename_i c q hfind
      obtain ⟨hres, hq⟩ := findQueue_eq_ok hfind
      exact kept_of_queue hq
        ⟨fun _ _ _ => rfl, fun hpurge => absurd (h c hres) hpurge, fun _ => .inr ⟨h c hres, rfl⟩⟩
  | createTopic name =>
    show MessagingKept rights apart s (Messaging.createTopic addresses name s).2
    unfold Messaging.createTopic
    split
    · exact hrefl
    · rename_i hnone
      refine kept_of_topic h fun t ht => ?_
      rw [ht] at hnone
      exact absurd rfl hnone
  | subscribeQueue topicArn queueUrl =>
    show MessagingKept rights apart s (Messaging.subscribeQueue addresses topicArn queueUrl s).2
    unfold Messaging.subscribeQueue
    split
    · exact hrefl
    · exact hrefl
    · rename_i n topic _ hfind
      obtain ⟨hres, ht⟩ := findTopic_eq_ok hfind
      refine kept_of_topic (h n hres) fun t ht' => ?_
      obtain rfl : topic = t := Option.some.inj (ht.symm.trans ht')
      split
      · exact List.prefix_rfl
      · exact List.prefix_append _ _
  | deleteTopic topicArn =>
    show MessagingKept rights apart s (Messaging.deleteTopic addresses topicArn s).2
    unfold Messaging.deleteTopic
    split
    · exact hrefl
    · rename_i n hres
      exact kept_of_noTopic (h n hres)

end Kept

/-! ## Tasks and sessions -/

/-- Fewer rights are below more. -/
instance : LE MessagingRights where
  le r r' := r.create ⊆ r'.create ∧ r.send ⊆ r'.send ∧ r.relink ⊆ r'.relink ∧
    r.purge ⊆ r'.purge ∧ r.createTopic ⊆ r'.createTopic ∧ r.deleteTopic ⊆ r'.deleteTopic

/-- The rights that some action of the session has. -/
def sessionMessagingRights (env : Environment) (actions : List AwsTask.Action) :
    MessagingRights where
  create := { c | ∃ a ∈ actions, c ∈ (a.1.messagingRights env).create }
  send := { c | ∃ a ∈ actions, c ∈ (a.1.messagingRights env).send }
  relink := { c | ∃ a ∈ actions, c ∈ (a.1.messagingRights env).relink }
  purge := { c | ∃ a ∈ actions, c ∈ (a.1.messagingRights env).purge }
  createTopic := { n | ∃ a ∈ actions, n ∈ (a.1.messagingRights env).createTopic }
  deleteTopic := { n | ∃ a ∈ actions, n ∈ (a.1.messagingRights env).deleteTopic }

/-- What fewer rights allow, more rights allow. -/
theorem MessagingRights.Allows.mono {rights rights' : MessagingRights} {addresses : Addresses}
    {call : MessagingCall} (h : rights.Allows addresses call) (hle : rights ≤ rights') :
    rights'.Allows addresses call := by
  obtain ⟨hcreate, hsend, hrelink, hpurge, hcreateTopic, hdeleteTopic⟩ := hle
  cases call with
  | getQueueUrl _ => trivial
  | createQueue _ => exact hcreate h
  | sendMessage _ _ => exact fun c hc => hsend (h c hc)
  | setQueueAttributes _ _ => exact fun c hc => hrelink (h c hc)
  | purgeQueue _ => exact fun c hc => hpurge (h c hc)
  | createTopic _ => exact hcreateTopic h
  | subscribeQueue _ _ => exact fun n hn => hcreateTopic (h n hn)
  | deleteTopic _ => exact fun n hn => hdeleteTopic (h n hn)

/-- The rights of an action are rights of its session. -/
theorem rights_le_session {env : Environment} {actions : List AwsTask.Action}
    {a : AwsTask.Action} (ha : a ∈ actions) :
    a.1.messagingRights env ≤ sessionMessagingRights env actions :=
  ⟨fun _ h => ⟨a, ha, h⟩, fun _ h => ⟨a, ha, h⟩, fun _ h => ⟨a, ha, h⟩, fun _ h => ⟨a, ha, h⟩,
    fun _ h => ⟨a, ha, h⟩, fun _ h => ⟨a, ha, h⟩⟩

section Sessions

variable {env : Environment} {sched : Schedule Throwable}

/-- **Each task makes only calls that its rights allow**, however its run ends. -/
theorem run_evolves (task : AwsTask) (s : LocalStack) :
    Evolves (Messaging.service env.addresses) ((task.messagingRights env).Allows env.addresses)
      s.messaging (task.run env sched s).2.messaging := by
  have hrefl : ∀ P, Evolves (Messaging.service env.addresses) P s.messaging s.messaging :=
    fun P => refl_of (Evolves _ P) s.messaging
  cases task with
  | createSqsQueues task =>
    have h : KeepsTo ((AwsTask.createSqsQueues task).messagingRights env) (env.messaging sched)
        (fun _ => True) (task.run (env.messaging sched)) :=
      keepsTo_createSqsQueues fun _ hc => hc
    exact (h (World.start s.messaging)).1
  | createSqsQueueWithDlq task =>
    have h : (CreateSqsQueueWithDlqTask.run (env.messaging sched) env.project env.mapper).Within
        (TaskEvolves ((AwsTask.createSqsQueueWithDlq task).messagingRights env)
          (env.messaging sched) task) (fun _ => True) :=
      within_createSqsQueueWithDlq env.project env.mapper (Set.mem_insert ..)
        (Set.mem_insert_of_mem _ rfl) rfl
    exact ((h (World.start s.messaging, task)).1 ⟨rfl, rfl⟩).2
  | publishSqs task =>
    have h : KeepsTo ((AwsTask.publishSqs task).messagingRights env) (env.messaging sched)
        (fun _ => True) (task.run (env.messaging sched)) :=
      keepsTo_publishSqs fun _ hc => hc
    exact (h (World.start s.messaging)).1
  | purgeSqsQueues task =>
    have h : KeepsTo ((AwsTask.purgeSqsQueues task).messagingRights env) (env.messaging sched)
        (fun _ => True) (task.run (env.messaging sched)) :=
      keepsTo_purgeSqsQueues fun _ hc => hc
    exact (h (World.start s.messaging)).1
  | createSnsTopicWithSqsEndpoint task =>
    have h : KeepsTo ((AwsTask.createSnsTopicWithSqsEndpoint task).messagingRights env)
        (env.messaging sched) (fun _ => True) (task.run (env.messaging sched)) :=
      keepsTo_createSnsTopic rfl rfl
    exact (h (World.start s.messaging)).1
  | deleteSnsTopic task =>
    have h : KeepsTo ((AwsTask.deleteSnsTopic task).messagingRights env) (env.messaging sched)
        (fun _ => True) (task.run (env.messaging sched) env.project) :=
      keepsTo_deleteSnsTopic fun _ hn => hn
    exact (h (World.start s.messaging)).1
  | createS3Buckets _ => exact hrefl _
  | purgeS3Buckets _ => exact hrefl _
  | deleteS3Buckets _ => exact hrefl _
  | createDynamoDbTable _ => exact hrefl _
  | deleteDynamoDbTable _ => exact hrefl _

/-- What every action of a session keeps is kept by the session. -/
theorem session_keeps {R : LocalStack → LocalStack → Prop} [IsPreorder LocalStack R]
    {actions : List AwsTask.Action}
    (h : ∀ a ∈ actions, ∀ s, R s (a.1.run env a.2 s).2) (s : LocalStack) :
    R s (AwsTask.session env actions s) := by
  unfold AwsTask.session
  induction actions generalizing s with
  | nil => exact refl_of R s
  | cons a actions ih =>
    rw [List.foldl_cons]
    exact trans_of R (h a List.mem_cons_self s)
      (ih (fun b hb => h b (List.mem_cons_of_mem a hb)) _)

/-- **Queues and topics over a session.**  Whatever tasks run, in whatever order, whatever
failures they meet and however each of them ends: no queue is lost, and each queue, its `Policy`
apart, and each topic changes only as some task of the session was configured to change it. -/
theorem session_messagingKept (env : Environment) (actions : List AwsTask.Action)
    (s : LocalStack) :
    MessagingKept (sessionMessagingRights env actions) {"Policy"} s.messaging
      (AwsTask.session env actions s).messaging := by
  have hpre : IsPreorder LocalStack fun s s' =>
      MessagingKept (sessionMessagingRights env actions) {"Policy"} s.messaging s'.messaging :=
    { refl := fun s => refl_of (MessagingKept _ _) s.messaging
      trans := fun _ _ _ h h' => trans_of (MessagingKept _ _) h h' }
  refine session_keeps (R := fun s s' => MessagingKept (sessionMessagingRights env actions)
    {"Policy"} s.messaging s'.messaging) (fun a ha s => ?_) s
  refine (run_evolves a.1 s).keeps (fun c s hc => kept_of_allowed ?_ s)
  exact hc.mono (rights_le_session ha)

end Sessions

end GradleLocalstack.Analysis
