import GradleLocalstack.Analysis.Publish

/-!
# At most once, and in order

A run of `PublishSqsTask` deals the lines of its message files to the queues, each line to
all queues before the next.  A failed `sendMessage` ends the deal of its file, and the
handler of the file keeps it from `Retry`: the attempt in which a message was sent is the
last.  So every queue gets a prefix of each file (`Shares`), file after file.
-/

set_option autoImplicit false

namespace GradleLocalstack.Analysis

open Foundation GradleLocalstack.Model GradleLocalstack.Program

/-- The files are read one after the other, from world to world, and `total c` is what
queue number `c` gets: a share of each file. -/
inductive PublishedInTurn (sqs : MessagingClient) (queueNames : List String) :
    List MessageFile → (ℕ → List String) → MessagingWorld → MessagingWorld → Prop where
  | nil (w : MessagingWorld) : PublishedInTurn sqs queueNames [] (fun _ => []) w w
  | cons {file : MessageFile} {messages : List MessageFile} {total : ℕ → List String}
      {w w₁ w' : MessagingWorld}
      (p : Shares queueNames.length (nonEmpty (fileLines file)))
      (hrun : PublishSqsTask.publishFile sqs (queueNames.map sqs.addresses.queueUrls.address)
        file w = (.returned (), w₁))
      (hdealt : Dealt queueNames receivedBy p w w₁)
      (hrest : PublishedInTurn sqs queueNames messages total w₁ w') :
      PublishedInTurn sqs queueNames (file :: messages) (fun i => p.of i ++ total i) w w'

/-- A run has published nothing, or, from the world in which the URLs were known, each file
in turn. -/
def PublishedAtMostOnce (sqs : MessagingClient) (queueNames : List String)
    (messages : List MessageFile) (s : MessagingStore) (w' : MessagingWorld) : Prop :=
  NothingSent w' ∧ w'.store = s ∨
  ∃ w total, NothingSent w ∧ w.store = s ∧
    PublishedInTurn sqs queueNames messages total w w' ∧
    ∀ i (h : i < queueNames.length),
      messagesOf w'.store queueNames[i] = messagesOf s queueNames[i] ++ total i

section Run

variable {sqs : MessagingClient} {queueNames : List String} {s : MessagingStore}
  {w w' : MessagingWorld}

/-- The overall order: what a queue gets is the concatenation of its shares. -/
theorem PublishedInTurn.messagesOf_eq {messages : List MessageFile} {total : ℕ → List String}
    (h : PublishedInTurn sqs queueNames messages total w w') (i : ℕ) (hi : i < queueNames.length) :
    messagesOf w'.store queueNames[i] = messagesOf w.store queueNames[i] ++ total i := by
  induction h with
  | nil w => exact (List.append_nil _).symm
  | cons p hrun hdealt hrest ih =>
    have hfile : messagesOf _ queueNames[i] = messagesOf _ queueNames[i] ++ p.of i := hdealt i hi
    rw [ih, hfile, List.append_assoc]

/-- A file that was published has been dealt, as far as it came. -/
theorem FilePublished.exists_dealt {file : MessageFile}
    (h : FilePublished sqs queueNames file w w') :
    ∃ p : Shares queueNames.length (nonEmpty (fileLines file)),
      Dealt queueNames receivedBy p w w' := by
  cases h with
  | whole _ hall =>
    refine ⟨Shares.all, ?_⟩
    intro i hi
    rw [Shares.of_all]
    exact hall _ (List.getElem_mem hi)
  | cut e hcut _ =>
    obtain ⟨i, k, hi, hk, -, hreceived⟩ := hcut
    exact ⟨Shares.cut i hk, hreceived⟩

/-- **One file**: its handler catches all that is thrown, and each queue has got a share. -/
theorem wp_publishFile_dealt (hno : sqs.sched.NoEffect)
    (hexc : sqs.sched.Throws fun t => t.isException = true) (hnodup : queueNames.Nodup)
    (file : MessageFile) (hpresent : QueuesPresent queueNames w) :
    (PublishSqsTask.publishFile sqs (queueNames.map sqs.addresses.queueUrls.address) file).wp
      (fun _ w' => QueuesPresent queueNames w' ∧
        ∃ p : Shares queueNames.length (nonEmpty (fileLines file)),
          Dealt queueNames receivedBy p w w')
      (fun _ _ => False) w := by
  refine Prog.wp_mono (wp_publishFile hno hnodup file hpresent) ?_ ?_
  · intro _ w' hw'
    obtain ⟨hpresent', -, hfile⟩ := hw'
    exact ⟨hpresent', hfile.exists_dealt⟩
  · intro t w' hw'
    obtain ⟨-, -, hnot, hinjects, -⟩ := hw'
    rw [hexc.of_injects hinjects] at hnot
    cases hnot

/-- **All files**, in turn. -/
theorem run_publishFiles (hno : sqs.sched.NoEffect)
    (hexc : sqs.sched.Throws fun t => t.isException = true) (hnodup : queueNames.Nodup)
    (messages : List MessageFile) (w : MessagingWorld) (hpresent : QueuesPresent queueNames w) :
    ∃ w' total, Prog.forEach (PublishSqsTask.publishFile sqs
        (queueNames.map sqs.addresses.queueUrls.address)) messages w = (.returned (), w') ∧
      PublishedInTurn sqs queueNames messages total w w' := by
  induction messages generalizing w with
  | nil => exact ⟨w, _, rfl, .nil w⟩
  | cons file messages ih =>
    obtain ⟨hreturned, hpresent₁, p, hdealt⟩ :=
      Prog.wp_returns (wp_publishFile_dealt hno hexc hnodup file hpresent)
    have hrun : PublishSqsTask.publishFile sqs
        (queueNames.map sqs.addresses.queueUrls.address) file w = (.returned (), _) :=
      Prod.ext hreturned rfl
    obtain ⟨w', total, hrest, hturn⟩ := ih _ hpresent₁
    exact ⟨w', _, (Prog.run_bind_returned hrun _).trans hrest, .cons p hrun hdealt hturn⟩

/-- **The run**: an attempt that sends a message returns. -/
theorem wp_publish_atMostOnce (hno : sqs.sched.NoEffect)
    (hexc : sqs.sched.Throws fun t => t.isException = true) (hnodup : queueNames.Nodup)
    (messages : List MessageFile) :
    (PublishSqsTask.run sqs ⟨some queueNames, some messages⟩).wp
      (fun _ => PublishedAtMostOnce sqs queueNames messages s)
      (fun _ => PublishedAtMostOnce sqs queueNames messages s) (World.start s) := by
  let I : MessagingWorld → Prop := fun w => NothingSent w ∧ w.store = s
  have hlog : ∀ (o : Output) (w : MessagingWorld), I w → I (Console.emit o w) :=
    fun _ _ hw => hw
  have hstart : I (World.start s) := ⟨fun r hr => (List.not_mem_nil hr).elim, rfl⟩
  have hread : ∀ (w : MessagingWorld) name fault, NothingSent w →
      NothingSent (w.record (.getQueueUrl name) fault w.store) := by
    intro w name fault hw r hr
    cases List.mem_append.mp hr with
    | inl hold => exact hw r hold
    | inr hnew =>
      rw [List.mem_singleton.mp hnew]
      rfl
  refine wp_execute (fun _ => I) _ (fun _ => hlog) ?_ (fun w hw => .inl hw) _ hstart
  intro k w _ hw
  obtain ⟨hnothing, hstore⟩ := hw
  cases queueNames with
  | nil => exact .inl (hlog _ w ⟨hnothing, hstore⟩)
  | cons name names =>
    rw [Prog.wp_bind]
    refine Prog.wp_mono (wp_getQueueUrls hread (name :: names) w hnothing) ?_ ?_
    · intro _ w₁ hw₁
      obtain ⟨rfl, hpresent, hnothing₁, hstore₁⟩ := hw₁
      have hpresent₁ : QueuesPresent (name :: names) w₁ := by
        intro c hc
        rw [hstore₁]
        exact hpresent c hc
      obtain ⟨w', total, hrun, hturn⟩ := run_publishFiles hno hexc hnodup messages w₁ hpresent₁
      apply Prog.wp_of_returned hrun
      refine .inr ⟨w₁, total, hnothing₁, hstore₁.trans hstore, hturn, ?_⟩
      intro i hi
      rw [hturn.messagesOf_eq i hi, hstore₁, hstore]
    · intro t w₁ hw₁
      obtain ⟨hnothing₁, hstore₁⟩ := hw₁
      rw [afterError_nil]
      exact hlog _ w₁ ⟨hnothing₁, hstore₁.trans hstore⟩

end Run

/-- **Publishing is at most once and ordered**, in every run, whether it returns or throws:
of each file every queue gets a prefix of the lines that are not empty, no queue more than
the one before it, and the first at most one line more than the last; and it gets the files
in their order.
SRC: aws/sqs/PublishSqsTask.java:54-141, aws/sqs/SqsTaskUtil.java:60-70, core/Retry.java:72-93 -/
theorem publishes_at_most_once_in_order (sqs : MessagingClient) (queueNames : List String)
    (messages : List MessageFile) (s : MessagingStore) (hnodup : queueNames.Nodup)
    (hno : sqs.sched.NoEffect) (hexc : sqs.sched.Throws fun t => t.isException = true) :
    let run := PublishSqsTask.run sqs ⟨some queueNames, some messages⟩ (World.start s)
    run.1 ≠ .diverged ∧ PublishedAtMostOnce sqs queueNames messages s run.2 :=
  Prog.wp_ended (wp_publish_atMostOnce hno hexc hnodup messages)

/-- A run whose second `sendMessage` fails: the second queue is one line behind. -/
theorem publishes_prefixes_of_sample :
    let run := PublishSqsTask.run ⟨sampleAddresses, .only 3 unavailable⟩
      ⟨some ["orders", "audit"], some [sampleFile]⟩ (World.start twoQueues)
    PublishedAtMostOnce ⟨sampleAddresses, .only 3 unavailable⟩ ["orders", "audit"] [sampleFile]
        twoQueues run.2 ∧
      messagesOf run.2.store "orders" = ["1"] ∧ messagesOf run.2.store "audit" = [] :=
  ⟨(publishes_at_most_once_in_order ⟨sampleAddresses, .only 3 unavailable⟩ ["orders", "audit"]
    [sampleFile] twoQueues (by decide) (Schedule.noEffect_only rfl)
    (Schedule.throws_only rfl)).2, by decide, by decide⟩

end GradleLocalstack.Analysis
