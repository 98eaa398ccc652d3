import GradleLocalstack.Program.SnsTasks
import GradleLocalstack.Analysis.S3Delete
import GradleLocalstack.Analysis.MessagingService
import GradleLocalstack.Analysis.TableInitializer

/-!
# Deletions that report success

The run of a deletion returns only if its last attempt does, and that attempt ends with a
deletion the service has answered.  `DeleteSnsTopicTask` alone also returns on an error:
it takes the status codes 404 and 500 to mean that the topic was not there.  Nothing is
assumed about the failures, so the trace of the run says which error that was.
-/

set_option autoImplicit false

namespace GradleLocalstack.Analysis

open Foundation GradleLocalstack.Model GradleLocalstack.Program

/-! ## Buckets -/

section Buckets

variable {amazonS3 : AmazonS3} {name : String} {w : S3World}

/-- **One bucket**, there or not: when its deletion returns it is gone, and no other bucket
has appeared. -/
theorem wp_deleteBucket_returns (task : DeleteS3BucketsTask) :
    (DeleteS3BucketsTask.deleteBucket amazonS3 task name).wp
      (fun _ w' => w'.store name = none ∧ ∀ c, w.store c = none → w'.store c = none)
      (fun _ _ => True) w := by
  by_cases hforce : task.force = some true
  · cases hb : w.store name with
    | none =>
      exact Prog.wp_mono (wp_deleteBucket_gone task hb) (fun _ _ h => h.elim)
        (fun _ _ _ => trivial)
    | some b =>
      unfold DeleteS3BucketsTask.deleteBucket
      simp only [Prog.wp_bind, wp_log, deleteObjects_forced task hforce,
        deleteVersions_forced task hforce]
      refine wp_emptyBucket (b := b) hb ?_ ?_ (fun _ _ _ => trivial)
      · intro w₁ b₁ hb₁ hen
        exact wp_purgeVersions hb₁ hen
      · intro w₁ b₁ hw₁ hb₁ _
        refine wp_call (fun _ _ => trivial) ?_ (fun _ _ _ _ => trivial)
        intro r s _ hx
        refine ⟨deleteBucket_answered hx, ?_⟩
        intro c hc
        have hne : c ≠ name := by
          intro heq
          rw [heq, hb] at hc
          cases hc
        have hnone : w₁.store c = none := (hw₁.purging.other c hne).trans hc
        have hstore : ((S3.service amazonS3.pageSize).exec (.deleteBucket name) w₁.store).2 = s :=
          congrArg Prod.snd hx
        rw [← hstore]
        exact deleteBucket_none amazonS3.pageSize name hnone
  · let I : S3World → Prop := fun w' => ∀ c, w.store c = none → w'.store c = none
    have hI : KeptByReading I := ⟨fun _ _ _ h => h, fun _ _ h => h⟩
    refine Prog.wp_mono (wp_deleteBucket_unforced hI ?_ hforce fun _ h => h) (fun _ _ hq => hq)
      (fun _ _ _ => trivial)
    intro w₁ fault hw₁ c hc
    exact deleteBucket_none amazonS3.pageSize name (hw₁ c hc)

/-- **The run**: when it returns, every listed bucket is gone. -/
theorem wp_deleteBuckets_returns (task : DeleteS3BucketsTask) (w : S3World) :
    (DeleteS3BucketsTask.run amazonS3 task).wp
      (fun _ w' => ∀ buckets, task.buckets = some buckets → ∀ c ∈ buckets, w'.store c = none)
      (fun _ _ => True) w := by
  refine wp_execute_keeps (fun _ => True) _ (fun _ _ _ => trivial) ?_ w trivial
  intro w₁ _
  cases htask : task.buckets with
  | none =>
    intro buckets hbuckets
    cases hbuckets
  | some buckets =>
    refine Prog.wp_conseq (Prog.wp_forEach_establishes (fun _ => True)
      (fun c w => w.store c = none) buckets ?_ w₁ trivial) ?_
    · intro name _ w₂ _
      apply Prog.wp_conseq (wp_deleteBucket_returns task)
      intro _ w₃ hw₃
      exact ⟨trivial, hw₃.1, hw₃.2⟩
    · intro _ w' hw' buckets' hbuckets
      cases hbuckets
      exact hw'.2

end Buckets

/-! ## Tables -/

section Tables

variable {amazonDynamoDB : AmazonDynamoDB}

/-- A table whose deletion was answered is gone. -/
theorem deleteTable_answered {pageSize : ℕ} {tableName : String} {s s' : DynamoDbStore}
    {r : Unit}
    (h : (DynamoDb.service pageSize).exec (.deleteTable tableName) s = (.ok r, s')) :
    tableName ∉ s'.names := by
  by_cases hmem : tableName ∈ s.names
  · have hremoved : (DynamoDb.service pageSize).exec (.deleteTable tableName) s =
        (.ok (), s.remove tableName) := by
      simp [DynamoDb.service, hmem]
    rw [hremoved] at h
    cases h
    exact s.not_mem_names_remove tableName
  · simp [DynamoDb.service, hmem] at h

/-- **One attempt.** -/
theorem wp_deleteTable_attempt (task : DeleteDynamoDbTableTask) (w : DynamoDbWorld) :
    (DeleteDynamoDbTableTask.attempt amazonDynamoDB task).wp
      (fun _ w' => task.tableName ∉ w'.store.names) (fun _ _ => True) w := by
  unfold DeleteDynamoDbTableTask.attempt
  simp only [Prog.wp_bind, wp_log]
  apply Prog.wp_conseq
    (wp_tableExists (I := fun _ => True) task.tableName (fun _ _ _ h => h) trivial)
  intro tableExists w₁ _
  have hdelete : (amazonDynamoDB.deleteTable task.tableName).wp
      (fun _ w' => task.tableName ∉ w'.store.names) (fun _ _ => True) w₁ := by
    refine wp_call (fun _ _ => trivial) ?_ (fun _ _ _ _ => trivial)
    intro r s _ hx
    exact deleteTable_answered hx
  cases tableExists with
  | false => exact trivial
  | true =>
    simp only [Bool.not_true, Bool.false_eq_true, if_false, Prog.wp_bind, wp_log]
    exact hdelete

/-- **The run**: when it returns, the table is gone. -/
theorem wp_deleteTable_returns (task : DeleteDynamoDbTableTask) (w : DynamoDbWorld) :
    (DeleteDynamoDbTableTask.run amazonDynamoDB task).wp
      (fun _ w' => task.tableName ∉ w'.store.names) (fun _ _ => True) w :=
  wp_execute_keeps (fun _ => True) _ (fun _ _ _ => trivial)
    (fun w₁ _ => wp_deleteTable_attempt task w₁) w trivial

end Tables

/-! ## Topics -/

section Topics

variable {amazonSNS : MessagingClient} {project : Project}

/-- The last call of the run was answered with an error of this status code. -/
def LastAnswered (statusCode : ℕ) (w : MessagingWorld) : Prop :=
  ∃ r ∈ w.trace.getLast?, ∃ f, r.fault = some f ∧ f.error.getStatusCode = some statusCode ∧
    r.after = w.store

/-- Every 404 of the run was answered while the topic did not exist. -/
def NotFoundMeansGone (topicName : String) (w : MessagingWorld) : Prop :=
  ∀ r ∈ w.trace, ∀ f, r.fault = some f → f.error.getStatusCode = some 404 →
    r.after.topics topicName = none

/-- **One attempt** returns after an answered deletion, or after one of the two errors. -/
theorem wp_deleteTopic_attempt
    (harn : ∀ name, amazonSNS.addresses.topicArns.address name =
      SnsTaskUtil.getTopicArn project name)
    (task : DeleteSnsTopicTask) (w : MessagingWorld) :
    (DeleteSnsTopicTask.attempt amazonSNS project task).wp
      (fun _ w' => w'.store.topics task.topicName = none ∨ LastAnswered 404 w' ∨
        LastAnswered 500 w')
      (fun _ _ => True) w := by
  unfold DeleteSnsTopicTask.attempt
  rw [Prog.wp_tryCatch, Prog.wp_bind, wp_log, Prog.wp_bind]
  have hdelete : ∀ s, Messaging.deleteTopic amazonSNS.addresses
      (SnsTaskUtil.getTopicArn project task.topicName) s =
        (.ok (), { s with topics := Function.update s.topics task.topicName none }) := by
    intro s
    unfold Messaging.deleteTopic
    rw [← harn task.topicName, amazonSNS.addresses.topicArns.resolve_address]
  refine wp_call ?_ ?_ ?_
  · intro f _
    have hlast : ∀ statusCode s, f.error.getStatusCode = some statusCode →
        LastAnswered statusCode (Console.emit (.line "Topic Not Found!")
          ((Console.emit (.line s!"Deleting SNS topic: {task.topicName}") w).record
            (.deleteTopic (SnsTaskUtil.getTopicArn project task.topicName)) (some f) s)) := by
      intro statusCode s hcode
      exact ⟨⟨.deleteTopic (SnsTaskUtil.getTopicArn project task.topicName), some f, s⟩,
        by simp, f, rfl, hcode, rfl⟩
    by_cases hcode : f.error.getStatusCode = some 404 ∨ f.error.getStatusCode = some 500
    · rw [if_pos hcode]
      right
      cases hcode with
      | inl h404 => exact .inl (hlast 404 _ h404)
      | inr h500 => exact .inr (hlast 500 _ h500)
    · rw [if_neg hcode]
      exact trivial
  · intro r s _ hx
    left
    have hs : s = { w.store with
        topics := Function.update w.store.topics task.topicName none } :=
      (congrArg Prod.snd ((hdelete w.store).symm.trans hx)).symm
    rw [hs]
    exact Function.update_self ..
  · intro e s _ hx
    have hanswer := congrArg Prod.fst ((hdelete w.store).symm.trans hx)
    cases hanswer

/-- **The run**: when it returns, the topic is gone, or its last call was answered with one
of the two errors. -/
theorem wp_deleteTopic_returns
    (harn : ∀ name, amazonSNS.addresses.topicArns.address name =
      SnsTaskUtil.getTopicArn project name)
    (task : DeleteSnsTopicTask) (w : MessagingWorld) :
    (DeleteSnsTopicTask.run amazonSNS project task).wp
      (fun _ w' => w'.store.topics task.topicName = none ∨ LastAnswered 404 w' ∨
        LastAnswered 500 w')
      (fun _ _ => True) w :=
  wp_execute_keeps (fun _ => True) _ (fun _ _ _ => trivial)
    (fun w₁ _ => wp_deleteTopic_attempt harn task w₁) w trivial

end Topics

/-- **What a deletion that reports success has deleted**: the listed buckets and the table
are gone, and so is the topic, unless the last answer was an error 500.
SRC: aws/s3/DeleteS3BucketsTask.java:52-115, aws/dynamodb/DeleteDynamoDbTableTask.java:38-58,
aws/sns/DeleteSnsTopicTask.java:37-59, core/Retry.java:72-93 -/
theorem reported_deletion_deletes :
    (∀ (amazonS3 : AmazonS3) (task : DeleteS3BucketsTask) (w w' : S3World),
      DeleteS3BucketsTask.run amazonS3 task w = (.returned (), w') →
      ∀ buckets, task.buckets = some buckets → ∀ c ∈ buckets, w'.store c = none) ∧
    (∀ (amazonDynamoDB : AmazonDynamoDB) (task : DeleteDynamoDbTableTask) (w w' : DynamoDbWorld),
      DeleteDynamoDbTableTask.run amazonDynamoDB task w = (.returned (), w') →
      task.tableName ∉ w'.store.names) ∧
    (∀ (amazonSNS : MessagingClient) (project : Project) (task : DeleteSnsTopicTask)
      (w w' : MessagingWorld),
      (∀ name, amazonSNS.addresses.topicArns.address name =
        SnsTaskUtil.getTopicArn project name) →
      DeleteSnsTopicTask.run amazonSNS project task w = (.returned (), w') →
      NotFoundMeansGone task.topicName w' →
      w'.store.topics task.topicName = none ∨ LastAnswered 500 w') := by
  refine ⟨?_, ?_, ?_⟩
  · intro amazonS3 task w w' hrun
    exact Prog.wp_returned (wp_deleteBuckets_returns task w) hrun
  · intro amazonDynamoDB task w w' hrun
    exact Prog.wp_returned (wp_deleteTable_returns task w) hrun
  · intro amazonSNS project task w w' harn hrun hgone
    rcases Prog.wp_returned (wp_deleteTopic_returns harn task w) hrun with h | h404 | h500
    · exact .inl h
    · left
      obtain ⟨r, hr, f, hf, hcode, hafter⟩ := h404
      rw [← hafter]
      exact hgone r (List.mem_of_getLast? hr) f hf hcode
    · exact .inr h500

/-! ## Runs to try the result on -/

/-- A store with one topic. -/
def oneTopic : MessagingStore where
  queues := fun _ => none
  topics := Function.update (fun _ => none) "orders" (some ⟨[]⟩)

/-- The answer 500 to the first call. -/
def internalErrorFirst : Schedule Throwable :=
  .only 0 ⟨.service ⟨"com.amazonaws.services.sns.model.InternalErrorException", true⟩
    (some "Internal Error") 500, false⟩

/-- A store with one table. -/
def oneTable : DynamoDbStore where
  tables := [{ tableName := "product", keySchema := [⟨"id", "HASH"⟩] }]
  nodup_names := by decide

/-- The first call takes effect and times out; the next one is answered 404. -/
def lostThenNotFound : Schedule Throwable
  | 0 => some ⟨.plain ⟨"com.amazonaws.SdkClientException", true⟩ (some "Read timed out"), true⟩
  | 1 => some ⟨.service ⟨"com.amazonaws.services.sns.model.NotFoundException", true⟩
      (some "Topic does not exist") 404, false⟩
  | _ => none

/-- Two buckets with a failing first call, a table, and a topic whose deletion is reported as
failed and which the second attempt finds gone. -/
theorem reported_deletion_deletes_samples :
    (∀ c ∈ ["orders", "catalog"], (DeleteS3BucketsTask.run (sampleClient (busyAt 0))
        ⟨some ["orders", "catalog"], some true⟩ (World.start twoBuckets)).2.store c = none) ∧
      "product" ∉ (DeleteDynamoDbTableTask.run ⟨1, Nat.one_pos, .clear⟩ ⟨"product"⟩
        (World.start oneTable)).2.store.names ∧
      ((DeleteSnsTopicTask.run ⟨sampleAddresses, lostThenNotFound⟩ sampleProject ⟨"orders"⟩
          (World.start oneTopic)).2.store.topics "orders" = none ∨
        LastAnswered 500 (DeleteSnsTopicTask.run ⟨sampleAddresses, lostThenNotFound⟩
          sampleProject ⟨"orders"⟩ (World.start oneTopic)).2) := by
  refine ⟨?_, ?_, ?_⟩
  · exact reported_deletion_deletes.1 (sampleClient (busyAt 0))
      ⟨some ["orders", "catalog"], some true⟩ (World.start twoBuckets) _
      (Prod.ext (by decide) rfl) _ rfl
  · exact reported_deletion_deletes.2.1 ⟨1, Nat.one_pos, .clear⟩ ⟨"product"⟩
      (World.start oneTable) _ (Prod.ext (by decide) rfl)
  · apply reported_deletion_deletes.2.2 ⟨sampleAddresses, lostThenNotFound⟩ sampleProject
      ⟨"orders"⟩ (World.start oneTopic) _ topicArn_of_sample (Prod.ext (by decide) rfl)
    -- both calls left the topic gone
    have hgone : (DeleteSnsTopicTask.run ⟨sampleAddresses, lostThenNotFound⟩ sampleProject
        ⟨"orders"⟩ (World.start oneTopic)).2.trace.map (fun r => r.after.topics "orders") =
          [none, none] := by decide
    intro r hr _ _ _
    have hafter : r.after.topics "orders" ∈ [none, none] := hgone ▸ List.mem_map_of_mem hr
    simpa using hafter

/-- A topic whose deletion is answered with an error 500 stays, and the run reports
success. -/
theorem topic_survives_reported_deletion :
    ¬ ∀ (amazonSNS : MessagingClient) (project : Project) (task : DeleteSnsTopicTask)
      (s : MessagingStore),
      (∀ name, amazonSNS.addresses.topicArns.address name =
        SnsTaskUtil.getTopicArn project name) →
      amazonSNS.sched.NoEffect →
      (DeleteSnsTopicTask.run amazonSNS project task (World.start s)).1 = .returned () →
      NotFoundMeansGone task.topicName
        (DeleteSnsTopicTask.run amazonSNS project task (World.start s)).2 →
      (DeleteSnsTopicTask.run amazonSNS project task (World.start s)).2.store.topics
        task.topicName = none := by
  intro h
  have hstays := h ⟨sampleAddresses, internalErrorFirst⟩ sampleProject ⟨"orders"⟩ oneTopic
    topicArn_of_sample (Schedule.noEffect_only rfl) (by decide) ?_
  · exact absurd hstays (by decide)
  · intro r hr f hf hcode
    have hfaults : (DeleteSnsTopicTask.run ⟨sampleAddresses, internalErrorFirst⟩ sampleProject
        ⟨"orders"⟩ (World.start oneTopic)).2.trace.map CallRecord.fault =
          [internalErrorFirst 0] := by decide
    have hfault : r.fault ∈ [internalErrorFirst 0] := hfaults ▸ List.mem_map_of_mem hr
    rw [List.mem_singleton.mp hfault] at hf
    cases hf
    cases hcode

end GradleLocalstack.Analysis
