import GradleLocalstack.Analysis.Deletion
import GradleLocalstack.Analysis.S3Purge
import GradleLocalstack.Analysis.SecondBuild
import GradleLocalstack.Analysis.SqsPurge

/-!
# Every build ends

The tasks of `AwsTask` loop over what the services list, and retry what failed.  An attempt goes
through a collection that it may be emptying, and every loop over a listing gets behind its end;
so each task ends, returned or thrown, whatever fails and whatever there is.  An initializer of
the project is taken to end, and so is every other task of a build.  (Of the tasks that list what
there is, `ListSnsTopicSubscriptionsTask` need not end: `listPages_diverges`.)
-/

set_option autoImplicit false

namespace GradleLocalstack.Analysis

open Foundation GradleLocalstack.Model GradleLocalstack.Program

/-- A retried function that ends. -/
theorem ends_execute {ω α : Type} [Console ω] {fn : Prog ω Throwable α} {maxRetries : ℤ}
    {expectedErrors : List JavaClass} (hpos : 0 < maxRetries) (h : fn.Ends) :
    (Retry.execute fn maxRetries expectedErrors).Ends :=
  quiet_execute hpos (fun _ _ _ => trivial) h

/-- Printing ends. -/
theorem ends_log {ω : Type} [Console ω] (text : String) :
    (log text : Prog ω Throwable Unit).Ends := quiet_log (fun _ _ _ => trivial) text

/-! ## Publishing and deleting a topic -/

section Messaging

variable {client : MessagingClient}

/-- Asking for the URLs of queues ends. -/
theorem ends_getQueueUrls (names : List String) :
    (SqsTaskUtil.getQueueUrls client names).Ends :=
  .of_wp fun w => ⟨_, _, wp_getQueueUrls (I := fun _ => True) (fun _ _ _ h => h) names w trivial⟩

/-- A line is sent to each queue in turn. -/
theorem ends_publishLine (queueUrls : List String) (line : String) :
    (PublishSqsTask.publishLine client queueUrls line).Ends := by
  unfold PublishSqsTask.publishLine
  split
  · exact .pure trivial
  · exact .forEach fun queueUrl _ => ends_call _ _ (MessagingCall.sendMessage queueUrl line)

/-- Reading a source ends if its body does. -/
theorem ends_readAll {α : Type} {body : α → Prog MessagingWorld Throwable Unit}
    (hbody : ∀ a, (body a).Ends) (source : Source α) :
    (PublishSqsTask.readAll body source).Ends := by
  refine .bind (.forEach fun a _ => hbody a) fun _ _ => ?_
  cases source.failure with
  | some e => exact .throw trivial _
  | none => exact .pure trivial

/-- Reading a source that may not open ends if its body does. -/
theorem ends_openAndRead {α : Type} {body : α → Prog MessagingWorld Throwable Unit}
    (hbody : ∀ a, (body a).Ends) (source : Except JavaException (Source α)) :
    (PublishSqsTask.openAndRead body source).Ends := by
  cases source with
  | error e => exact .throw trivial _
  | ok source => exact ends_readAll hbody source

/-- A message file, an archive or not. -/
theorem ends_publishFile (queueUrls : List String) (file : MessageFile) :
    (PublishSqsTask.publishFile client queueUrls file).Ends := by
  have hentry : ∀ te, (PublishSqsTask.processEntry client queueUrls te).Ends := by
    intro te
    unfold PublishSqsTask.processEntry
    split
    · exact .pure trivial
    · exact ends_readAll (ends_publishLine queueUrls) te.lines
  unfold PublishSqsTask.publishFile
  refine .tryCatch ?_ fun _ e => ?_
  · split
    · exact .bind (ends_log _) fun _ _ => ends_openAndRead hentry _
    · exact .bind (ends_log _) fun _ _ => ends_openAndRead (ends_publishLine queueUrls) _
  · split
    · exact ends_log _
    · exact .throw trivial e

/-- **`PublishSqsTask`.** -/
theorem ends_publishSqs (task : PublishSqsTask) : (task.run client).Ends := by
  refine ends_execute defaultMaxRetries_pos ?_
  split
  · refine .bind (ends_getQueueUrls _) fun queueUrls _ => ?_
    split
    · exact .forEach fun file _ => ends_publishFile queueUrls file
    · exact .throw trivial _
  · exact ends_log _

/-- **`DeleteSnsTopicTask`.** -/
theorem ends_deleteSnsTopic (project : Project) (task : DeleteSnsTopicTask) :
    (task.run client project).Ends := by
  refine ends_execute defaultMaxRetries_pos (.tryCatch ?_ fun _ e => ?_)
  · have hdelete : (client.deleteTopic (SnsTaskUtil.getTopicArn project task.topicName)).Ends :=
      ends_call _ _ (MessagingCall.deleteTopic _)
    exact .bind (ends_log _) fun _ _ => .bind hdelete fun _ _ => ends_log _
  · split
    · exact ends_log _
    · exact .throw trivial e

end Messaging

/-! ## Purging buckets -/

section Buckets

variable {amazonS3 : AmazonS3}

/-- **One bucket**, there or not: where it is not, listing its objects fails. -/
theorem ends_purgeBucket (name : String) :
    (PurgeS3BucketsTask.purgeBucket amazonS3 name).Ends := by
  intro w _
  cases hb : w.store name with
  | some b =>
    exact Prog.wp_mono (wp_purgeBucket hb) (fun _ _ _ => ⟨trivial, trivial⟩)
      fun _ _ _ => ⟨trivial, trivial⟩
  | none =>
    have hx : (S3.service amazonS3.pageSize).exec (.listObjects name) w.store =
        (.error S3.noSuchBucket, w.store) := by
      simp [S3.service, S3.onBucket, hb]
    unfold PurgeS3BucketsTask.purgeBucket PurgeS3BucketsTask.purgeObjects objectLoop
    simp only [Prog.wp_bind, wp_log]
    exact Prog.wp_mono (wp_call_refused hx) (fun _ _ h => h.elim) fun _ _ _ => ⟨trivial, trivial⟩

/-- **`PurgeS3BucketsTask`.** -/
theorem ends_purgeS3Buckets (task : PurgeS3BucketsTask) : (task.run amazonS3).Ends := by
  refine ends_execute defaultMaxRetries_pos ?_
  split
  · exact .forEach fun name _ => ends_purgeBucket name
  · exact .pure trivial

end Buckets

/-! ## Tasks and builds -/

section Builds

variable {env : Environment} {sched : Schedule Throwable}

/-- **A task ends.** -/
theorem task_ends (task : AwsTask) (s : LocalStack) : (task.run env sched s).1 ≠ .diverged := by
  intro hdiverged
  cases task with
  | createSqsQueues task =>
    obtain ⟨queueNames, queueAttributes⟩ := task
    cases queueNames with
    | none =>
      exact Prog.wp_ends (@quiet_createSqsQueues_null (env.messaging sched) s.messaging
        queueAttributes (World.start s.messaging) rfl) hdiverged
    | some queueNames =>
      exact Prog.wp_ends (wp_createQueues_run (env.messaging sched) queueNames queueAttributes
        s.messaging) hdiverged
  | createSqsQueueWithDlq task =>
    exact Prog.wp_ends (wp_createSqsQueueWithDlq_run task s.messaging) hdiverged
  | publishSqs task => exact (ends_publishSqs task).ended _ hdiverged
  | purgeSqsQueues task =>
    obtain ⟨queueNames⟩ := task
    cases queueNames with
    | none =>
      have hlog : (PurgeSqsQueuesTask.run (env.messaging sched) ⟨none⟩).Ends :=
        ends_execute defaultMaxRetries_pos (ends_log _)
      exact hlog.ended (World.start s.messaging) hdiverged
    | some queueNames =>
      exact Prog.wp_ends (wp_purgeQueues_run (env.messaging sched) queueNames s.messaging)
        hdiverged
  | createSnsTopicWithSqsEndpoint task =>
    exact Prog.wp_ends (wp_sns_returns task _) hdiverged
  | deleteSnsTopic task => exact (ends_deleteSnsTopic env.project task).ended _ hdiverged
  | createS3Buckets task =>
    obtain ⟨buckets⟩ := task
    cases buckets with
    | none =>
      have hlog : (CreateS3BucketsTask.run (env.amazonS3 sched) ⟨none⟩).Ends :=
        ends_execute defaultMaxRetries_pos (ends_log _)
      exact hlog.ended (World.start s.buckets) hdiverged
    | some buckets =>
      exact Prog.wp_ends (wp_createBuckets_run (env.amazonS3 sched) buckets s.buckets) hdiverged
  | purgeS3Buckets task => exact (ends_purgeS3Buckets task).ended _ hdiverged
  | deleteS3Buckets task => exact Prog.wp_ends (wp_deleteBuckets_returns task _) hdiverged
  | createDynamoDbTable task =>
    have hattempt : (task.attempt (env.amazonDynamoDB sched)).Ends :=
      .of_wp fun w => ⟨_, _, wp_createTable_attempt_present task w⟩
    exact (ends_execute defaultMaxRetries_pos hattempt).ended _ hdiverged
  | deleteDynamoDbTable task => exact Prog.wp_ends (wp_deleteTable_returns task _) hdiverged

/-- **A build of the tasks of `AwsTask` ends**, returned or thrown, whatever its tasks find and
whatever fails.
SRC: core/Retry.java:72-93, aws/s3/PurgeS3BucketsTask.java:44-96,
aws/s3/DeleteS3BucketsTask.java:52-117, aws/dynamodb/DynamoDBTaskUtil.java:32-47 -/
theorem build_ends (build : Build) (names : List String) (s : LocalStack) :
    (build.run names s).1 ≠ .diverged := by
  induction names generalizing s with
  | nil => simp [Build.run]
  | cons name names ih =>
    have hone : (build.runTask name s).1 ≠ .diverged := by
      unfold Build.runTask
      split
      · simp
      · cases build.task name with
        | none => simp
        | some task => exact task_ends task s
    rcases hrun : build.runTask name s with ⟨_ | e | _, s₁⟩
    · rw [Build.run, hrun]
      exact ih s₁
    · rw [Build.run, hrun]
      simp
    · rw [hrun] at hone
      exact absurd rfl hone

end Builds

end GradleLocalstack.Analysis
