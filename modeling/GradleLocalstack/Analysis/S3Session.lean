import GradleLocalstack.Analysis.MessagingSession
import GradleLocalstack.Analysis.S3Delete

/-!
# Buckets over a whole session

Creating buckets gives the right to create, purging the right to empty, deleting the right to
delete, and to empty only where `force` is `true`.  What such calls keep (`BucketKept`) holds
between the beginning and the end of every session: a bucket that holds anything is emptied or
lost only where a purge or a forced deletion names it.
-/

set_option autoImplicit false

namespace GradleLocalstack.Analysis

open Foundation GradleLocalstack.Model GradleLocalstack.Program

/-- Which buckets may be created, emptied and deleted. -/
structure BucketRights where
  create : Set String
  empty : Set String
  delete : Set String

namespace BucketRights

/-- The call keeps to the rights. -/
def Allows (rights : BucketRights) : S3Call → Prop
  | .createBucket b => b ∈ rights.create
  | .deleteObject b _ | .deleteVersion b _ _ => b ∈ rights.empty
  | .deleteBucket b => b ∈ rights.delete
  | _ => True

/-- Rights are compared by what they allow. -/
instance : LE BucketRights where
  le r r' := r.create ⊆ r'.create ∧ r.empty ⊆ r'.empty ∧ r.delete ⊆ r'.delete

/-- More rights allow what fewer do. -/
theorem Allows.mono {rights rights' : BucketRights} {call : S3Call} (h : rights.Allows call)
    (hle : rights ≤ rights') : rights'.Allows call := by
  obtain ⟨hcreate, hempty, hdelete⟩ := hle
  cases call with
  | createBucket b => exact hcreate h
  | deleteObject b _ => exact hempty h
  | deleteVersion b _ _ => exact hempty h
  | deleteBucket b => exact hdelete h
  | _ => trivial

end BucketRights

end GradleLocalstack.Analysis

namespace GradleLocalstack.Program.AwsTask

open GradleLocalstack.Analysis

/-- The rights of a task, from its configuration. -/
def bucketRights : AwsTask → BucketRights
  | createS3Buckets task => ⟨namesOf task.buckets, ∅, ∅⟩
  | purgeS3Buckets task => ⟨∅, namesOf task.buckets, ∅⟩
  | deleteS3Buckets task =>
    ⟨∅, { b | b ∈ namesOf task.buckets ∧ task.force = some true }, namesOf task.buckets⟩
  | _ => ⟨∅, ∅, ∅⟩

end GradleLocalstack.Program.AwsTask

namespace GradleLocalstack.Analysis

open Foundation GradleLocalstack.Model GradleLocalstack.Program

/-! ## The calls of each task -/

section Calls

variable {amazonS3 : AmazonS3} {rights : BucketRights} {bucketName : String}

/-- The rights allow all calls of the program. -/
abbrev KeepsBuckets (rights : BucketRights) (amazonS3 : AmazonS3) {α : Type}
    (m : Prog S3World Throwable α) : Prop :=
  m.Within (StoreEvolves (S3.service amazonS3.pageSize) rights.Allows) (fun _ => True)

/-- A retried block makes the calls of its attempts. -/
theorem keepsBuckets_execute {fn : Prog S3World Throwable Unit}
    (hfn : KeepsBuckets rights amazonS3 fn) (maxRetries : ℤ) (expectedErrors : List JavaClass) :
    KeepsBuckets rights amazonS3 (Retry.execute fn maxRetries expectedErrors) :=
  within_execute (fun _ w => refl_of (Evolves _ _) w.store) hfn maxRetries expectedErrors

/-- Printing is no call. -/
theorem keepsBuckets_log (text : String) : KeepsBuckets rights amazonS3 (log text) :=
  within_log text

/-- A call that the rights allow. -/
theorem keepsBuckets_invoke {c : S3Call} (hc : rights.Allows c) :
    KeepsBuckets rights amazonS3 (amazonS3.invoke c) :=
  (within_call hc amazonS3.sched).mono (fun _ _ h => h) fun _ _ => trivial

/-- The object loop lists, and makes the calls of its deletions. -/
theorem keepsBuckets_objectLoop {delete : S3ObjectSummary → Prog S3World Throwable Unit}
    (hdelete : ∀ summary, KeepsBuckets rights amazonS3 (delete summary)) :
    KeepsBuckets rights amazonS3 (objectLoop amazonS3 bucketName delete) := by
  unfold objectLoop
  have hnext : ∀ p, KeepsBuckets rights amazonS3
      (amazonS3.listNextBatchOfObjects ⟨bucketName, p⟩) :=
    fun p => keepsBuckets_invoke (c := .listNextBatchOfObjects ⟨bucketName, p⟩) trivial
  exact .seq (keepsBuckets_invoke trivial) fun objectListing =>
    .drainPages hdelete (fun p => .seq (hnext p) fun _ => .pure trivial) _

/-- The version loop lists, and makes the calls of its deletions. -/
theorem keepsBuckets_versionLoop {delete : S3VersionSummary → Prog S3World Throwable Unit}
    (hdelete : ∀ vs, KeepsBuckets rights amazonS3 (delete vs)) :
    KeepsBuckets rights amazonS3 (versionLoop amazonS3 bucketName delete) := by
  unfold versionLoop
  have hnext : ∀ p, KeepsBuckets rights amazonS3
      (amazonS3.listNextBatchOfVersions ⟨bucketName, p⟩) :=
    fun p => keepsBuckets_invoke (c := .listNextBatchOfVersions ⟨bucketName, p⟩) trivial
  exact .seq (keepsBuckets_invoke trivial) fun versionList =>
    .drainPages hdelete (fun p => .seq (hnext p) fun _ => .pure trivial) _

/-- The version phase asks for the status, and makes the calls of its body. -/
theorem keepsBuckets_whenVersioned {body : Prog S3World Throwable Unit}
    (hbody : KeepsBuckets rights amazonS3 body) :
    KeepsBuckets rights amazonS3 (whenVersioned amazonS3 bucketName body) := by
  unfold whenVersioned S3TaskUtil.isBucketVersioned
  refine .seq (.seq (keepsBuckets_invoke trivial) fun _ => .pure trivial) fun versioned => ?_
  split
  · exact hbody
  · exact .pure trivial

/-- **`CreateS3BucketsTask`** creates buckets it lists. -/
theorem keepsBuckets_createS3Buckets {task : CreateS3BucketsTask}
    (hrights : namesOf task.buckets ⊆ rights.create) :
    KeepsBuckets rights amazonS3 (task.run amazonS3) := by
  apply keepsBuckets_execute
  split
  · rename_i buckets hbuckets
    refine .forEach fun b hb => ?_
    unfold CreateS3BucketsTask.createBucket
    refine .seq (keepsBuckets_invoke trivial) fun bucketExists => ?_
    split
    · exact .seq (keepsBuckets_log _) fun _ =>
        .seq (keepsBuckets_invoke (hrights ⟨buckets, hbuckets, hb⟩)) fun _ => keepsBuckets_log _
    · exact keepsBuckets_log _
  · exact keepsBuckets_log _

/-- **`PurgeS3BucketsTask`** empties buckets it lists. -/
theorem keepsBuckets_purgeS3Buckets {task : PurgeS3BucketsTask}
    (hrights : namesOf task.buckets ⊆ rights.empty) :
    KeepsBuckets rights amazonS3 (task.run amazonS3) := by
  apply keepsBuckets_execute
  split
  · rename_i buckets hbuckets
    refine .forEach fun b hb => ?_
    have hb' : b ∈ rights.empty := hrights ⟨buckets, hbuckets, hb⟩
    unfold PurgeS3BucketsTask.purgeBucket PurgeS3BucketsTask.purgeObjects
      PurgeS3BucketsTask.purgeVersions
    refine .seq (keepsBuckets_log _) fun _ =>
      .seq (keepsBuckets_objectLoop fun _ => keepsBuckets_invoke hb') fun _ =>
      .seq (keepsBuckets_whenVersioned (.seq (keepsBuckets_log _) fun _ =>
        keepsBuckets_versionLoop fun _ => keepsBuckets_invoke hb')) fun _ => keepsBuckets_log _
  · exact .pure trivial

/-- A deletion behind `requireForce` needs the right to empty only if `force` is `true`. -/
theorem keepsBuckets_requireForce {task : DeleteS3BucketsTask}
    {delete : Prog S3World Throwable Unit}
    (hdelete : task.force = some true → KeepsBuckets rights amazonS3 delete) :
    KeepsBuckets rights amazonS3 (do
      DeleteS3BucketsTask.requireForce task bucketName
      delete) := by
  unfold DeleteS3BucketsTask.requireForce
  split
  · exact .bind (Q := fun _ => False) (.throw _) fun _ h => h.elim
  · exact .bind (Q := fun _ => False) (.throw _) fun _ h => h.elim
  · rename_i hforce
    exact .seq (.pure trivial) fun _ => hdelete hforce

/-- **`DeleteS3BucketsTask`** deletes buckets it lists, and empties them if it is forced to. -/
theorem keepsBuckets_deleteS3Buckets {task : DeleteS3BucketsTask}
    (hempty : task.force = some true → namesOf task.buckets ⊆ rights.empty)
    (hdelete : namesOf task.buckets ⊆ rights.delete) :
    KeepsBuckets rights amazonS3 (task.run amazonS3) := by
  apply keepsBuckets_execute
  split
  · rename_i buckets hbuckets
    refine .forEach fun b hb => ?_
    have hb' : b ∈ namesOf task.buckets := ⟨buckets, hbuckets, hb⟩
    unfold DeleteS3BucketsTask.deleteBucket DeleteS3BucketsTask.deleteObjects
      DeleteS3BucketsTask.deleteVersions
    refine .seq (keepsBuckets_log _) fun _ =>
      .seq (keepsBuckets_objectLoop fun _ => keepsBuckets_requireForce fun hforce =>
        keepsBuckets_invoke (hempty hforce hb')) fun _ =>
      .seq (keepsBuckets_whenVersioned (keepsBuckets_versionLoop fun _ =>
        keepsBuckets_requireForce fun hforce => keepsBuckets_invoke (hempty hforce hb'))) fun _ =>
      .seq (keepsBuckets_invoke (hdelete hb')) fun _ => keepsBuckets_log _
  · exact .pure trivial

/-- **Each task makes only calls that its rights allow**, however its run ends. -/
theorem run_evolves_buckets {env : Environment} {sched : Schedule Throwable} (task : AwsTask)
    (s : LocalStack) :
    Evolves (S3.service env.s3PageSize) task.bucketRights.Allows s.buckets
      (task.run env sched s).2.buckets := by
  have hrefl : ∀ P, Evolves (S3.service env.s3PageSize) P s.buckets s.buckets :=
    fun P => refl_of (Evolves _ P) s.buckets
  cases task with
  | createS3Buckets task =>
    have h : KeepsBuckets (AwsTask.createS3Buckets task).bucketRights (env.amazonS3 sched)
        (task.run (env.amazonS3 sched)) :=
      keepsBuckets_createS3Buckets fun _ hb => hb
    exact (h (World.start s.buckets)).1
  | purgeS3Buckets task =>
    have h : KeepsBuckets (AwsTask.purgeS3Buckets task).bucketRights (env.amazonS3 sched)
        (task.run (env.amazonS3 sched)) :=
      keepsBuckets_purgeS3Buckets fun _ hb => hb
    exact (h (World.start s.buckets)).1
  | deleteS3Buckets task =>
    have h : KeepsBuckets (AwsTask.deleteS3Buckets task).bucketRights (env.amazonS3 sched)
        (task.run (env.amazonS3 sched)) :=
      keepsBuckets_deleteS3Buckets (fun hforce _ hb => ⟨hb, hforce⟩) fun _ hb => hb
    exact (h (World.start s.buckets)).1
  | createSqsQueues _ => exact hrefl _
  | createSqsQueueWithDlq _ => exact hrefl _
  | publishSqs _ => exact hrefl _
  | purgeSqsQueues _ => exact hrefl _
  | createSnsTopicWithSqsEndpoint _ => exact hrefl _
  | deleteSnsTopic _ => exact hrefl _
  | createDynamoDbTable _ => exact hrefl _
  | deleteDynamoDbTable _ => exact hrefl _

end Calls

/-! ## What allowed calls keep -/

/-- How what is under a name may change. -/
structure BucketKept (rights : BucketRights) (name : String) (x x' : Option Bucket) : Prop where
  /-- Nothing that a bucket holds was put there. -/
  nothing_added : ∀ b' ∈ x', ∀ v ∈ b'.versions, v.body.isSome → ∃ b ∈ x, v ∈ b.versions
  /-- A bucket that is not emptied stays as it is, unless it holds nothing and is deleted. -/
  unemptied : name ∉ rights.empty → ∀ b ∈ x, x' = some b ∨ name ∈ rights.delete ∧ b.versions = []
  /-- A bucket that is not deleted stays, with its versioning status. -/
  undeleted : name ∉ rights.delete → ∀ b ∈ x, ∃ b' ∈ x', b'.status = b.status
  /-- A bucket that is not asked for is not made. -/
  uncreated : name ∉ rights.create → x = none → x' = none

/-- What the rights leave of the buckets. -/
def BucketsKept (rights : BucketRights) (s s' : S3Store) : Prop :=
  ∀ name, BucketKept rights name (s name) (s' name)

section Kept

variable {rights : BucketRights} {s : S3Store} {name : String} {b : Bucket}

/-- A bucket that has not changed. -/
theorem BucketKept.refl (x : Option Bucket) : BucketKept rights name x x where
  nothing_added b' hb' _ hv _ := ⟨b', hb', hv⟩
  unemptied _ _ hb := .inl hb
  undeleted _ b hb := ⟨b, hb, rfl⟩
  uncreated _ hnone := hnone

/-- Two changes in a row. -/
theorem BucketKept.trans {x x' x'' : Option Bucket} (h : BucketKept rights name x x')
    (h' : BucketKept rights name x' x'') : BucketKept rights name x x'' where
  nothing_added b'' hb'' v hv hbody := by
    obtain ⟨b', hb', hv'⟩ := h'.nothing_added b'' hb'' v hv hbody
    exact h.nothing_added b' hb' v hv' hbody
  unemptied hempty b hb := by
    cases h.unemptied hempty b hb with
    | inl hsame => exact h'.unemptied hempty b hsame
    | inr hnothing => exact .inr hnothing
  undeleted hdelete b hb := by
    obtain ⟨b', hb', hstatus⟩ := h.undeleted hdelete b hb
    obtain ⟨b'', hb'', hstatus'⟩ := h'.undeleted hdelete b' hb'
    exact ⟨b'', hb'', hstatus'.trans hstatus⟩
  uncreated hcreate hnone := h'.uncreated hcreate (h.uncreated hcreate hnone)

/-- What is kept over two parts of a session is kept over both. -/
instance : IsPreorder S3Store (BucketsKept rights) where
  refl s name := .refl (s name)
  trans _ _ _ h h' name := (h name).trans (h' name)

/-- A change under one name. -/
theorem bucketsKept_update {x : Option Bucket} (h : BucketKept rights name (s name) x) :
    BucketsKept rights s (Function.update s name x) := by
  intro c
  by_cases hc : c = name
  · subst hc
    rw [Function.update_self]
    exact h
  · rw [Function.update_of_ne hc]
    exact .refl (s c)

/-- A call that takes versions off a bucket, and may put delete markers on it. -/
theorem bucketsKept_shrink {f : Bucket → Bucket} (hname : name ∈ rights.empty)
    (hstatus : ∀ b, (f b).status = b.status)
    (hversions : ∀ b, ∀ v ∈ (f b).versions, v.body.isSome → v ∈ b.versions) :
    BucketsKept rights s (S3.onBucket s name fun b => (.ok (), some (f b))).2 := by
  cases hb : s name with
  | none =>
    have hsame : (S3.onBucket s name fun b => (.ok (), some (f b))).2 = s := by
      simp [S3.onBucket, hb]
    rw [hsame]
    exact refl_of (BucketsKept rights) s
  | some b =>
    rw [onBucket_change hb f]
    apply bucketsKept_update
    rw [hb]
    refine ⟨?_, fun hempty => absurd hname hempty, ?_, ?_⟩
    · rintro _ ⟨⟩ v hv hbody
      exact ⟨b, rfl, hversions b v hv hbody⟩
    · rintro _ _ ⟨⟩
      exact ⟨f b, rfl, hstatus b⟩
    · rintro _ ⟨⟩

/-- `deleteObject` leaves no version with a body that was not there. -/
theorem mem_of_mem_deleteObject {key : String} {v : Version}
    (hv : v ∈ (b.deleteObject key).versions) (hbody : v.body.isSome) : v ∈ b.versions := by
  unfold Bucket.deleteObject at hv
  split at hv
  · exact List.mem_of_mem_filter hv
  · cases List.mem_cons.mp hv with
    | inl heq =>
      rw [heq] at hbody
      cases hbody
    | inr hmem => exact hmem
  · cases List.mem_cons.mp hv with
    | inl heq =>
      rw [heq] at hbody
      cases hbody
    | inr hmem => exact List.mem_of_mem_filter hmem

/-- **Every call that the rights allow** leaves what the rights promise. -/
theorem bucketsKept_of_allowed {call : S3Call} (h : rights.Allows call) (pageSize : ℕ)
    (s : S3Store) : BucketsKept rights s ((S3.service pageSize).exec call s).2 := by
  have hread : ∀ {s'}, s' = s → BucketsKept rights s s' := by
    rintro _ rfl
    exact refl_of (BucketsKept rights) _
  cases call with
  | doesBucketExistV2 _ => exact hread rfl
  | listObjects _ => exact hread (onBucket_store_eq s _ _ fun _ => rfl)
  | listNextBatchOfObjects _ => exact hread (onBucket_store_eq s _ _ fun _ => rfl)
  | getBucketVersioningConfiguration _ => exact hread (onBucket_store_eq s _ _ fun _ => rfl)
  | listVersions _ => exact hread (onBucket_store_eq s _ _ fun _ => rfl)
  | listNextBatchOfVersions _ => exact hread (onBucket_store_eq s _ _ fun _ => rfl)
  | createBucket name =>
    cases hb : s name with
    | some b =>
      apply hread
      simp [S3.service, hb]
    | none =>
      have hnew : ((S3.service pageSize).exec (.createBucket name) s).2 =
          Function.update s name (some .empty) := by
        simp [S3.service, hb]
      rw [hnew]
      apply bucketsKept_update
      rw [hb]
      refine ⟨?_, ?_, ?_, fun hcreate => absurd h hcreate⟩
      · rintro _ ⟨⟩ v hv
        exact (List.not_mem_nil hv).elim
      · rintro _ _ ⟨⟩
      · rintro _ _ ⟨⟩
  | deleteObject name key =>
    exact bucketsKept_shrink h (fun b => Bucket.status_deleteObject b key)
      fun b v hv hbody => mem_of_mem_deleteObject hv hbody
  | deleteVersion name key versionId =>
    exact bucketsKept_shrink h (fun b => Bucket.status_deleteVersion b key versionId)
      fun b v hv _ => List.mem_of_mem_filter hv
  | deleteBucket name =>
    rcases deleteBucket_store pageSize name s with hsame | ⟨hgone, b, hb, hempty⟩
    · exact hread hsame
    · rw [hgone]
      apply bucketsKept_update
      rw [hb]
      refine ⟨?_, ?_, fun hdelete => absurd h hdelete, fun _ _ => rfl⟩
      · rintro _ ⟨⟩
      · rintro _ _ ⟨⟩
        exact .inr ⟨h, hempty⟩

end Kept

/-! ## Sessions -/

end GradleLocalstack.Analysis
