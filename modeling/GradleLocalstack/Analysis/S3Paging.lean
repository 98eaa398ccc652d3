import GradleLocalstack.Analysis.S3Delete

/-!
# Deleting while paging

Without failures the two loops request every deletion once.  At each moment what a loop
has requested and what the listing still shows are together what the listing showed at
the start; the pages only decide the order.  The loops of purging and of deleting with
`force` request the same.
-/

set_option autoImplicit false

namespace GradleLocalstack.Analysis

open Foundation GradleLocalstack.Model GradleLocalstack.Program

variable {amazonS3 : AmazonS3} {name : String} {w : S3World} {b : Bucket}

/-- The bucket and the key of a `deleteObject` request. -/
def objectDeletion : S3Call → Option (String × String)
  | .deleteObject bucketName key => some (bucketName, key)
  | _ => none

/-- The bucket, the key and the version id of a `deleteVersion` request. -/
def versionDeletion : S3Call → Option (String × String × VersionId)
  | .deleteVersion bucketName key versionId => some (bucketName, key, versionId)
  | _ => none

/-- The run returns, has requested the deletion of each current object of the bucket once
and of nothing else, and no current object is left. -/
def DeletesObjectsOnce (name : String) (b : Bucket) (m : Prog S3World Throwable Unit)
    (w : S3World) : Prop :=
  ∃ w', m w = (.returned (), w') ∧
    (∃ keys, w'.requested objectDeletion = w.requested objectDeletion ++ keys ∧
      keys.Perm (b.objectSummaries.map fun summary => (name, summary.key))) ∧
    ∃ b', w'.store name = some b' ∧ b'.objectSummaries = []

/-- The run returns, has requested the deletion of each version and delete marker of the
bucket once and of nothing else, and none is left. -/
def DeletesVersionsOnce (name : String) (b : Bucket) (m : Prog S3World Throwable Unit)
    (w : S3World) : Prop :=
  ∃ w', m w = (.returned (), w') ∧
    (∃ versions, w'.requested versionDeletion = w.requested versionDeletion ++ versions ∧
      versions.Perm (b.versionSummaries.map fun vs => (name, vs.key, vs.versionId))) ∧
    ∃ b', w'.store name = some b' ∧ b'.versions = []

/-- Without failures a call is answered as the service answers it. -/
theorem wp_invoke_clear (hclear : amazonS3.sched = .clear) {c : S3Call} {r : c.Response}
    {s : S3Store} (hx : (S3.service amazonS3.pageSize).exec c w.store = (.ok r, s)) :
    (amazonS3.invoke c).wp (fun r' w' => r' = r ∧ w' = w.record c none s)
      (fun _ _ => False) w := by
  unfold AmazonS3.invoke
  rw [hclear]
  exact wp_call_clear hx

/-- Without failures a change of a bucket is made, and is one more request. -/
theorem wp_change_clear {β : Type} (request : S3Call → Option β)
    (hclear : amazonS3.sched = .clear) {c : S3Call} {r : c.Response}
    (hx : (S3.service amazonS3.pageSize).exec c w.store =
      (.ok r, Function.update w.store name (some b))) :
    (amazonS3.invoke c).wp (fun _ w' => w'.store name = some b ∧
      w'.requested request = w.requested request ++ (request c).toList)
      (fun _ _ => False) w := by
  apply Prog.wp_conseq (wp_invoke_clear hclear hx)
  intro _ w' hw'
  obtain ⟨-, rfl⟩ := hw'
  exact ⟨Function.update_self .., World.requested_record ..⟩

/-- Without failures a read is answered, and is not one of the requests. -/
theorem wp_read_clear {β : Type} (request : S3Call → Option β) (hclear : amazonS3.sched = .clear)
    {c : S3Call} {r : c.Response}
    (hx : (S3.service amazonS3.pageSize).exec c w.store = (.ok r, w.store))
    (hc : request c = none) :
    (amazonS3.invoke c).wp (fun r' w' => r' = r ∧ w'.store = w.store ∧
      w'.requested request = w.requested request) (fun _ _ => False) w := by
  apply Prog.wp_conseq (wp_invoke_clear hclear hx)
  intro _ w' hw'
  obtain ⟨rfl, rfl⟩ := hw'
  refine ⟨rfl, rfl, ?_⟩
  rw [World.requested_record, hc]
  exact List.append_nil _

/-- **A loop over a listing of the bucket**, without failures. -/
theorem wp_bucketLoop_once {α π β : Type} [LinearOrder π] (pos : α → π)
    (shown : Bucket → List α) (request : S3Call → Option β) (tag : α → β)
    {delete : α → Prog S3World Throwable Unit}
    {next : Page α π → Prog S3World Throwable (Page α π)} {rounds : S3World → ℕ}
    (hdelete : ∀ a w₁ b₁, w₁.store name = some b₁ → a ∈ shown b₁ → (delete a).wp
      (fun _ w₂ => (∃ b₂, w₂.store name = some b₂ ∧
          shown b₂ = (shown b₁).filter fun c => pos c ≠ pos a) ∧
        w₂.requested request = w₁.requested request ++ [tag a])
      (fun _ _ => False) w₁)
    (hnext : ∀ p w₁ b₁, w₁.store name = some b₁ → (next p).wp
      (fun p' w₂ => w₂.store name = some b₁ ∧ w₂.requested request = w₁.requested request ∧
        p' = Page.of pos amazonS3.pageSize p.next (shown b₁))
      (fun _ _ => False) w₁)
    (hb : w.store name = some b) (hnodup : ((shown b).map pos).Nodup)
    (hrounds : (shown b).length < rounds w) :
    (drainPages delete next rounds (Page.of pos amazonS3.pageSize none (shown b))).wp
      (fun _ w' => (∃ added, w'.requested request = w.requested request ++ added ∧
          added.Perm ((shown b).map tag)) ∧
        ∃ b', w'.store name = some b' ∧ shown b' = [])
      (fun _ _ => False) w := by
  let view : S3World → List α := fun w' => (w'.store name).elim [] shown
  have hview : ∀ {w' b'}, w'.store name = some b' → view w' = shown b' := by
    intro w' b' hb'
    simp [view, hb']
  let Present : S3World → Prop := fun w' => ∃ b', w'.store name = some b'
  rw [← hview hb] at hnodup hrounds ⊢
  refine Prog.wp_conseq (wp_drainPages_once pos view Present amazonS3.pageSize_pos
    (World.requested request) tag ?_ ?_ w ⟨b, hb⟩ hnodup hrounds) ?_
  · -- one deletion
    intro a w₁ hpresent ha
    obtain ⟨b₁, hb₁⟩ := hpresent
    rw [hview hb₁] at ha
    apply Prog.wp_conseq (hdelete a w₁ b₁ hb₁ ha)
    intro _ w₂ hw₂
    obtain ⟨⟨b₂, hb₂, hshown⟩, hrequested⟩ := hw₂
    rw [hview hb₁, hview hb₂]
    exact ⟨⟨b₂, hb₂⟩, hshown, hrequested⟩
  · -- the next batch
    intro p w₁ hpresent
    obtain ⟨b₁, hb₁⟩ := hpresent
    apply Prog.wp_conseq (hnext p w₁ b₁ hb₁)
    intro p' w₂ hw₂
    obtain ⟨hb₂, hrequested, hp'⟩ := hw₂
    rw [hview hb₁, hview hb₂]
    exact ⟨⟨b₁, hb₂⟩, rfl, hrequested, hp'⟩
  · intro _ w' hw'
    obtain ⟨⟨b', hb'⟩, hempty, hadded⟩ := hw'
    rw [hview hb'] at hempty
    exact ⟨hadded, b', hb', hempty⟩

/-- **The object loop**, without failures. -/
theorem purgeObjects_deletes_once (hclear : amazonS3.sched = .clear)
    (hb : w.store name = some b) :
    DeletesObjectsOnce name b (PurgeS3BucketsTask.purgeObjects amazonS3 name) w := by
  have hlist : (S3.service amazonS3.pageSize).exec (.listObjects name) w.store =
      (.ok ⟨name, S3.objectPage amazonS3.pageSize none b⟩, w.store) :=
    onBucket_read hb _
  have hloop : (PurgeS3BucketsTask.purgeObjects amazonS3 name).wp
      (fun _ w' => (∃ keys, w'.requested objectDeletion = w.requested objectDeletion ++ keys ∧
          keys.Perm (b.objectSummaries.map fun summary => (name, summary.key))) ∧
        ∃ b', w'.store name = some b' ∧ b'.objectSummaries = [])
      (fun _ _ => False) w := by
    unfold PurgeS3BucketsTask.purgeObjects objectLoop
    rw [Prog.wp_bind]
    apply Prog.wp_conseq (wp_read_clear objectDeletion hclear hlist rfl)
    intro _ w₀ hw₀
    obtain ⟨rfl, hstore, hrequested⟩ := hw₀
    rw [← hstore] at hb
    rw [← hrequested]
    have hrounds : b.objectSummaries.length < objectRounds name w₀ := by
      simp [objectRounds, hb]
    refine wp_bucketLoop_once S3ObjectSummary.key Bucket.objectSummaries
      objectDeletion (fun summary => (name, summary.key)) ?_ ?_ hb
      (Bucket.nodup_objectSummaries b) hrounds
    · -- one deletion
      intro a w₁ b₁ hb₁ _
      have hx : (S3.service amazonS3.pageSize).exec (.deleteObject name a.key) w₁.store =
          (.ok (), Function.update w₁.store name (some (b₁.deleteObject a.key))) :=
        onBucket_change hb₁ _
      apply Prog.wp_conseq (wp_change_clear objectDeletion hclear hx)
      intro _ w₂ hw₂
      exact ⟨⟨_, hw₂.1, Bucket.objectSummaries_deleteObject b₁ a.key⟩, hw₂.2⟩
    · -- the next batch
      intro p w₁ b₁ hb₁
      have hx : (S3.service amazonS3.pageSize).exec (.listNextBatchOfObjects ⟨name, p⟩)
          w₁.store = (.ok ⟨name, S3.objectPage amazonS3.pageSize p.next b₁⟩, w₁.store) :=
        onBucket_read hb₁ _
      rw [Prog.wp_bind]
      apply Prog.wp_conseq (wp_read_clear objectDeletion hclear hx rfl)
      intro _ w₂ hw₂
      obtain ⟨rfl, hstore₂, hrequested₂⟩ := hw₂
      exact ⟨hstore₂ ▸ hb₁, hrequested₂, rfl⟩
  obtain ⟨hreturns, hdone⟩ := Prog.wp_returns hloop
  exact ⟨_, Prod.ext hreturns rfl, hdone⟩

/-- **The version loop**, without failures. -/
theorem purgeVersions_deletes_once (hclear : amazonS3.sched = .clear)
    (hb : w.store name = some b) :
    DeletesVersionsOnce name b (PurgeS3BucketsTask.purgeVersions amazonS3 name) w := by
  have hlist : (S3.service amazonS3.pageSize).exec (.listVersions name) w.store =
      (.ok ⟨name, S3.versionPage amazonS3.pageSize none b⟩, w.store) :=
    onBucket_read hb _
  have hloop : (PurgeS3BucketsTask.purgeVersions amazonS3 name).wp
      (fun _ w' => (∃ versions,
          w'.requested versionDeletion = w.requested versionDeletion ++ versions ∧
          versions.Perm (b.versionSummaries.map fun vs => (name, vs.key, vs.versionId))) ∧
        ∃ b', w'.store name = some b' ∧ b'.versionSummaries = [])
      (fun _ _ => False) w := by
    unfold PurgeS3BucketsTask.purgeVersions versionLoop
    rw [Prog.wp_bind]
    apply Prog.wp_conseq (wp_read_clear versionDeletion hclear hlist rfl)
    intro _ w₀ hw₀
    obtain ⟨rfl, hstore, hrequested⟩ := hw₀
    rw [← hstore] at hb
    rw [← hrequested]
    have hrounds : b.versionSummaries.length < versionRounds name w₀ := by
      simp [versionRounds, hb]
    refine wp_bucketLoop_once S3VersionSummary.position Bucket.versionSummaries
      versionDeletion (fun vs => (name, vs.key, vs.versionId)) ?_ ?_ hb
      (Bucket.nodup_versionSummaries b) hrounds
    · -- one deletion
      intro a w₁ b₁ hb₁ ha
      have hx : (S3.service amazonS3.pageSize).exec (.deleteVersion name a.key a.versionId)
          w₁.store =
          (.ok (), Function.update w₁.store name (some (b₁.deleteVersion a.key a.versionId))) :=
        onBucket_change hb₁ _
      apply Prog.wp_conseq (wp_change_clear versionDeletion hclear hx)
      intro _ w₂ hw₂
      exact ⟨⟨_, hw₂.1, Bucket.versionSummaries_deleteVersion b₁ ha⟩, hw₂.2⟩
    · -- the next batch
      intro p w₁ b₁ hb₁
      have hx : (S3.service amazonS3.pageSize).exec (.listNextBatchOfVersions ⟨name, p⟩)
          w₁.store = (.ok ⟨name, S3.versionPage amazonS3.pageSize p.next b₁⟩, w₁.store) :=
        onBucket_read hb₁ _
      rw [Prog.wp_bind]
      apply Prog.wp_conseq (wp_read_clear versionDeletion hclear hx rfl)
      intro _ w₂ hw₂
      obtain ⟨rfl, hstore₂, hrequested₂⟩ := hw₂
      exact ⟨hstore₂ ▸ hb₁, hrequested₂, rfl⟩
  obtain ⟨hreturns, hrequested, b', hb', hempty⟩ := Prog.wp_returns hloop
  exact ⟨_, Prod.ext hreturns rfl, hrequested, b', hb',
    (Bucket.versionSummaries_eq_nil b').mp hempty⟩

/-- **Paging skips nothing**: on a bucket of any versioning status and content, and for any
page size, the loops of `PurgeS3BucketsTask` and those of `DeleteS3BucketsTask` with `force`
return, request each deletion once, and leave nothing.
SRC: aws/s3/PurgeS3BucketsTask.java:54-88, aws/s3/DeleteS3BucketsTask.java:64-107 -/
theorem paged_deletion_skips_nothing (amazonS3 : AmazonS3) (hclear : amazonS3.sched = .clear)
    (task : DeleteS3BucketsTask) (hforce : task.force = some true) (name : String)
    (w : S3World) (b : Bucket) (hb : w.store name = some b) :
    DeletesObjectsOnce name b (PurgeS3BucketsTask.purgeObjects amazonS3 name) w ∧
    DeletesVersionsOnce name b (PurgeS3BucketsTask.purgeVersions amazonS3 name) w ∧
    DeletesObjectsOnce name b (DeleteS3BucketsTask.deleteObjects amazonS3 task name) w ∧
    DeletesVersionsOnce name b (DeleteS3BucketsTask.deleteVersions amazonS3 task name) w := by
  have hobjects := purgeObjects_deletes_once hclear hb
  have hversions := purgeVersions_deletes_once hclear hb
  rw [deleteObjects_forced task hforce, deleteVersions_forced task hforce]
  exact ⟨hobjects, hversions, hobjects, hversions⟩

/-- One object and an older version of it, listed one a page. -/
theorem paged_deletion_of_two_versions :
    let amazonS3 := sampleClient Schedule.clear
    let task : DeleteS3BucketsTask := ⟨some ["catalog"], some true⟩
    let b := sampleBucket .suspended (by decide)
    let w : S3World := World.start (sampleStore b)
    DeletesObjectsOnce "catalog" b (PurgeS3BucketsTask.purgeObjects amazonS3 "catalog") w ∧
    DeletesVersionsOnce "catalog" b
      (DeleteS3BucketsTask.deleteVersions amazonS3 task "catalog") w := by
  intro amazonS3 task b w
  have hb : sampleStore b "catalog" = some b := Function.update_self ..
  obtain ⟨hobjects, -, -, hversions⟩ :=
    paged_deletion_skips_nothing amazonS3 rfl task rfl "catalog" w b hb
  exact ⟨hobjects, hversions⟩

end GradleLocalstack.Analysis
