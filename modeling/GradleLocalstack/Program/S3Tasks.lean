import GradleLocalstack.Model.S3
import GradleLocalstack.Model.Strings
import GradleLocalstack.Program.Retry

/-!
# The S3 tasks

`CreateS3BucketsTask`, `PurgeS3BucketsTask` and `DeleteS3BucketsTask`, and the
`S3TaskUtil` they share.  Purging and deleting walk through the objects and the versions
of a bucket with the same two loops, `objectLoop` and `versionLoop`; deleting checks the
`force` parameter before each deletion.  A client is got from the factory at the start of
each attempt; here it is the argument `amazonS3`.
-/

set_option autoImplicit false

namespace GradleLocalstack.Program

open Foundation GradleLocalstack.Model

/-- `String.equalsIgnoreCase`. -/
def equalsIgnoreCase (a b : String) : Bool :=
  a.toList.map Char.toLower == b.toList.map Char.toLower

/-- `S3TaskUtil.isBucketVersioned`.
SRC: aws/s3/S3TaskUtil.java:32-37 -/
def S3TaskUtil.isBucketVersioned (amazonS3 : AmazonS3) (bucketName : String) :
    Prog S3World Throwable Bool := do
  let status ← amazonS3.getBucketVersioningConfiguration bucketName
  pure (equalsIgnoreCase status.getStatus "Enabled")

section Loops

variable (amazonS3 : AmazonS3) (bucketName : String)

/-- A bound on the rounds of `objectLoop`; it is never used up. -/
def objectRounds (w : S3World) : ℕ :=
  ((w.store bucketName).elim 0 fun b => b.objectSummaries.length) + 1

/-- A bound on the rounds of `versionLoop`; it is never used up. -/
def versionRounds (w : S3World) : ℕ :=
  ((w.store bucketName).elim 0 fun b => b.versionSummaries.length) + 1

/-- List the objects of the bucket and run the `while (true)` loop over the batches, with
`delete` on each object.
SRC: aws/s3/PurgeS3BucketsTask.java:54-68, aws/s3/DeleteS3BucketsTask.java:64-83 -/
def objectLoop (delete : S3ObjectSummary → Prog S3World Throwable Unit) :
    Prog S3World Throwable Unit := do
  let objectListing ← amazonS3.listObjects bucketName
  drainPages delete
    (fun page => do
      let objectListing ← amazonS3.listNextBatchOfObjects ⟨bucketName, page⟩
      pure objectListing.page)
    (objectRounds bucketName) objectListing.page

/-- List the versions of the bucket and run the `while (true)` loop over the batches, with
`delete` on each version.
SRC: aws/s3/PurgeS3BucketsTask.java:74-87, aws/s3/DeleteS3BucketsTask.java:87-105 -/
def versionLoop (delete : S3VersionSummary → Prog S3World Throwable Unit) :
    Prog S3World Throwable Unit := do
  let versionList ← amazonS3.listVersions bucketName
  drainPages delete
    (fun page => do
      let versionList ← amazonS3.listNextBatchOfVersions ⟨bucketName, page⟩
      pure versionList.page)
    (versionRounds bucketName) versionList.page

/-- Versioned S3 buckets must have their versions removed separately from the objects. -/
def whenVersioned (body : Prog S3World Throwable Unit) : Prog S3World Throwable Unit := do
  let versioned ← S3TaskUtil.isBucketVersioned amazonS3 bucketName
  if versioned then body else pure ()

end Loops

/-- `CreateS3BucketsTask`. -/
structure CreateS3BucketsTask where
  buckets : Option (List String)

namespace CreateS3BucketsTask

variable (amazonS3 : AmazonS3)

/-- The body of the loop over the buckets.
SRC: aws/s3/CreateS3BucketsTask.java:41-47 -/
def createBucket (bucketName : String) : Prog S3World Throwable Unit := do
  let bucketExists ← amazonS3.doesBucketExistV2 bucketName
  if !bucketExists then do
    log s!"Creating S3 bucket: {bucketName}"
    amazonS3.createBucket bucketName
    log s!"Created S3 bucket: {bucketName}"
  else
    log s!"S3 bucket already exists: {bucketName}"

/-- `CreateS3BucketsTask.run`.
SRC: aws/s3/CreateS3BucketsTask.java:35-56 -/
def run (task : CreateS3BucketsTask) : Prog S3World Throwable Unit :=
  Retry.executeDefault <|
    match task.buckets with
    | some buckets => Prog.forEach (createBucket amazonS3) buckets
    | none => log "No S3 buckets configured in the 'buckets' parameter"

end CreateS3BucketsTask

/-- `PurgeS3BucketsTask`. -/
structure PurgeS3BucketsTask where
  buckets : Option (List String)

namespace PurgeS3BucketsTask

/-- `PurgeS3BucketsTask.setBuckets(String)`.
SRC: aws/s3/PurgeS3BucketsTask.java:134-141 -/
def setBuckets (buckets : Option String) (task : PurgeS3BucketsTask) : PurgeS3BucketsTask :=
  { task with buckets := commaDelimited buckets task.buckets }

variable (amazonS3 : AmazonS3)

/-- The loop over the objects of a bucket.
SRC: aws/s3/PurgeS3BucketsTask.java:54-68 -/
def purgeObjects (bucketName : String) : Prog S3World Throwable Unit :=
  objectLoop amazonS3 bucketName fun summary => amazonS3.deleteObject bucketName summary.key

/-- The loop over the versions of a bucket.
SRC: aws/s3/PurgeS3BucketsTask.java:74-87 -/
def purgeVersions (bucketName : String) : Prog S3World Throwable Unit :=
  versionLoop amazonS3 bucketName fun vs =>
    amazonS3.deleteVersion bucketName vs.key vs.versionId

/-- The body of the loop over the buckets.
SRC: aws/s3/PurgeS3BucketsTask.java:52-91 -/
def purgeBucket (bucketName : String) : Prog S3World Throwable Unit := do
  log s!"Purging S3 bucket: {bucketName}"
  purgeObjects amazonS3 bucketName
  whenVersioned amazonS3 bucketName do
    log "Bucket versioning detected. Purging versions."
    purgeVersions amazonS3 bucketName
  log s!"Purged S3 bucket: {bucketName}"

/-- `PurgeS3BucketsTask.run`.
SRC: aws/s3/PurgeS3BucketsTask.java:44-96 -/
def run (task : PurgeS3BucketsTask) : Prog S3World Throwable Unit :=
  Retry.executeDefault <|
    match task.buckets with
    | some buckets => Prog.forEach (purgeBucket amazonS3) buckets
    | none => pure ()

end PurgeS3BucketsTask

/-- `DeleteS3BucketsTask`; `force` is a boxed `Boolean` and may be `null`. -/
structure DeleteS3BucketsTask where
  buckets : Option (List String)
  force : Option Bool := some false

namespace DeleteS3BucketsTask

/-- `DeleteS3BucketsTask.setBuckets(String)`.
SRC: aws/s3/DeleteS3BucketsTask.java:153-160 -/
def setBuckets (buckets : Option String) (task : DeleteS3BucketsTask) : DeleteS3BucketsTask :=
  { task with buckets := commaDelimited buckets task.buckets }

variable (amazonS3 : AmazonS3) (task : DeleteS3BucketsTask)

/-- What is thrown where a bucket holds something and `force` is `false`. -/
def bucketNotEmpty (bucketName : String) : Throwable :=
  .plain .gradleException
    (some s!"Bucket is not empty and the 'force' parameter is set to 'false': {bucketName}")

/-- Only delete buckets that contain objects/versions if the force parameter is true.
SRC: aws/s3/DeleteS3BucketsTask.java:69-71, 93-95 -/
def requireForce (bucketName : String) : Prog S3World Throwable Unit :=
  match task.force with
  | none => throw (.plain .nullPointerException none)
  | some false => throw (bucketNotEmpty bucketName)
  | some true => pure ()

/-- The loop over the objects of a bucket.
SRC: aws/s3/DeleteS3BucketsTask.java:64-83 -/
def deleteObjects (bucketName : String) : Prog S3World Throwable Unit :=
  objectLoop amazonS3 bucketName fun summary => do
    requireForce task bucketName
    amazonS3.deleteObject bucketName summary.key

/-- The loop over the versions of a bucket.
SRC: aws/s3/DeleteS3BucketsTask.java:87-105 -/
def deleteVersions (bucketName : String) : Prog S3World Throwable Unit :=
  versionLoop amazonS3 bucketName fun vs => do
    requireForce task bucketName
    amazonS3.deleteVersion bucketName vs.key vs.versionId

/-- The body of the loop over the buckets.
SRC: aws/s3/DeleteS3BucketsTask.java:61-111 -/
def deleteBucket (bucketName : String) : Prog S3World Throwable Unit := do
  log s!"Deleting S3 bucket: {bucketName}"
  deleteObjects amazonS3 task bucketName
  whenVersioned amazonS3 bucketName do
    deleteVersions amazonS3 task bucketName
  -- Once the bucket has been purged it can be deleted
  amazonS3.deleteBucket bucketName
  log s!"Deleted bucket: {bucketName}"

/-- `DeleteS3BucketsTask.run`.
SRC: aws/s3/DeleteS3BucketsTask.java:52-115 -/
def run : Prog S3World Throwable Unit :=
  Retry.executeExpecting
    (match task.buckets with
      | some buckets => Prog.forEach (deleteBucket amazonS3 task) buckets
      | none => pure ())
    [.gradleException]

end DeleteS3BucketsTask

end GradleLocalstack.Program
