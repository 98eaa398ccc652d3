import Mathlib.Data.Prod.Lex
import Mathlib.Data.String.Basic
import Mathlib.Logic.Function.Basic
import GradleLocalstack.Foundation.Drain
import GradleLocalstack.Model.Jvm

/-!
# S3

A bucket holds, newest first, the versions of its objects; a delete marker is a version
without a body.  What a bucket is carries its own well-formedness: time stamps fall along
the list, no two versions of a key share a version id, and a bucket that never was
versioned holds plain objects only.

`deleteObject` removes the object of an `Off` bucket, adds a delete marker on an
`Enabled` one, and on a `Suspended` one puts a null delete marker in the place of the
null version; `deleteVersion` removes one version or marker.  A listing is in key order,
newest first within a key, and goes on strictly after its last entry.  A call that names
a bucket that does not exist is refused, and so is the deletion of a bucket that holds a
version of any kind.
-/

set_option autoImplicit false

namespace GradleLocalstack.Model

open Foundation

/-- The versioning status of a bucket. -/
inductive VersioningStatus where
  | off
  | enabled
  | suspended
  deriving DecidableEq, Repr

/-- `BucketVersioningConfiguration.getStatus`. -/
def VersioningStatus.getStatus : VersioningStatus → String
  | off => "Off"
  | enabled => "Enabled"
  | suspended => "Suspended"

/-- The id of a version; objects stored without versioning have the id `null`. -/
inductive VersionId where
  | null
  | id (n : ℕ)
  deriving DecidableEq, Repr

/-- One version of an object, or a delete marker (no body). -/
structure Version where
  key : String
  stamp : ℕ
  versionId : VersionId
  body : Option String
  deriving DecidableEq, Repr

/-- A bucket: its status, its versions with the newest first, and the stamp of the next one. -/
structure Bucket where
  status : VersioningStatus
  versions : List Version
  clock : ℕ
  newest_first : versions.Pairwise fun a b => b.stamp < a.stamp
  stamp_lt : ∀ v ∈ versions, v.stamp < clock
  id_lt : ∀ v ∈ versions, ∀ n, v.versionId = .id n → n < clock
  ids : versions.Pairwise fun a b => a.key = b.key → a.versionId ≠ b.versionId
  off_plain : status = .off → ∀ v ∈ versions, v.versionId = .null ∧ v.body.isSome

/-- `S3ObjectSummary`. -/
structure S3ObjectSummary where
  key : String
  deriving DecidableEq, Repr

/-- `S3VersionSummary`; `stamp` is its place in time. -/
structure S3VersionSummary where
  key : String
  versionId : VersionId
  isDeleteMarker : Bool
  stamp : ℕ
  deriving DecidableEq, Repr

/-- A place in a version listing: by key, and newest first within a key. -/
abbrev VersionPosition : Type := String ×ₗ ℕᵒᵈ

/-- Where a version stands in a listing: by its key, and then the newest first. -/
def S3VersionSummary.position (v : S3VersionSummary) : VersionPosition :=
  toLex (v.key, OrderDual.toDual v.stamp)

/-- How a version is listed. -/
def Version.toSummary (v : Version) : S3VersionSummary :=
  ⟨v.key, v.versionId, v.body.isNone, v.stamp⟩

namespace Bucket

/-- The bucket that `createBucket` makes. -/
def empty : Bucket :=
  ⟨.off, [], 0, .nil, by simp, by simp, .nil, by simp⟩

/-- The bucket with the versions that satisfy `p`. -/
def restrict (b : Bucket) (p : Version → Bool) : Bucket where
  status := b.status
  versions := b.versions.filter p
  clock := b.clock
  newest_first := b.newest_first.filter p
  stamp_lt v hv := b.stamp_lt v (List.mem_of_mem_filter hv)
  id_lt v hv := b.id_lt v (List.mem_of_mem_filter hv)
  ids := b.ids.filter p
  off_plain h v hv := b.off_plain h v (List.mem_of_mem_filter hv)

/-- The bucket with a new delete marker for `key`, under a version id that no version of
the key has. -/
def withMarker (b : Bucket) (key : String) (versionId : VersionId) (hstatus : b.status ≠ .off)
    (hid : ∀ v ∈ b.versions, key = v.key → versionId ≠ v.versionId)
    (hlt : ∀ n, versionId = .id n → n < b.clock + 1) : Bucket where
  status := b.status
  versions := ⟨key, b.clock, versionId, none⟩ :: b.versions
  clock := b.clock + 1
  newest_first := List.pairwise_cons.mpr ⟨b.stamp_lt, b.newest_first⟩
  stamp_lt := by
    intro v hv
    rcases List.mem_cons.mp hv with rfl | hv
    · exact Nat.lt_succ_self _
    · exact Nat.lt_succ_of_lt (b.stamp_lt v hv)
  id_lt := by
    intro v hv n hn
    rcases List.mem_cons.mp hv with rfl | hv
    · exact hlt n hn
    · exact Nat.lt_succ_of_lt (b.id_lt v hv n hn)
  ids := List.pairwise_cons.mpr ⟨hid, b.ids⟩
  off_plain h := absurd h hstatus

/-- A version with the null version id of the given key. -/
def isNullVersion (key : String) (v : Version) : Bool := v.key == key && v.versionId == .null

/-- What `deleteObject` does to the bucket. -/
def deleteObject (b : Bucket) (key : String) : Bucket :=
  match h : b.status with
  | .off => b.restrict fun v => v.key != key
  | .enabled => b.withMarker key (.id b.clock) (by simp [h])
      (by intro v hv _ hid; exact (b.id_lt v hv _ hid.symm).ne rfl)
      (by intro n hn; cases hn; exact Nat.lt_succ_self _)
  | .suspended => (b.restrict fun v => !isNullVersion key v).withMarker key .null
      (by simp [restrict, h])
      (by
        intro v hv hkey hid
        have := List.of_mem_filter hv
        simp [isNullVersion, ← hkey, ← hid] at this)
      (by intro n hn; cases hn)

/-- What `deleteVersion` does to the bucket. -/
def deleteVersion (b : Bucket) (key : String) (versionId : VersionId) : Bucket :=
  b.restrict fun v => !(v.key == key && v.versionId == versionId)

/-- The version is an object, and no version of its key is newer. -/
def isCurrentObject (b : Bucket) (v : Version) : Bool :=
  v.body.isSome && b.versions.all fun u => u.key != v.key || decide (u.stamp ≤ v.stamp)

/-- The current objects of the bucket. -/
def objectSummaries (b : Bucket) : List S3ObjectSummary :=
  (b.versions.filter b.isCurrentObject).map fun v => ⟨v.key⟩

/-- All versions and delete markers of the bucket. -/
def versionSummaries (b : Bucket) : List S3VersionSummary := b.versions.map Version.toSummary

end Bucket

/-- `ObjectListing`: a page of a bucket's current objects. -/
structure ObjectListing where
  bucketName : String
  page : Page S3ObjectSummary String
  deriving DecidableEq, Repr

/-- `VersionListing`: a page of a bucket's versions and delete markers. -/
structure VersionListing where
  bucketName : String
  page : Page S3VersionSummary VersionPosition

/-- The calls of the S3 client that the plugin makes. -/
inductive S3Call where
  | doesBucketExistV2 (bucketName : String)
  | createBucket (bucketName : String)
  | listObjects (bucketName : String)
  | listNextBatchOfObjects (previous : ObjectListing)
  | deleteObject (bucketName key : String)
  | getBucketVersioningConfiguration (bucketName : String)
  | listVersions (bucketName : String)
  | listNextBatchOfVersions (previous : VersionListing)
  | deleteVersion (bucketName key : String) (versionId : VersionId)
  | deleteBucket (bucketName : String)

/-- What each call is answered with. -/
def S3Call.Response : S3Call → Type
  | doesBucketExistV2 _ => Bool
  | listObjects _ | listNextBatchOfObjects _ => ObjectListing
  | getBucketVersioningConfiguration _ => VersioningStatus
  | listVersions _ | listNextBatchOfVersions _ => VersionListing
  | _ => Unit

/-- The buckets of the store, by name. -/
abbrev S3Store : Type := String → Option Bucket

namespace S3

/-- `AmazonS3Exception`, with a message and a status code. -/
def amazonS3Exception (message : String) (statusCode : ℕ) : Throwable :=
  .service ⟨"com.amazonaws.services.s3.model.AmazonS3Exception", true⟩ (some message) statusCode

/-- What a call on a bucket that does not exist is answered with. -/
def noSuchBucket : Throwable := amazonS3Exception "The specified bucket does not exist" 404

/-- What deleting a bucket that holds something is answered with. -/
def bucketNotEmpty : Throwable :=
  amazonS3Exception "The bucket you tried to delete is not empty" 409

/-- What creating a bucket that exists is answered with. -/
def bucketAlreadyOwnedByYou : Throwable :=
  amazonS3Exception "Your previous request to create the named bucket succeeded" 409

/-- What S3 answers when it is busy. -/
def busy : Throwable := amazonS3Exception "Please reduce your request rate" 503

/-- A call that needs its bucket: refused if there is none, else what `f` makes of it. -/
def onBucket {ρ : Type} (s : S3Store) (bucketName : String)
    (f : Bucket → Except Throwable ρ × Option Bucket) : Except Throwable ρ × S3Store :=
  match s bucketName with
  | none => (.error noSuchBucket, s)
  | some b => ((f b).1, Function.update s bucketName (f b).2)

/-- A page of the objects of a bucket. -/
def objectPage (pageSize : ℕ) (marker : Option String) (b : Bucket) : Page S3ObjectSummary String :=
  Page.of S3ObjectSummary.key pageSize marker b.objectSummaries

/-- A page of the versions of a bucket. -/
def versionPage (pageSize : ℕ) (marker : Option VersionPosition) (b : Bucket) :
    Page S3VersionSummary VersionPosition :=
  Page.of S3VersionSummary.position pageSize marker b.versionSummaries

/-- The service, with its page size. -/
def service (pageSize : ℕ) : Service S3Store S3Call Throwable S3Call.Response where
  exec
    | .doesBucketExistV2 b, s => (.ok (s b).isSome, s)
    | .createBucket b, s =>
      if (s b).isSome then (.error bucketAlreadyOwnedByYou, s)
      else (.ok (), Function.update s b (some .empty))
    | .listObjects b, s => onBucket s b fun bkt => (.ok ⟨b, objectPage pageSize none bkt⟩, some bkt)
    | .listNextBatchOfObjects previous, s => onBucket s previous.bucketName fun bkt =>
      (.ok ⟨previous.bucketName, objectPage pageSize previous.page.next bkt⟩, some bkt)
    | .deleteObject b key, s => onBucket s b fun bkt => (.ok (), some (bkt.deleteObject key))
    | .getBucketVersioningConfiguration b, s => onBucket s b fun bkt => (.ok bkt.status, some bkt)
    | .listVersions b, s => onBucket s b fun bkt =>
      (.ok ⟨b, versionPage pageSize none bkt⟩, some bkt)
    | .listNextBatchOfVersions previous, s => onBucket s previous.bucketName fun bkt =>
      (.ok ⟨previous.bucketName, versionPage pageSize previous.page.next bkt⟩, some bkt)
    | .deleteVersion b key versionId, s => onBucket s b fun bkt =>
      (.ok (), some (bkt.deleteVersion key versionId))
    | .deleteBucket b, s => onBucket s b fun bkt =>
      if bkt.versions.isEmpty then (.ok (), none) else (.error bucketNotEmpty, some bkt)

end S3

/-- The world of a task that talks to S3. -/
abbrev S3World : Type := World S3Store S3Call Throwable

/-- An S3 client: the page size of the service behind it, and which calls fail. -/
structure AmazonS3 where
  pageSize : ℕ
  pageSize_pos : 0 < pageSize
  sched : Schedule Throwable

namespace AmazonS3

variable (amazonS3 : AmazonS3)

/-- One call of the client, under its schedule. -/
def invoke (c : S3Call) : Prog S3World Throwable c.Response :=
  call (S3.service amazonS3.pageSize) amazonS3.sched c

/-- `doesBucketExistV2`. -/
def doesBucketExistV2 (bucketName : String) : Prog S3World Throwable Bool :=
  amazonS3.invoke (.doesBucketExistV2 bucketName)

/-- `createBucket`. -/
def createBucket (bucketName : String) : Prog S3World Throwable Unit :=
  amazonS3.invoke (.createBucket bucketName)

/-- `listObjects`. -/
def listObjects (bucketName : String) : Prog S3World Throwable ObjectListing :=
  amazonS3.invoke (.listObjects bucketName)

/-- `listNextBatchOfObjects`. -/
def listNextBatchOfObjects (previous : ObjectListing) : Prog S3World Throwable ObjectListing :=
  amazonS3.invoke (.listNextBatchOfObjects previous)

/-- `deleteObject`. -/
def deleteObject (bucketName key : String) : Prog S3World Throwable Unit :=
  amazonS3.invoke (.deleteObject bucketName key)

/-- `getBucketVersioningConfiguration`. -/
def getBucketVersioningConfiguration (bucketName : String) :
    Prog S3World Throwable VersioningStatus :=
  amazonS3.invoke (.getBucketVersioningConfiguration bucketName)

/-- `listVersions`. -/
def listVersions (bucketName : String) : Prog S3World Throwable VersionListing :=
  amazonS3.invoke (.listVersions bucketName)

/-- `listNextBatchOfVersions`. -/
def listNextBatchOfVersions (previous : VersionListing) :
    Prog S3World Throwable VersionListing :=
  amazonS3.invoke (.listNextBatchOfVersions previous)

/-- `deleteVersion`. -/
def deleteVersion (bucketName key : String) (versionId : VersionId) :
    Prog S3World Throwable Unit :=
  amazonS3.invoke (.deleteVersion bucketName key versionId)

/-- `deleteBucket`. -/
def deleteBucket (bucketName : String) : Prog S3World Throwable Unit :=
  amazonS3.invoke (.deleteBucket bucketName)

end AmazonS3

end GradleLocalstack.Model
