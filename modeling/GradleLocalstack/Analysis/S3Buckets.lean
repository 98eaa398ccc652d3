import GradleLocalstack.Model.S3

/-!
# What the deletions do to a bucket

`deleteObject` takes exactly its key off the listing of the current objects, on a bucket
of any versioning status, and `deleteVersion` takes exactly its version off the listing
of the versions.  Both listings have pairwise distinct positions.  An `Off` bucket
without current objects is empty; a `Suspended` bucket is never emptied by
`deleteObject`.
-/

set_option autoImplicit false

namespace GradleLocalstack.Analysis

open Foundation GradleLocalstack.Model

namespace Bucket

variable (b : Bucket)

/-- Deleting an object leaves the versioning status. -/
@[simp] theorem status_deleteObject (key : String) : (b.deleteObject key).status = b.status := by
  unfold Bucket.deleteObject
  split <;> rfl

/-- Deleting a version leaves the versioning status. -/
@[simp] theorem status_deleteVersion (key : String) (versionId : VersionId) :
    (b.deleteVersion key versionId).status = b.status := rfl

/-- A version is the current object of its key if it has a body and none of the key is newer. -/
theorem isCurrentObject_iff (v : Version) :
    b.isCurrentObject v = true ↔
      v.body.isSome = true ∧ ∀ u ∈ b.versions, u.key = v.key → u.stamp ≤ v.stamp := by
  simp only [Bucket.isCurrentObject, Bool.and_eq_true, List.all_eq_true, Bool.or_eq_true,
    bne_iff_ne, decide_eq_true_eq]
  refine and_congr_right fun _ => forall_congr' fun u => imp_congr_right fun _ => ?_
  by_cases h : u.key = v.key <;> simp [h]

/-- Two versions of a bucket with one time stamp are the same version. -/
theorem stamp_inj {u v : Version} (hu : u ∈ b.versions) (hv : v ∈ b.versions)
    (h : u.stamp = v.stamp) : u = v := by
  have hnodup : (b.versions.map Version.stamp).Nodup :=
    List.pairwise_map.mpr (b.newest_first.imp fun hlt => ne_of_gt hlt)
  exact List.inj_on_of_nodup_map hnodup hu hv h

/-- Two versions of one key with one version id are the same version. -/
theorem versionId_inj {u v : Version} (hu : u ∈ b.versions) (hv : v ∈ b.versions)
    (hkey : u.key = v.key) (hid : u.versionId = v.versionId) : u = v := by
  have hnodup : (b.versions.map fun w => (w.key, w.versionId)).Nodup := by
    refine List.pairwise_map.mpr (b.ids.imp ?_)
    intro x y hxy heq
    exact hxy (congrArg Prod.fst heq) (congrArg Prod.snd heq)
  exact List.inj_on_of_nodup_map hnodup hu hv (Prod.ext hkey hid)

/-- The bucket after a deletion that kept the versions satisfying `g`, and that may have
put a delete marker for `key` on top: the current objects of the other keys are left,
provided `g` kept all versions of the other keys. -/
theorem filter_isCurrentObject_of {b' : Bucket} {key : String} {g : Version → Bool}
    (hversions : b'.versions = b.versions.filter g ∨
      ∃ m : Version, m.key = key ∧ m.body = none ∧ (∀ v ∈ b.versions, v.stamp < m.stamp) ∧
        b'.versions = m :: b.versions.filter g)
    (hg : ∀ v ∈ b.versions, v.key ≠ key → g v = true)
    (hkey : b'.versions = b.versions.filter g → ∀ v ∈ b.versions, v.key = key → g v = false) :
    b'.versions.filter b'.isCurrentObject =
      (b.versions.filter b.isCurrentObject).filter fun v => v.key ≠ key := by
  -- a version of another key sees the same newer versions before and after
  have hother : ∀ v ∈ b.versions, v.key ≠ key →
      (b'.isCurrentObject v = true ↔ b.isCurrentObject v = true) := by
    intro v _ hv
    rw [isCurrentObject_iff, isCurrentObject_iff]
    refine and_congr_right fun _ => ?_
    have hmem : ∀ u, u.key = v.key → (u ∈ b'.versions ↔ u ∈ b.versions) := by
      intro u huv
      have hne : u.key ≠ key := huv ▸ hv
      have hfilter : u ∈ b.versions.filter g ↔ u ∈ b.versions := by
        rw [List.mem_filter]
        exact ⟨fun h => h.1, fun h => ⟨h, hg u h hne⟩⟩
      rcases hversions with h | ⟨m, hmkey, _, _, h⟩
      · rw [h, hfilter]
      · rw [h, List.mem_cons, hfilter]
        constructor
        · rintro (rfl | h)
          · exact absurd hmkey hne
          · exact h
        · exact .inr
    constructor
    · intro h u hu huv
      exact h u ((hmem u huv).mpr hu) huv
    · intro h u hu huv
      exact h u ((hmem u huv).mp hu) huv
  rcases hversions with h | ⟨m, hmkey, hmbody, hmstamp, h⟩
  · rw [h, List.filter_filter, List.filter_filter]
    apply List.filter_congr
    intro v hv
    rw [Bool.eq_iff_iff]
    simp only [Bool.and_eq_true, decide_eq_true_eq]
    by_cases hvk : v.key = key
    · simp [hvk, hkey h v hv hvk]
    · simp [hvk, hg v hv hvk, hother v hv hvk]
  · have hm : b'.isCurrentObject m = false := by
      rw [Bool.eq_false_iff, Ne, isCurrentObject_iff, hmbody]
      simp
    rw [h, List.filter_cons_of_neg (by simp [hm]), List.filter_filter, List.filter_filter]
    apply List.filter_congr
    intro v hv
    rw [Bool.eq_iff_iff]
    simp only [Bool.and_eq_true, decide_eq_true_eq]
    by_cases hvk : v.key = key
    · have hold : ¬ b'.isCurrentObject v = true := by
        rw [isCurrentObject_iff, h]
        intro hcur
        have := hcur.2 m List.mem_cons_self (hmkey.trans hvk.symm)
        have := hmstamp v hv
        omega
      simp [hvk, hold]
    · simp [hvk, hg v hv hvk, hother v hv hvk]

/-- **`deleteObject` takes exactly its key off the current objects.** -/
theorem objectSummaries_deleteObject (key : String) :
    (b.deleteObject key).objectSummaries =
      b.objectSummaries.filter fun s => s.key ≠ key := by
  have hcurrent : (b.deleteObject key).versions.filter (b.deleteObject key).isCurrentObject =
      (b.versions.filter b.isCurrentObject).filter fun v => v.key ≠ key := by
    cases h : b.status with
    | off =>
      have hv : (b.deleteObject key).versions = b.versions.filter fun v => v.key != key := by
        unfold Bucket.deleteObject
        split <;> simp_all [Bucket.restrict]
      refine filter_isCurrentObject_of b (.inl hv) ?_ ?_
      · intro v _ hne
        simpa using hne
      · intro _ v _ hk
        simpa using hk
    | enabled =>
      have hv : (b.deleteObject key).versions =
          ⟨key, b.clock, .id b.clock, none⟩ :: b.versions.filter fun _ => true := by
        unfold Bucket.deleteObject
        split <;> simp_all [Bucket.withMarker]
      refine filter_isCurrentObject_of b
        (.inr ⟨_, rfl, rfl, b.stamp_lt, hv⟩) (fun _ _ _ => rfl) ?_
      intro h'
      rw [hv] at h'
      exact absurd h' (by simp)
    | suspended =>
      have hv : (b.deleteObject key).versions = ⟨key, b.clock, .null, none⟩ ::
          b.versions.filter fun v => !Bucket.isNullVersion key v := by
        unfold Bucket.deleteObject
        split <;> simp_all [Bucket.withMarker, Bucket.restrict]
      refine filter_isCurrentObject_of b (.inr ⟨_, rfl, rfl, b.stamp_lt, hv⟩) ?_ ?_
      · intro v _ hne
        simp [Bucket.isNullVersion, hne]
      · intro h'
        rw [hv] at h'
        exact absurd h' (by simp)
  unfold Bucket.objectSummaries
  rw [hcurrent, List.filter_map]
  rfl

/-- `deleteObject` leaves a delete marker on a suspended bucket. -/
theorem versions_deleteObject_suspended (key : String) (h : b.status = .suspended) :
    (b.deleteObject key).versions ≠ [] := by
  unfold Bucket.deleteObject
  split <;> simp_all [Bucket.withMarker]

/-- The current objects have pairwise distinct keys. -/
theorem nodup_objectSummaries : (b.objectSummaries.map S3ObjectSummary.key).Nodup := by
  unfold Bucket.objectSummaries
  rw [List.map_map, List.Nodup, List.pairwise_map]
  have hnewest := b.newest_first.filter b.isCurrentObject
  refine List.Pairwise.imp_of_mem ?_ hnewest
  intro u v hu hv hlt hkey
  have hcur := ((isCurrentObject_iff b v).mp (List.of_mem_filter hv)).2 u
    (List.mem_of_mem_filter hu) hkey
  omega

/-- The versions have pairwise distinct positions. -/
theorem nodup_versionSummaries :
    (b.versionSummaries.map S3VersionSummary.position).Nodup := by
  unfold Bucket.versionSummaries
  rw [List.map_map, List.Nodup, List.pairwise_map]
  refine b.newest_first.imp ?_
  intro u v hlt hpos
  have hstamp : u.stamp = v.stamp := by
    have := congrArg (fun p : VersionPosition => (ofLex p).2) hpos
    simpa [S3VersionSummary.position, Version.toSummary] using this
  omega

/-- **`deleteVersion` takes exactly its version off the versions.** -/
theorem versionSummaries_deleteVersion {s : S3VersionSummary} (hs : s ∈ b.versionSummaries) :
    (b.deleteVersion s.key s.versionId).versionSummaries =
      b.versionSummaries.filter fun u => u.position ≠ s.position := by
  obtain ⟨v, hv, rfl⟩ := List.mem_map.mp hs
  unfold Bucket.versionSummaries Bucket.deleteVersion Bucket.restrict
  dsimp only
  rw [List.filter_map]
  congr 1
  apply List.filter_congr
  intro u hu
  rw [Bool.eq_iff_iff]
  simp only [Function.comp_apply, Bool.not_eq_true', Bool.and_eq_false_iff, decide_not,
    decide_eq_false_iff_not, beq_eq_false_iff_ne, ne_eq]
  have hiff : (u.key = v.key ∧ u.versionId = v.versionId) ↔
      u.toSummary.position = v.toSummary.position := by
    constructor
    · rintro ⟨hkey, hid⟩
      rw [versionId_inj b hu hv hkey hid]
    · intro hpos
      have hstamp : u.stamp = v.stamp := by
        have := congrArg (fun p : VersionPosition => (ofLex p).2) hpos
        simpa [S3VersionSummary.position, Version.toSummary] using this
      rw [stamp_inj b hu hv hstamp]
      exact ⟨rfl, rfl⟩
  rw [← not_and_or]
  exact not_congr hiff

/-- No version is listed exactly if there is none. -/
@[simp] theorem versionSummaries_eq_nil : b.versionSummaries = [] ↔ b.versions = [] := by
  simp [Bucket.versionSummaries]

/-- A bucket that never was versioned holds only current objects. -/
theorem versions_eq_nil_of_off (h : b.status = .off) (hobj : b.objectSummaries = []) :
    b.versions = [] := by
  rw [List.eq_nil_iff_forall_not_mem]
  intro v hv
  have hcur : b.isCurrentObject v = true := by
    rw [isCurrentObject_iff]
    refine ⟨(b.off_plain h v hv).2, ?_⟩
    intro u hu hkey
    have hid : u.versionId = v.versionId :=
      (b.off_plain h u hu).1.trans (b.off_plain h v hv).1.symm
    rw [versionId_inj b hu hv hkey hid]
  have hmem : (⟨v.key⟩ : S3ObjectSummary) ∈ b.objectSummaries :=
    List.mem_map.mpr ⟨v, List.mem_filter.mpr ⟨hv, hcur⟩, rfl⟩
  rw [hobj] at hmem
  cases hmem

/-- An empty bucket lists nothing. -/
theorem objectSummaries_eq_nil (h : b.versions = []) : b.objectSummaries = [] := by
  simp [Bucket.objectSummaries, h]

end Bucket

/-! ## Buckets and clients to try the results on -/

/-- A bucket with one object and an older version of it. -/
def sampleBucket (status : VersioningStatus) (h : status ≠ .off) : Bucket where
  status := status
  versions := [⟨"orders.json", 1, .id 1, some "[1]"⟩, ⟨"orders.json", 0, .null, some "[]"⟩]
  clock := 2
  newest_first := by decide
  stamp_lt := by decide
  id_lt := by
    intro v hv n hn
    cases hv with
    | head =>
      cases hn
      exact Nat.one_lt_two
    | tail _ hv =>
      cases hv with
      | head => cases hn
      | tail _ hv => cases hv
  ids := by decide
  off_plain hoff := absurd hoff h

/-- A store with the bucket `catalog` alone. -/
def sampleStore (b : Bucket) : S3Store := Function.update (fun _ => none) "catalog" (some b)

/-- A client of a service that lists one item a page. -/
def sampleClient (sched : Schedule Throwable) : AmazonS3 := ⟨1, Nat.one_pos, sched⟩

end GradleLocalstack.Analysis
