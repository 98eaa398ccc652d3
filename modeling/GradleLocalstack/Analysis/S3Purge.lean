import GradleLocalstack.Analysis.S3Loops

/-!
# A purge that returns

`PurgeS3BucketsTask.run` under any schedule of failures.  Every attempt only touches the
listed buckets; when the run returns, every listed bucket that is not `Suspended` is
empty.  On a `Suspended` bucket the version phase does not run, and the object phase puts
a delete marker in the place of every object, so the bucket is left empty only if it was
empty from the start.
-/

set_option autoImplicit false

namespace GradleLocalstack.Analysis

open Foundation GradleLocalstack.Model GradleLocalstack.Program

variable {amazonS3 : AmazonS3}

/-- What attempts to purge the listed buckets may have done to the store. -/
structure PurgingAll (buckets : List String) (s s' : S3Store) : Prop where
  other : ∀ c, c ∉ buckets → s' c = s c
  bucket : ∀ c ∈ buckets, ∀ b, s c = some b → ∃ b', s' c = some b' ∧ b'.status = b.status ∧
    (b.status = .suspended → (b'.versions = [] ↔ b.versions = []))

namespace PurgingAll

variable {buckets : List String} {s s' s'' : S3Store}

/-- Nothing has been purged yet. -/
theorem refl (buckets : List String) (s : S3Store) : PurgingAll buckets s s :=
  ⟨fun _ _ => rfl, fun _ _ b hb => ⟨b, hb, rfl, fun _ => Iff.rfl⟩⟩

/-- Purging one more of the listed buckets. -/
theorem step (h : PurgingAll buckets s s') {name : String} (hname : name ∈ buckets)
    (h' : Purging name s' s'') : PurgingAll buckets s s'' := by
  refine ⟨fun c hc => ?_, fun c hc b hb => ?_⟩
  · have hne : c ≠ name := fun heq => hc (heq ▸ hname)
    exact (h'.other c hne).trans (h.other c hc)
  · obtain ⟨b', hb', hstatus, hsusp⟩ := h.bucket c hc b hb
    by_cases heq : c = name
    · subst heq
      obtain ⟨b'', hb'', hstatus', hsusp'⟩ := h'.bucket b' hb'
      exact ⟨b'', hb'', hstatus'.trans hstatus,
        fun hs => (hsusp' (hstatus.trans hs)).trans (hsusp hs)⟩
    · exact ⟨b', (h'.other c heq).trans hb', hstatus, hsusp⟩

end PurgingAll

/-- **One bucket.**  When `purgeBucket` returns, a bucket that is not `Suspended` is
empty. -/
theorem wp_purgeBucket {name : String} {w : S3World} {b : Bucket} (hb : w.store name = some b) :
    (PurgeS3BucketsTask.purgeBucket amazonS3 name).wp
      (fun _ w' => PurgedSoFar name w w' ∧
        ∃ b', w'.store name = some b' ∧ (b.status ≠ .suspended → b'.versions = []))
      (PurgeStruck amazonS3 name w) w := by
  unfold PurgeS3BucketsTask.purgeBucket
  simp only [Prog.wp_bind, wp_log]
  refine wp_emptyBucket (b := b) hb ?_ ?_ (fun _ _ he => he.of_emit)
  · intro w₁ b₁ hb₁ hen
    simp only [Prog.wp_bind, wp_log]
    refine Prog.wp_mono (wp_purgeVersions (b := b₁) hb₁ hen) ?_ (fun _ _ he => he.of_emit)
    rintro _ w₂ ⟨hw₂, hempty⟩
    exact ⟨hw₂.of_emit, hempty⟩
  · intro w₁ b₁ hw₁ hb₁ hempty
    exact ⟨⟨hw₁.purging, hw₁.struck⟩, b₁, hb₁, hempty⟩

/-- **The run.**  It keeps `PurgingAll`; when it returns, the listed buckets that are not
`Suspended` are empty. -/
theorem wp_purge_run {buckets : List String} {s : S3Store}
    (hexist : ∀ c ∈ buckets, (s c).isSome) :
    (PurgeS3BucketsTask.run amazonS3 ⟨some buckets⟩).wp
      (fun _ w' => PurgingAll buckets s w'.store ∧ ∀ c ∈ buckets, ∀ b, w'.store c = some b →
        b.status ≠ .suspended → b.versions = [])
      (fun _ w' => PurgingAll buckets s w'.store) (World.start s) := by
  refine wp_execute_keeps (fun w : S3World => PurgingAll buckets s w.store) _ (fun _ _ h => h) ?_ _
    (PurgingAll.refl buckets s)
  intro w hw
  refine Prog.wp_forEach_establishes (fun w : S3World => PurgingAll buckets s w.store)
    (fun c w => ∀ b, w.store c = some b → b.status ≠ .suspended → b.versions = []) buckets ?_ w hw
  intro name hname w hall
  obtain ⟨b₀, hb₀⟩ := Option.isSome_iff_exists.mp (hexist name hname)
  obtain ⟨b, hb, -⟩ := hall.bucket name hname b₀ hb₀
  refine Prog.wp_mono (wp_purgeBucket hb) ?_ (fun _ _ he => hall.step hname he.purging)
  rintro _ w' ⟨hw', b', hb', hempty⟩
  have hclean : ∀ c, w'.store name = some c → c.status ≠ .suspended → c.versions = [] := by
    intro c hc hsusp
    rw [hw'.purging.status_eq hb hc] at hsusp
    rw [hb'] at hc
    cases hc
    exact hempty hsusp
  refine ⟨hall.step hname hw'.purging, hclean, ?_⟩
  intro c hdone
  by_cases heq : c = name
  · rw [heq]
    exact hclean
  · rw [hw'.purging.other c heq]
    exact hdone

/-- Every listed bucket exists and holds no object, no version and no delete marker, and
every other bucket is what it was. -/
def PurgedExactly (buckets : List String) (s s' : S3Store) : Prop :=
  (∀ c ∈ buckets, ∃ b, s' c = some b ∧ b.versions = []) ∧ ∀ c, c ∉ buckets → s' c = s c

/-- **When a purge that reports success left nothing**: exactly when every listed bucket
whose versioning is suspended held nothing from the start.
SRC: aws/s3/PurgeS3BucketsTask.java:44-96, aws/s3/S3TaskUtil.java:32-37 -/
theorem purge_leaves_nothing_iff (amazonS3 : AmazonS3) (buckets : List String) (s : S3Store)
    (hexist : ∀ c ∈ buckets, (s c).isSome) (w' : S3World)
    (hrun : PurgeS3BucketsTask.run amazonS3 ⟨some buckets⟩ (World.start s) =
      (.returned (), w')) :
    PurgedExactly buckets s w'.store ↔
      ∀ c ∈ buckets, ∀ b, s c = some b → b.status = .suspended → b.versions = [] := by
  obtain ⟨hall, hempty⟩ := Prog.wp_returned (wp_purge_run hexist) hrun
  constructor
  · rintro ⟨hclean, -⟩ c hc b hb hsusp
    obtain ⟨b', hb', -, hiff⟩ := hall.bucket c hc b hb
    obtain ⟨b'', hb'', hnil⟩ := hclean c hc
    rw [hb'] at hb''
    cases hb''
    exact (hiff hsusp).mp hnil
  · intro hcond
    refine ⟨?_, hall.other⟩
    intro c hc
    obtain ⟨b, hb⟩ := Option.isSome_iff_exists.mp (hexist c hc)
    obtain ⟨b', hb', hstatus, hiff⟩ := hall.bucket c hc b hb
    refine ⟨b', hb', ?_⟩
    by_cases hsusp : b.status = .suspended
    · exact (hiff hsusp).mpr (hcond c hc b hb hsusp)
    · exact hempty c hc b' hb' (hstatus ▸ hsusp)

/-- On an `Enabled` bucket, with a failing call, the purge leaves nothing. -/
theorem purge_enabled_leaves_nothing :
    PurgedExactly ["catalog"] (sampleStore (sampleBucket .enabled (by decide)))
      (PurgeS3BucketsTask.run
        (sampleClient (Schedule.only 3 ⟨S3.busy, true⟩))
        ⟨some ["catalog"]⟩
        (World.start (sampleStore (sampleBucket .enabled (by decide))))).2.store := by
  refine (purge_leaves_nothing_iff _ ["catalog"] _ (by decide) _
    (Prod.ext (by decide) rfl)).mpr ?_
  intro c hc b hb hsusp
  rw [List.mem_singleton.mp hc, sampleStore, Function.update_self] at hb
  cases hb
  cases hsusp

/-- A purge of a `Suspended` bucket reports success and leaves its older version behind. -/
theorem purge_suspended_leaves_versions :
    ¬ ∀ (amazonS3 : AmazonS3) (buckets : List String) (s : S3Store),
      (∀ c ∈ buckets, (s c).isSome) → ∀ w' : S3World,
      PurgeS3BucketsTask.run amazonS3 ⟨some buckets⟩ (World.start s) = (.returned (), w') →
      PurgedExactly buckets s w'.store := by
  intro h
  have hpurged := h (sampleClient Schedule.clear) ["catalog"]
    (sampleStore (sampleBucket .suspended (by decide))) (by decide) _ (Prod.ext (by decide) rfl)
  obtain ⟨b, hb, hempty⟩ := hpurged.1 "catalog" (by decide)
  have hleft : (((PurgeS3BucketsTask.run (sampleClient Schedule.clear) ⟨some ["catalog"]⟩
      (World.start (sampleStore (sampleBucket .suspended (by decide))))).2.store "catalog").map
        fun b => b.versions.isEmpty) = some false := by decide
  rw [hb, Option.map_some, hempty] at hleft
  cases hleft

end GradleLocalstack.Analysis
