import GradleLocalstack.Program.S3Tasks
import GradleLocalstack.Analysis.RetryRule
import GradleLocalstack.Analysis.S3Buckets

/-!
# The two loops that empty a bucket

On a bucket that exists, and whatever calls fail, `objectLoop` and `versionLoop` touch no
other bucket and keep the bucket and its versioning status.  They throw only when a
failure strikes.  When they return, `objectLoop` has left no current object and
`versionLoop` no version; a bucket that is not `Suspended` is then empty, and a
`Suspended` one is empty only if it was so before.
-/

set_option autoImplicit false

namespace GradleLocalstack.Analysis

open Foundation GradleLocalstack.Model GradleLocalstack.Program

/-- What purging a bucket may have done to the store, finished or not. -/
structure Purging (name : String) (s s' : S3Store) : Prop where
  other : ∀ c, c ≠ name → s' c = s c
  bucket : ∀ b, s name = some b → ∃ b', s' name = some b' ∧ b'.status = b.status ∧
    (b.status = .suspended → (b'.versions = [] ↔ b.versions = []))

namespace Purging

variable {name : String} {s s' s'' : S3Store}

/-- Nothing has been done yet. -/
theorem refl (name : String) (s : S3Store) : Purging name s s :=
  ⟨fun _ _ => rfl, fun b hb => ⟨b, hb, rfl, fun _ => Iff.rfl⟩⟩

/-- Two parts of a purge. -/
theorem trans (h : Purging name s s') (h' : Purging name s' s'') : Purging name s s'' := by
  refine ⟨fun c hc => (h'.other c hc).trans (h.other c hc), ?_⟩
  intro b hb
  obtain ⟨b', hb', hstatus, hsusp⟩ := h.bucket b hb
  obtain ⟨b'', hb'', hstatus', hsusp'⟩ := h'.bucket b' hb'
  refine ⟨b'', hb'', hstatus'.trans hstatus, ?_⟩
  intro hs
  exact (hsusp' (hstatus.trans hs)).trans (hsusp hs)

/-- One change of the bucket itself. -/
theorem update {b b' : Bucket} (hb : s name = some b) (hstatus : b'.status = b.status)
    (hsusp : b.status = .suspended → (b'.versions = [] ↔ b.versions = [])) :
    Purging name s (Function.update s name (some b')) := by
  refine ⟨fun c hc => Function.update_of_ne hc _ _, ?_⟩
  intro b₀ hb₀
  rw [hb] at hb₀
  cases hb₀
  exact ⟨b', Function.update_self .., hstatus, hsusp⟩

/-- The versioning status stays. -/
theorem status_eq {b b' : Bucket} (h : Purging name s s') (hb : s name = some b)
    (hb' : s' name = some b') : b'.status = b.status := by
  obtain ⟨b₁, hb₁, hstatus, -⟩ := h.bucket b hb
  rw [hb'] at hb₁
  cases hb₁
  exact hstatus

end Purging

variable {amazonS3 : AmazonS3} {name : String} {w : S3World} {b : Bucket}

/-- How a purge that threw left the world: a failure struck at its last call. -/
structure PurgeStruck (amazonS3 : AmazonS3) (name : String) (w : S3World) (t : Throwable)
    (w' : S3World) : Prop where
  purging : Purging name w.store w'.store
  struckAt : ∃ c, w.StruckAt w' c t
  injects : amazonS3.sched.Injects t

/-- A read of a bucket that exists is answered, and leaves the store. -/
theorem onBucket_read {ρ : Type} {s : S3Store} (hb : s name = some b) (f : Bucket → ρ) :
    S3.onBucket s name (fun bkt => (.ok (f bkt), some bkt)) = (.ok (f b), s) := by
  have hsame : Function.update s name (some b) = s := by
    rw [← hb]
    exact Function.update_eq_self name s
  simp only [S3.onBucket, hb, hsame]

/-- A change of a bucket that exists is made. -/
theorem onBucket_change {s : S3Store} (hb : s name = some b) (f : Bucket → Bucket) :
    S3.onBucket s name (fun bkt => (.ok (), some (f bkt))) =
      (.ok (), Function.update s name (some (f b))) := by
  simp only [S3.onBucket, hb]

/-- A call on a bucket that exists: the answer and the new bucket, or a strike. -/
theorem wp_invoke {c : S3Call} {r : c.Response} {b' : Bucket} (hb : w.store name = some b)
    (hx : (S3.service amazonS3.pageSize).exec c w.store =
      (.ok r, Function.update w.store name (some b')))
    (hstatus : b'.status = b.status)
    (hsusp : b.status = .suspended → (b'.versions = [] ↔ b.versions = [])) :
    (amazonS3.invoke c).wp
      (fun r' w' => r' = r ∧ w'.store = Function.update w.store name (some b') ∧
        w'.struck = w.struck)
      (PurgeStruck amazonS3 name w) w := by
  refine Prog.wp_mono (wp_call_ok hx) ?_ ?_
  · rintro r' w' ⟨rfl, rfl⟩
    exact ⟨rfl, rfl, by simp⟩
  · rintro t w' ⟨hstruck, hinjects, hstore⟩
    refine ⟨?_, ⟨c, hstruck⟩, hinjects⟩
    rcases hstore with h | h
    · rw [h]
      exact Purging.refl name w.store
    · rw [h]
      exact Purging.update hb hstatus hsusp

/-- A call that only reads a bucket that exists. -/
theorem wp_invoke_read {c : S3Call} {r : c.Response}
    (hx : (S3.service amazonS3.pageSize).exec c w.store = (.ok r, w.store)) :
    (amazonS3.invoke c).wp
      (fun r' w' => r' = r ∧ w'.store = w.store ∧ w'.struck = w.struck)
      (PurgeStruck amazonS3 name w) w := by
  refine Prog.wp_mono (wp_call_read hx) ?_ ?_
  · rintro r' w' ⟨rfl, rfl⟩
    exact ⟨rfl, rfl, by simp⟩
  · rintro t w' ⟨hstruck, hinjects, hstore⟩
    exact ⟨hstore ▸ Purging.refl name w.store, ⟨c, hstruck⟩, hinjects⟩

/-- The world after a part of a purge, as the next part finds it. -/
structure PurgedSoFar (name : String) (w w' : S3World) : Prop where
  purging : Purging name w.store w'.store
  struck : w'.struck = w.struck

/-- A call that only read. -/
theorem PurgedSoFar.of_read {w' : S3World} (hstore : w'.store = w.store)
    (hstruck : w'.struck = w.struck) : PurgedSoFar name w w' :=
  ⟨hstore ▸ Purging.refl name w.store, hstruck⟩

/-- Two parts of a purge, neither struck. -/
theorem PurgedSoFar.trans {w' w'' : S3World} (h : PurgedSoFar name w w')
    (h' : PurgedSoFar name w' w'') : PurgedSoFar name w w'' :=
  ⟨h.purging.trans h'.purging, h'.struck.trans h.struck⟩

/-- A part that returned, and one that a failure struck. -/
theorem PurgedSoFar.struckAt {w' w'' : S3World} {t : Throwable} (h : PurgedSoFar name w w')
    (h' : PurgeStruck amazonS3 name w' t w'') : PurgeStruck amazonS3 name w t w'' := by
  obtain ⟨c, hstruck⟩ := h'.struckAt
  exact ⟨h.purging.trans h'.purging, ⟨c, hstruck.of_struck_eq h.struck⟩, h'.injects⟩

/-- What was printed before a part of a purge does not matter. -/
theorem PurgedSoFar.of_emit {o : Output} {w' : S3World}
    (h : PurgedSoFar name (Console.emit o w) w') : PurgedSoFar name w w' :=
  ⟨h.purging, h.struck⟩

/-- What was printed before does not matter. -/
theorem PurgeStruck.of_emit {o : Output} {t : Throwable} {w' : S3World}
    (h : PurgeStruck amazonS3 name (Console.emit o w) t w') : PurgeStruck amazonS3 name w t w' :=
  ⟨h.purging, h.struckAt, h.injects⟩

/-- **A loop over a listing of the bucket** whose deletions each take their item, and no
other, out of what the listing shows.  `K` is what the deletions need to know of the
bucket. -/
theorem wp_bucketLoop {α π : Type} [LinearOrder π] (pos : α → π) (shown : Bucket → List α)
    (K : Bucket → Prop) {delete : α → Prog S3World Throwable Unit}
    {next : Page α π → Prog S3World Throwable (Page α π)} {rounds : S3World → ℕ}
    (hdelete : ∀ a w₁ b₁, w₁.store name = some b₁ → K b₁ → a ∈ shown b₁ → (delete a).wp
      (fun _ w₂ => PurgedSoFar name w₁ w₂ ∧ ∃ b₂, w₂.store name = some b₂ ∧ K b₂ ∧
        shown b₂ = (shown b₁).filter fun c => pos c ≠ pos a)
      (PurgeStruck amazonS3 name w₁) w₁)
    (hnext : ∀ p w₁ b₁, w₁.store name = some b₁ → (next p).wp
      (fun p' w₂ => PurgedSoFar name w₁ w₂ ∧ w₂.store name = some b₁ ∧
        p' = Page.of pos amazonS3.pageSize p.next (shown b₁))
      (PurgeStruck amazonS3 name w₁) w₁)
    (hb : w.store name = some b) (hK : K b) (hnodup : ((shown b).map pos).Nodup)
    (hrounds : (shown b).length < rounds w) :
    (drainPages delete next rounds (Page.of pos amazonS3.pageSize none (shown b))).wp
      (fun _ w' => PurgedSoFar name w w' ∧
        ∃ b', w'.store name = some b' ∧ K b' ∧ shown b' = [])
      (PurgeStruck amazonS3 name w) w := by
  let view : S3World → List α := fun w' => (w'.store name).elim [] shown
  have hview : ∀ {w' b'}, w'.store name = some b' → view w' = shown b' := by
    intro w' b' hb'
    simp [view, hb']
  let J : S3World → Prop := fun w' => PurgedSoFar name w w' ∧ ∃ b', w'.store name = some b' ∧ K b'
  have hstart : J w := ⟨PurgedSoFar.of_read rfl rfl, b, hb, hK⟩
  rw [← hview hb] at hnodup hrounds ⊢
  refine Prog.wp_conseq (wp_drainPages pos view J amazonS3.pageSize_pos ?_ ?_ w hstart hnodup
    hrounds) ?_
  · -- one deletion
    intro a w₁ hJ ha
    obtain ⟨hw₁, b₁, hb₁, hK₁⟩ := hJ
    rw [hview hb₁] at ha
    refine Prog.wp_mono (hdelete a w₁ b₁ hb₁ hK₁ ha) ?_ (fun _ _ he => hw₁.struckAt he)
    rintro _ w₂ ⟨hstep, b₂, hb₂, hK₂, hshown⟩
    rw [hview hb₁, hview hb₂]
    exact ⟨⟨hw₁.trans hstep, b₂, hb₂, hK₂⟩, hshown⟩
  · -- the next batch
    intro p w₁ hJ
    obtain ⟨hw₁, b₁, hb₁, hK₁⟩ := hJ
    refine Prog.wp_mono (hnext p w₁ b₁ hb₁) ?_ (fun _ _ he => hw₁.struckAt he)
    rintro p' w₂ ⟨hstep, hb₂, hp'⟩
    rw [hview hb₁, hview hb₂]
    exact ⟨⟨hw₁.trans hstep, b₁, hb₂, hK₁⟩, rfl, hp'⟩
  · rintro _ w' ⟨⟨hw', b', hb', hK'⟩, hempty⟩
    rw [hview hb'] at hempty
    exact ⟨hw', b', hb', hK', hempty⟩

/-- **The object loop.** -/
theorem wp_purgeObjects (hb : w.store name = some b) :
    (PurgeS3BucketsTask.purgeObjects amazonS3 name).wp
      (fun _ w' => PurgedSoFar name w w' ∧
        ∃ b', w'.store name = some b' ∧ b'.objectSummaries = [])
      (PurgeStruck amazonS3 name w) w := by
  have hlist : (S3.service amazonS3.pageSize).exec (.listObjects name) w.store =
      (.ok ⟨name, S3.objectPage amazonS3.pageSize none b⟩, w.store) :=
    onBucket_read hb _
  unfold PurgeS3BucketsTask.purgeObjects objectLoop
  rw [Prog.wp_bind]
  apply Prog.wp_conseq (wp_invoke_read hlist)
  rintro _ w₀ ⟨rfl, hstore₀, hstruck₀⟩
  have hw₀ : PurgedSoFar name w w₀ := PurgedSoFar.of_read hstore₀ hstruck₀
  have hb₀ : w₀.store name = some b := hstore₀ ▸ hb
  have hrounds : b.objectSummaries.length < objectRounds name w₀ := by
    simp [objectRounds, hb₀]
  refine Prog.wp_mono (wp_bucketLoop S3ObjectSummary.key Bucket.objectSummaries (fun _ => True)
    ?_ ?_ hb₀ trivial (Bucket.nodup_objectSummaries b) hrounds) ?_
    (fun _ _ he => hw₀.struckAt he)
  · -- one deletion
    intro a w₁ b₁ hb₁ _ ha
    have hx : (S3.service amazonS3.pageSize).exec (.deleteObject name a.key) w₁.store =
        (.ok (), Function.update w₁.store name (some (b₁.deleteObject a.key))) :=
      onBucket_change hb₁ _
    have hstatus := Bucket.status_deleteObject b₁ a.key
    have hsusp : b₁.status = .suspended →
        ((b₁.deleteObject a.key).versions = [] ↔ b₁.versions = []) := by
      intro hs
      have hne : b₁.versions ≠ [] := by
        intro hnil
        rw [Bucket.objectSummaries_eq_nil b₁ hnil] at ha
        cases ha
      exact iff_of_false (Bucket.versions_deleteObject_suspended b₁ a.key hs) hne
    apply Prog.wp_conseq (wp_invoke hb₁ hx hstatus hsusp)
    rintro _ w₂ ⟨-, hstore₂, hstruck₂⟩
    have hb₂ : w₂.store name = some (b₁.deleteObject a.key) := by
      rw [hstore₂, Function.update_self]
    exact ⟨⟨hstore₂ ▸ Purging.update hb₁ hstatus hsusp, hstruck₂⟩, _, hb₂, trivial,
      Bucket.objectSummaries_deleteObject b₁ a.key⟩
  · -- the next batch
    intro p w₁ b₁ hb₁
    have hx : (S3.service amazonS3.pageSize).exec (.listNextBatchOfObjects ⟨name, p⟩) w₁.store =
        (.ok ⟨name, S3.objectPage amazonS3.pageSize p.next b₁⟩, w₁.store) :=
      onBucket_read hb₁ _
    rw [Prog.wp_bind]
    apply Prog.wp_conseq (wp_invoke_read hx)
    rintro _ w₂ ⟨rfl, hstore₂, hstruck₂⟩
    exact ⟨PurgedSoFar.of_read hstore₂ hstruck₂, hstore₂ ▸ hb₁, rfl⟩
  · rintro _ w' ⟨hw', b', hb', -, hempty⟩
    exact ⟨hw₀.trans hw', b', hb', hempty⟩

/-- **The version loop**, which runs on an `Enabled` bucket only. -/
theorem wp_purgeVersions (hb : w.store name = some b) (henabled : b.status = .enabled) :
    (PurgeS3BucketsTask.purgeVersions amazonS3 name).wp
      (fun _ w' => PurgedSoFar name w w' ∧ ∃ b', w'.store name = some b' ∧ b'.versions = [])
      (PurgeStruck amazonS3 name w) w := by
  have hlist : (S3.service amazonS3.pageSize).exec (.listVersions name) w.store =
      (.ok ⟨name, S3.versionPage amazonS3.pageSize none b⟩, w.store) :=
    onBucket_read hb _
  unfold PurgeS3BucketsTask.purgeVersions versionLoop
  rw [Prog.wp_bind]
  apply Prog.wp_conseq (wp_invoke_read hlist)
  rintro _ w₀ ⟨rfl, hstore₀, hstruck₀⟩
  have hw₀ : PurgedSoFar name w w₀ := PurgedSoFar.of_read hstore₀ hstruck₀
  have hb₀ : w₀.store name = some b := hstore₀ ▸ hb
  have hrounds : b.versionSummaries.length < versionRounds name w₀ := by
    simp [versionRounds, hb₀]
  refine Prog.wp_mono (wp_bucketLoop S3VersionSummary.position Bucket.versionSummaries
    (fun b' => b'.status = .enabled) ?_ ?_ hb₀ henabled (Bucket.nodup_versionSummaries b)
    hrounds) ?_ (fun _ _ he => hw₀.struckAt he)
  · -- one deletion
    intro a w₁ b₁ hb₁ hen₁ ha
    have hx : (S3.service amazonS3.pageSize).exec (.deleteVersion name a.key a.versionId)
        w₁.store =
        (.ok (), Function.update w₁.store name (some (b₁.deleteVersion a.key a.versionId))) :=
      onBucket_change hb₁ _
    have hstatus := Bucket.status_deleteVersion b₁ a.key a.versionId
    have hsusp : b₁.status = .suspended →
        ((b₁.deleteVersion a.key a.versionId).versions = [] ↔ b₁.versions = []) := by
      intro hs
      rw [hen₁] at hs
      cases hs
    apply Prog.wp_conseq (wp_invoke hb₁ hx hstatus hsusp)
    rintro _ w₂ ⟨-, hstore₂, hstruck₂⟩
    have hb₂ : w₂.store name = some (b₁.deleteVersion a.key a.versionId) := by
      rw [hstore₂, Function.update_self]
    exact ⟨⟨hstore₂ ▸ Purging.update hb₁ hstatus hsusp, hstruck₂⟩, _, hb₂, hen₁,
      Bucket.versionSummaries_deleteVersion b₁ ha⟩
  · -- the next batch
    intro p w₁ b₁ hb₁
    have hx : (S3.service amazonS3.pageSize).exec (.listNextBatchOfVersions ⟨name, p⟩) w₁.store =
        (.ok ⟨name, S3.versionPage amazonS3.pageSize p.next b₁⟩, w₁.store) :=
      onBucket_read hb₁ _
    rw [Prog.wp_bind]
    apply Prog.wp_conseq (wp_invoke_read hx)
    rintro _ w₂ ⟨rfl, hstore₂, hstruck₂⟩
    exact ⟨PurgedSoFar.of_read hstore₂ hstruck₂, hstore₂ ▸ hb₁, rfl⟩
  · rintro _ w' ⟨hw', b', hb', -, hempty⟩
    have hnil : b'.versions = [] := by
      simpa using hempty
    exact ⟨hw₀.trans hw', b', hb', hnil⟩

/-- `isBucketVersioned` is true of `Enabled` and of no other status. -/
theorem equalsIgnoreCase_getStatus (status : VersioningStatus) :
    equalsIgnoreCase status.getStatus "Enabled" = decide (status = .enabled) := by
  cases status <;> decide

/-- The version phase runs its body on an `Enabled` bucket and does nothing otherwise. -/
theorem wp_whenVersioned {body : Prog S3World Throwable Unit} {Q : Unit → S3World → Prop}
    (hb : w.store name = some b)
    (hbody : ∀ w', PurgedSoFar name w w' → w'.store = w.store → b.status = .enabled →
      body.wp Q (PurgeStruck amazonS3 name w) w')
    (hskip : ∀ w', PurgedSoFar name w w' → w'.store = w.store → b.status ≠ .enabled → Q () w') :
    (whenVersioned amazonS3 name body).wp Q (PurgeStruck amazonS3 name w) w := by
  have hx : (S3.service amazonS3.pageSize).exec (.getBucketVersioningConfiguration name) w.store =
      (.ok b.status, w.store) :=
    onBucket_read hb _
  unfold whenVersioned S3TaskUtil.isBucketVersioned
  simp only [Prog.wp_bind]
  apply Prog.wp_conseq (wp_invoke_read hx)
  rintro _ w' ⟨rfl, hstore, hstruck⟩
  have hw' : PurgedSoFar name w w' := PurgedSoFar.of_read hstore hstruck
  rw [Prog.wp_pure, equalsIgnoreCase_getStatus]
  by_cases hen : b.status = .enabled
  · simp only [hen, decide_true, if_true]
    exact hbody w' hw' hstore hen
  · simp only [hen, decide_false, Bool.false_eq_true, if_false, Prog.wp_pure]
    exact hskip w' hw' hstore hen

/-- **Emptying a bucket**: the object loop, then the version phase with a body that empties
an `Enabled` bucket.  A bucket that is not `Suspended` is then empty. -/
theorem wp_emptyBucket {body : Prog S3World Throwable Unit} {Q : Unit → S3World → Prop}
    {E : Throwable → S3World → Prop} (hb : w.store name = some b)
    (hbody : ∀ w' b', w'.store name = some b' → b'.status = .enabled → body.wp
      (fun _ w'' => PurgedSoFar name w' w'' ∧ ∃ b'', w''.store name = some b'' ∧ b''.versions = [])
      (PurgeStruck amazonS3 name w') w')
    (hQ : ∀ w' b', PurgedSoFar name w w' → w'.store name = some b' →
      (b.status ≠ .suspended → b'.versions = []) → Q () w')
    (hE : ∀ t w', PurgeStruck amazonS3 name w t w' → E t w') :
    (PurgeS3BucketsTask.purgeObjects amazonS3 name).wp
      (fun _ w' => (whenVersioned amazonS3 name body).wp Q E w') E w := by
  refine Prog.wp_mono (wp_purgeObjects hb) ?_ hE
  rintro _ w₁ ⟨hw₁, b₁, hb₁, hobjects⟩
  have hstatus : b₁.status = b.status := hw₁.purging.status_eq hb hb₁
  refine Prog.wp_mono (wp_whenVersioned hb₁ (Q := fun _ w' => PurgedSoFar name w₁ w' ∧
    ∃ b', w'.store name = some b' ∧ (b.status ≠ .suspended → b'.versions = [])) ?_ ?_) ?_
    (fun t w' he => hE t w' (hw₁.struckAt he))
  · -- the version phase
    intro w₂ hw₂ hstore hen
    refine Prog.wp_mono (hbody w₂ b₁ (hstore ▸ hb₁) hen) ?_ (fun _ _ he => hw₂.struckAt he)
    rintro _ w₃ ⟨hw₃, b₃, hb₃, hempty⟩
    exact ⟨hw₂.trans hw₃, b₃, hb₃, fun _ => hempty⟩
  · -- no version phase: the bucket never was versioned, or it is suspended
    intro w₂ hw₂ hstore hen
    refine ⟨hw₂, b₁, hstore ▸ hb₁, ?_⟩
    intro hsusp
    refine Bucket.versions_eq_nil_of_off b₁ ?_ hobjects
    cases hs : b₁.status with
    | off => rfl
    | enabled => exact absurd hs hen
    | suspended => exact absurd (hstatus ▸ hs) hsusp
  · rintro _ w₂ ⟨hw₂, b₂, hb₂, hempty⟩
    exact hQ w₂ b₂ (hw₁.trans hw₂) hb₂ hempty

end GradleLocalstack.Analysis
