import GradleLocalstack.Analysis.S3Loops

/-!
# Deleting buckets

With `force`, `DeleteS3BucketsTask` empties each listed bucket and deletes it.  A failed
attempt starts again from the first bucket of the list, and listing a bucket that is gone
is refused: as long as no failure strikes after the first bucket has been deleted the run
succeeds, and from the first such failure on every attempt fails.

Without `force`, no deletion of an object or of a version is ever requested, and
`deleteBucket` succeeds on a bucket only if it holds nothing.
-/

set_option autoImplicit false

namespace GradleLocalstack.Analysis

open Foundation GradleLocalstack.Model GradleLocalstack.Program

variable {amazonS3 : AmazonS3}

/-! ## With `force` -/

section Force

variable {buckets : List String} {name : String} {w : S3World} {b : Bucket}

/-- With `force`, the check before a deletion does nothing. -/
theorem requireForce_true (task : DeleteS3BucketsTask) (hforce : task.force = some true)
    (name : String) : DeleteS3BucketsTask.requireForce task name = pure () := by
  unfold DeleteS3BucketsTask.requireForce
  rw [hforce]

/-- With `force`, the loop over the objects is that of purging. -/
theorem deleteObjects_forced (task : DeleteS3BucketsTask) (hforce : task.force = some true)
    (name : String) : DeleteS3BucketsTask.deleteObjects amazonS3 task name =
      PurgeS3BucketsTask.purgeObjects amazonS3 name := by
  unfold DeleteS3BucketsTask.deleteObjects
  rw [requireForce_true task hforce]
  rfl

/-- With `force`, the loop over the versions is that of purging. -/
theorem deleteVersions_forced (task : DeleteS3BucketsTask) (hforce : task.force = some true)
    (name : String) : DeleteS3BucketsTask.deleteVersions amazonS3 task name =
      PurgeS3BucketsTask.purgeVersions amazonS3 name := by
  unfold DeleteS3BucketsTask.deleteVersions
  rw [requireForce_true task hforce]
  rfl

/-- How deleting a bucket that existed leaves the world when it throws: a failure struck,
and the bucket is gone or has the versioning status it had. -/
structure DeleteStruck (amazonS3 : AmazonS3) (name : String) (w : S3World) (t : Throwable)
    (w' : S3World) : Prop where
  other : ∀ c, c ≠ name → w'.store c = w.store c
  bucket : ∀ b b', w.store name = some b → w'.store name = some b' → b'.status = b.status
  struckAt : ∃ c, w.StruckAt w' c t
  injects : amazonS3.sched.Injects t

/-- A failure during the two loops is one of the whole. -/
theorem DeleteStruck.of_purgeStruck {t : Throwable} {w' : S3World}
    (h : PurgeStruck amazonS3 name w t w') : DeleteStruck amazonS3 name w t w' := by
  refine ⟨h.purging.other, ?_, h.struckAt, h.injects⟩
  intro b b' hb hb'
  exact h.purging.status_eq hb hb'

/-- What deleting a bucket has done when it returns. -/
structure Deleted (name : String) (w w' : S3World) : Prop where
  other : ∀ c, c ≠ name → w'.store c = w.store c
  gone : w'.store name = none
  struck : w'.struck = w.struck

/-- **One bucket**, existing and not suspended: it is deleted, or a failure strikes. -/
theorem wp_deleteBucket (task : DeleteS3BucketsTask) (hforce : task.force = some true)
    (hb : w.store name = some b) (hsusp : b.status ≠ .suspended) :
    (DeleteS3BucketsTask.deleteBucket amazonS3 task name).wp (fun _ w' => Deleted name w w')
      (DeleteStruck amazonS3 name w) w := by
  unfold DeleteS3BucketsTask.deleteBucket
  simp only [Prog.wp_bind, wp_log, deleteObjects_forced task hforce,
    deleteVersions_forced task hforce]
  refine wp_emptyBucket (b := b) hb ?_ ?_
    (fun _ _ he => DeleteStruck.of_purgeStruck he.of_emit)
  · intro w₁ b₁ hb₁ hen
    exact wp_purgeVersions hb₁ hen
  · intro w₁ b₁ hw₁ hb₁ hempty
    -- the bucket is empty now, and the service deletes it
    have hx : (S3.service amazonS3.pageSize).exec (.deleteBucket name) w₁.store =
        (.ok (), Function.update w₁.store name none) := by
      simp [S3.service, S3.onBucket, hb₁, hempty hsusp]
    have hother : ∀ c, c ≠ name → w₁.store c = w.store c := hw₁.purging.other
    have hstruck : w₁.struck = w.struck := hw₁.struck
    refine Prog.wp_mono (wp_call_ok hx) ?_ ?_
    · rintro _ w₂ ⟨-, rfl⟩
      refine ⟨?_, by simp, by simpa using hstruck⟩
      intro c hc
      simpa [Function.update_of_ne hc] using hother c hc
    · rintro t w₂ ⟨hat, hinjects, hstore⟩
      refine ⟨?_, ?_, ⟨_, hat.of_struck_eq hstruck⟩, hinjects⟩
      · intro c hc
        rcases hstore with h | h
        · rw [h]
          exact hother c hc
        · rw [h, Function.update_of_ne hc]
          exact hother c hc
      · intro b₂ b₃ hb₂ hb₃
        rcases hstore with h | h
        · rw [h, hb₁] at hb₃
          cases hb₃
          exact hw₁.purging.status_eq hb₂ hb₁
        · rw [h, Function.update_self] at hb₃
          cases hb₃

/-- **A bucket that is gone**: listing it is refused, and nothing changes. -/
theorem wp_deleteBucket_gone (task : DeleteS3BucketsTask) (hnone : w.store name = none) :
    (DeleteS3BucketsTask.deleteBucket amazonS3 task name).wp (fun _ _ => False)
      (fun _ w' => w'.store = w.store ∧ ∀ r ∈ w.struck, r ∈ w'.struck) w := by
  unfold DeleteS3BucketsTask.deleteBucket DeleteS3BucketsTask.deleteObjects objectLoop
  simp only [Prog.wp_bind, wp_log]
  have hx : (S3.service amazonS3.pageSize).exec (.listObjects name) w.store =
      (.error S3.noSuchBucket, w.store) := by
    simp [S3.service, S3.onBucket, hnone]
  refine Prog.wp_mono (wp_call_refused (w := Console.emit _ w) hx) (fun _ _ h => h.elim) ?_
  rintro t w' ⟨hstore, hstruck⟩
  refine ⟨hstore, ?_⟩
  intro r hr
  rcases hstruck with ⟨⟨f, -, h⟩, -⟩ | ⟨-, h⟩
  · rw [h]
    exact List.mem_append_left _ hr
  · rw [h]
    exact hr

/-- The listed buckets exist, and none of them is suspended. -/
def AllPresent (buckets : List String) (s : S3Store) : Prop :=
  ∀ c ∈ buckets, ∃ b, s c = some b ∧ b.status ≠ .suspended

/-- How an attempt finds the world with `rest` still to be deleted. -/
structure DeletedUpTo (buckets rest : List String) (w w' : S3World) : Prop where
  split : ∃ gone, buckets = gone ++ rest
  gone : ∀ c ∈ buckets, c ∉ rest → w'.store c = none
  present : AllPresent rest w'.store
  other : ∀ c, c ∉ buckets → w'.store c = w.store c
  struck : w'.struck = w.struck

/-- How an attempt that throws leaves the world: a failure struck, and all the buckets are still
there if the first of the list is. -/
structure AttemptStruck (amazonS3 : AmazonS3) (buckets : List String) (w : S3World)
    (t : Throwable) (w' : S3World) : Prop where
  struckAt : ∃ c, w.StruckAt w' c t
  injects : amazonS3.sched.Injects t
  other : ∀ c, c ∉ buckets → w'.store c = w.store c
  first : ∀ first ∈ buckets.head?, (w'.store first).isSome → AllPresent buckets w'.store

namespace DeletedUpTo

variable {rest : List String} {w₁ w₂ : S3World}

/-- The next bucket is one of the list, and is not met again. -/
theorem mem_next (h : DeletedUpTo buckets (name :: rest) w w₁) (hnodup : buckets.Nodup) :
    name ∈ buckets ∧ name ∉ rest := by
  obtain ⟨gone, hsplit⟩ := h.split
  rw [hsplit, List.nodup_append] at hnodup
  rw [hsplit]
  exact ⟨List.mem_append_right _ List.mem_cons_self, (List.nodup_cons.mp hnodup.2.1).1⟩

/-- The next bucket is deleted. -/
theorem next (h : DeletedUpTo buckets (name :: rest) w w₁) (hnodup : buckets.Nodup)
    (hdeleted : Deleted name w₁ w₂) : DeletedUpTo buckets rest w w₂ := by
  obtain ⟨hname, hnotrest⟩ := h.mem_next hnodup
  obtain ⟨gone, hsplit⟩ := h.split
  refine ⟨⟨gone ++ [name], by simpa using hsplit⟩, ?_, ?_, ?_, hdeleted.struck.trans h.struck⟩
  · intro c hc hcrest
    by_cases heq : c = name
    · rw [heq]
      exact hdeleted.gone
    · rw [hdeleted.other c heq]
      exact h.gone c hc (by simp [heq, hcrest])
  · intro c hc
    have hne : c ≠ name := fun heq => hnotrest (heq ▸ hc)
    rw [hdeleted.other c hne]
    exact h.present c (List.mem_cons_of_mem name hc)
  · intro c hc
    have hne : c ≠ name := fun heq => hc (heq ▸ hname)
    exact (hdeleted.other c hne).trans (h.other c hc)

/-- The first bucket of the list is the next one, or it is deleted already. -/
theorem first_next_or_gone (h : DeletedUpTo buckets (name :: rest) w w₁) (hnodup : buckets.Nodup)
    {first : String} (hfirst : first ∈ buckets.head?) :
    buckets = first :: rest ∧ first = name ∨ first ∉ name :: rest := by
  obtain ⟨gone, hsplit⟩ := h.split
  cases gone with
  | nil =>
    rw [hsplit, List.nil_append, List.head?_cons, Option.mem_some_iff] at hfirst
    exact .inl ⟨hfirst ▸ hsplit, hfirst.symm⟩
  | cons g gone =>
    rw [hsplit, List.cons_append, List.head?_cons, Option.mem_some_iff] at hfirst
    rw [hsplit, List.cons_append, List.nodup_cons, hfirst] at hnodup
    exact .inr fun hmem => hnodup.1 (List.mem_append_right _ hmem)

/-- A failure strikes while the next bucket is deleted. -/
theorem attemptStruck (h : DeletedUpTo buckets (name :: rest) w w₁) (hnodup : buckets.Nodup)
    {t : Throwable} (hstruck : DeleteStruck amazonS3 name w₁ t w₂) :
    AttemptStruck amazonS3 buckets w t w₂ := by
  obtain ⟨hname, -⟩ := h.mem_next hnodup
  obtain ⟨call, hat⟩ := hstruck.struckAt
  refine ⟨⟨call, hat.of_struck_eq h.struck⟩, hstruck.injects, ?_, ?_⟩
  · intro c hc
    have hne : c ≠ name := fun heq => hc (heq ▸ hname)
    exact (hstruck.other c hne).trans (h.other c hc)
  · intro first hfirst hsome
    rcases h.first_next_or_gone hnodup hfirst with ⟨hbuckets, rfl⟩ | hgone
    · -- the failure struck at the first bucket: the others have not been touched
      obtain ⟨b, hb, hsusp⟩ := h.present first List.mem_cons_self
      obtain ⟨b', hb'⟩ := Option.isSome_iff_exists.mp hsome
      intro c hc
      by_cases heq : c = first
      · subst heq
        exact ⟨b', hb', hstruck.bucket b b' hb hb' ▸ hsusp⟩
      · rw [hstruck.other c heq]
        exact h.present c (hbuckets ▸ hc)
    · -- the first bucket had been deleted before
      have hne : first ≠ name := fun heq => hgone (heq ▸ List.mem_cons_self)
      rw [hstruck.other first hne, h.gone first (List.mem_of_mem_head? hfirst) hgone] at hsome
      cases hsome

end DeletedUpTo

/-- **One attempt** on a list of buckets that are all present.  It deletes them all, or a
failure strikes; if the first bucket of the list is still there then, all of them are. -/
theorem wp_delete_attempt (task : DeleteS3BucketsTask) (hforce : task.force = some true)
    (hnodup : buckets.Nodup) (hpresent : AllPresent buckets w.store) :
    (Prog.forEach (DeleteS3BucketsTask.deleteBucket amazonS3 task) buckets).wp
      (fun _ w' => DeletedUpTo buckets [] w w') (AttemptStruck amazonS3 buckets w) w := by
  refine Prog.wp_forEach (fun rest => DeletedUpTo buckets rest w) ?_ buckets w ?_
  · intro name rest w₁ h
    obtain ⟨b, hb, hsusp⟩ := h.present name List.mem_cons_self
    refine Prog.wp_mono (wp_deleteBucket task hforce hb hsusp) ?_ ?_
    · intro _ w₂ hdeleted
      exact h.next hnodup hdeleted
    · intro t w₂ hstruck
      exact h.attemptStruck hnodup hstruck
  · exact ⟨⟨[], rfl⟩, fun c hc hnot => absurd hc hnot, hpresent, fun _ _ => rfl, rfl⟩

/-- The listed buckets are gone, and every other bucket is what it was. -/
def DeletedExactly (buckets : List String) (s s' : S3Store) : Prop :=
  (∀ c ∈ buckets, s' c = none) ∧ ∀ c, c ∉ buckets → s' c = s c

/-- Every failure of the run struck while the first bucket of the list existed. -/
def StruckBeforeFirstGone (buckets : List String) (w : S3World) : Prop :=
  ∀ first ∈ buckets.head?, ∀ r ∈ w.struck, (r.after first).isSome

/-- Whether each failure struck before the deletion can be computed from the trace. -/
instance (buckets : List String) (w : S3World) : Decidable (StruckBeforeFirstGone buckets w) :=
  inferInstanceAs (Decidable (∀ first ∈ buckets.head?, ∀ r ∈ w.struck, (r.after first).isSome))

/-- How attempt number `k` finds the world: `k` failures have struck and all the listed
buckets are there, or the first one is gone because a failure struck after its deletion. -/
def DeletingAll (buckets : List String) (s : S3Store) (k : ℕ) (w : S3World) : Prop :=
  (AllPresent buckets w.store ∧ (∀ c, c ∉ buckets → w.store c = s c) ∧ w.struck.length = k ∧
    StruckBeforeFirstGone buckets w) ∨
  ∃ first ∈ buckets.head?, w.store first = none ∧ ∃ r ∈ w.struck, r.after first = none

/-- A failure that struck after the deletion of the first bucket. -/
theorem not_struckBeforeFirstGone {first : String} (hfirst : first ∈ buckets.head?)
    {r : CallRecord S3Store S3Call Throwable} (hr : r ∈ w.struck) (hnone : r.after first = none) :
    ¬ StruckBeforeFirstGone buckets w := by
  intro hall
  have hsome : (r.after first).isSome := hall first hfirst r hr
  rw [hnone] at hsome
  cases hsome

/-- How an attempt that a failure ends leaves the world to the next one. -/
theorem DeletingAll.of_attemptStruck {s : S3Store} {k : ℕ} {t : Throwable} {w' : S3World}
    (hother : ∀ c, c ∉ buckets → w.store c = s c) (hlen : w.struck.length = k)
    (hbefore : StruckBeforeFirstGone buckets w) (h : AttemptStruck amazonS3 buckets w t w') :
    DeletingAll buckets s (k + 1) w' := by
  obtain ⟨call, f, -, hstruck⟩ := h.struckAt
  by_cases hsome : ∀ first ∈ buckets.head?, (w'.store first).isSome
  · -- the first bucket is still there, so all of them are
    left
    have hall : AllPresent buckets w'.store := by
      cases buckets with
      | nil =>
        intro c hc
        cases hc
      | cons first rest => exact h.first first rfl (hsome first rfl)
    refine ⟨hall, fun c hc => (h.other c hc).trans (hother c hc), ?_, ?_⟩
    · rw [hstruck, List.length_append, hlen]
      rfl
    · intro first hfirst r hr
      rw [hstruck, List.mem_append, List.mem_singleton] at hr
      cases hr with
      | inl hr => exact hbefore first hfirst r hr
      | inr hr =>
        rw [hr]
        exact hsome first hfirst
  · right
    push Not at hsome
    obtain ⟨first, hfirst, hnone⟩ := hsome
    have hnone' : w'.store first = none := by simpa using hnone
    refine ⟨first, hfirst, hnone', ⟨call, some f, w'.store⟩, ?_, hnone'⟩
    rw [hstruck]
    exact List.mem_append_right _ (List.mem_singleton_self _)

/-- **The run** with `force`.  It returns with the listed buckets deleted and no failure
after the deletion of the first one, or throws after such a failure or after ten. -/
theorem wp_delete_run {s : S3Store} (hnodup : buckets.Nodup) (hpresent : AllPresent buckets s)
    (hthrows : amazonS3.sched.Throws fun t => Retry.isExpected [.gradleException] t = false) :
    (DeleteS3BucketsTask.run amazonS3 ⟨some buckets, some true⟩).wp
      (fun _ w' => DeletedExactly buckets s w'.store ∧ StruckBeforeFirstGone buckets w')
      (fun _ w' => 10 ≤ w'.struck.length ∨ ¬ StruckBeforeFirstGone buckets w')
      (World.start s) := by
  refine wp_execute (DeletingAll buckets s) _ (fun _ _ _ h => h) ?_ ?_ _ ?_
  · intro k w hk hw
    cases hw with
    | inl hw =>
      obtain ⟨hall, hother, hlen, hbefore⟩ := hw
      refine Prog.wp_mono (wp_delete_attempt _ rfl hnodup hall) ?_ ?_
      · intro _ w' h
        refine ⟨⟨fun c hc => h.gone c hc List.not_mem_nil,
          fun c hc => (h.other c hc).trans (hother c hc)⟩, ?_⟩
        unfold StruckBeforeFirstGone
        rwa [h.struck]
      · intro t w' h
        have hexp : Retry.isExpected [.gradleException] t = false :=
          hthrows.of_injects h.injects
        unfold AfterError
        rw [hexp, if_neg (by decide)]
        show DeletingAll buckets s (k + 1) w'
        exact .of_attemptStruck hother hlen hbefore h
    | inr hw =>
      -- the first bucket is gone, and listing it is refused
      obtain ⟨first, hfirst, hnone, r, hr, hafter⟩ := hw
      obtain ⟨rest, rfl⟩ := List.head?_eq_some_iff.mp hfirst
      dsimp only
      rw [Prog.forEach, Prog.wp_bind]
      refine Prog.wp_mono (wp_deleteBucket_gone _ hnone) (fun _ _ h => h.elim) ?_
      rintro t w' ⟨hstore, hstruck⟩
      have hnone' : w'.store first = none := by rw [hstore, hnone]
      have hr' := hstruck r hr
      unfold AfterError
      split
      · exact .inr (not_struckBeforeFirstGone hfirst hr' hafter)
      · exact .inr ⟨first, hfirst, hnone', r, hr', hafter⟩
  · rintro w (⟨-, -, hlen, -⟩ | ⟨first, hfirst, -, r, hr, hafter⟩)
    · exact .inl hlen.ge
    · exact .inr (not_struckBeforeFirstGone hfirst hr hafter)
  · refine .inl ⟨hpresent, fun _ _ => rfl, rfl, ?_⟩
    intro first _ r hr
    cases hr

/-- **When a forced deletion survives its failures**: exactly when each of them struck
while the first listed bucket existed.
SRC: aws/s3/DeleteS3BucketsTask.java:52-115, core/Retry.java:72-93 -/
theorem forced_deletion_succeeds_iff (amazonS3 : AmazonS3) (buckets : List String) (s : S3Store)
    (hnodup : buckets.Nodup) (hpresent : AllPresent buckets s)
    (hthrows : amazonS3.sched.Throws fun t => Retry.isExpected [.gradleException] t = false)
    (out : Exit Throwable Unit × S3World)
    (hrun : DeleteS3BucketsTask.run amazonS3 ⟨some buckets, some true⟩ (World.start s) = out)
    (hfew : out.2.struck.length < 10) :
    (out.1 = .returned () ∧ DeletedExactly buckets s out.2.store) ↔
      StruckBeforeFirstGone buckets out.2 := by
  have hwp := wp_delete_run hnodup hpresent hthrows
  obtain ⟨exit, w'⟩ := out
  cases exit with
  | returned u =>
    obtain ⟨hdeleted, hbefore⟩ := Prog.wp_returned hwp hrun
    exact ⟨fun _ => hbefore, fun _ => ⟨rfl, hdeleted⟩⟩
  | thrown t =>
    have hlate : ¬ StruckBeforeFirstGone buckets w' := by
      rcases Prog.wp_thrown hwp hrun with h | h
      · exact absurd h (by simpa using hfew)
      · exact h
    constructor
    · rintro ⟨h, -⟩
      cases h
    · intro h
      exact absurd h hlate
  | diverged => exact absurd hrun (Prog.wp_not_diverged hwp)

/-- The schedule whose only failure, at call number `n`, has no effect. -/
def busyAt (n : ℕ) : Schedule Throwable := .only n ⟨S3.busy, false⟩

/-- The failure is not one that the task expects. -/
theorem busyAt_throws (n : ℕ) :
    (busyAt n).Throws fun t => Retry.isExpected [.gradleException] t = false :=
  Schedule.throws_only (by decide)

/-- A versioned bucket and an empty one. -/
def twoBuckets : S3Store :=
  Function.update (sampleStore (sampleBucket .enabled (by decide))) "orders" (some .empty)

/-- Both buckets exist, and neither is suspended. -/
theorem twoBuckets_present : AllPresent ["orders", "catalog"] twoBuckets := by
  intro c hc
  simp only [List.mem_cons, List.not_mem_nil, or_false] at hc
  rcases hc with rfl | rfl
  · exact ⟨.empty, rfl, by decide⟩
  · exact ⟨sampleBucket .enabled (by decide), rfl, by decide⟩

/-- The first call fails, and the deletion of both buckets survives it. -/
theorem forced_deletion_survives_first_call :
    DeletedExactly ["orders", "catalog"] twoBuckets
      (DeleteS3BucketsTask.run (sampleClient (busyAt 0)) ⟨some ["orders", "catalog"], some true⟩
        (World.start twoBuckets)).2.store :=
  ((forced_deletion_succeeds_iff _ _ _ (by decide) twoBuckets_present (busyAt_throws 0) _ rfl
    (by decide)).mpr (by decide)).2

/-- A single failure after the first of two buckets is deleted fails the run, and the
second bucket stays. -/
theorem forced_deletion_fails_on_second_bucket :
    ¬ ∀ (amazonS3 : AmazonS3) (buckets : List String) (s : S3Store),
      buckets.Nodup → AllPresent buckets s → amazonS3.sched.NoEffect →
      (amazonS3.sched.Throws fun t => Retry.isExpected [.gradleException] t = false) →
      (DeleteS3BucketsTask.run amazonS3 ⟨some buckets, some true⟩
        (World.start s)).2.struck.length < 10 →
      (DeleteS3BucketsTask.run amazonS3 ⟨some buckets, some true⟩ (World.start s)).1 =
          .returned () ∧
        DeletedExactly buckets s (DeleteS3BucketsTask.run amazonS3 ⟨some buckets, some true⟩
          (World.start s)).2.store := by
  intro h
  have hno : (busyAt 3).NoEffect := Schedule.noEffect_only rfl
  obtain ⟨hreturned, -⟩ := h (sampleClient (busyAt 3)) ["orders", "catalog"] twoBuckets
    (by decide) twoBuckets_present hno (busyAt_throws 3) (by decide)
  exact absurd hreturned (by decide)

end Force

/-! ## Without `force` -/

section Unforced

variable {buckets : List String} {s : S3Store} {name : String} {w : S3World}

/-- Every bucket is what it was, or was a listed bucket that held nothing and is gone. -/
def NoDataLost (buckets : List String) (s s' : S3Store) : Prop :=
  ∀ c, s' c = s c ∨ (s' c = none ∧ c ∈ buckets ∧ ∃ b, s c = some b ∧ b.versions = [])

/-- A call that needs its bucket and only reads it leaves the store. -/
theorem onBucket_store_eq {ρ : Type} (s : S3Store) (name : String)
    (f : Bucket → Except Throwable ρ × Option Bucket) (hf : ∀ b, (f b).2 = some b) :
    (S3.onBucket s name f).2 = s := by
  unfold S3.onBucket
  cases hb : s name with
  | none => rfl
  | some b =>
    have hupdate : Function.update s name (some b) = s := by
      rw [← hb]
      exact Function.update_eq_self name s
    simpa [hf] using hupdate

/-- A call that needs its bucket answers what `f` makes of it. -/
theorem onBucket_answer {ρ : Type} {s s' : S3Store}
    {f : Bucket → Except Throwable ρ × Option Bucket} {r : ρ}
    (h : S3.onBucket s name f = (.ok r, s')) : ∃ b, (f b).1 = .ok r := by
  unfold S3.onBucket at h
  cases hb : s name with
  | none =>
    rw [hb] at h
    cases h
  | some b =>
    rw [hb] at h
    exact ⟨b, congrArg Prod.fst h⟩

/-- Printing, and calls that only read, keep `I`. -/
structure KeptByReading (I : S3World → Prop) : Prop where
  record : ∀ w c fault, I w → I (w.record c fault w.store)
  emit : ∀ w o, I w → I (Console.emit o w)

/-- What has always held is kept. -/
theorem keptByReading_always (P : S3Store → Prop) :
    KeptByReading fun w => w.Always P :=
  ⟨fun _ c fault h => h.record c fault h.1, fun _ _ h => h⟩

/-- A call that only reads. -/
theorem wp_read {I : S3World → Prop} (hI : KeptByReading I) {c : S3Call}
    (hread : ((S3.service amazonS3.pageSize).exec c w.store).2 = w.store) (h : I w) :
    (amazonS3.invoke c).wp
      (fun r w' => (S3.service amazonS3.pageSize).exec c w.store = (.ok r, w'.store) ∧ I w')
      (fun _ w' => I w') w := by
  apply wp_call_keeps
  · intro fault
    exact hI.record w c fault h
  · intro fault
    rw [hread]
    exact hI.record w c fault h

/-- The service deletes a bucket only if it holds nothing. -/
theorem deleteBucket_store (pageSize : ℕ) (name : String) (s : S3Store) :
    ((S3.service pageSize).exec (.deleteBucket name) s).2 = s ∨
      ((S3.service pageSize).exec (.deleteBucket name) s).2 = Function.update s name none ∧
        ∃ b, s name = some b ∧ b.versions = [] := by
  cases hb : s name with
  | none =>
    left
    simp [S3.service, S3.onBucket, hb]
  | some b =>
    by_cases hempty : b.versions = []
    · right
      exact ⟨by simp [S3.service, S3.onBucket, hb, hempty], b, rfl, hempty⟩
    · left
      have hsame : ((S3.service pageSize).exec (.deleteBucket name) s).2 =
          Function.update s name (s name) := by
        simp [S3.service, S3.onBucket, hb, hempty]
      rw [hsame, Function.update_eq_self]

/-- A bucket whose deletion was answered is gone. -/
theorem deleteBucket_answered {pageSize : ℕ} {s s' : S3Store} {r : Unit}
    (h : (S3.service pageSize).exec (.deleteBucket name) s = (.ok r, s')) : s' name = none := by
  have hs' : ((S3.service pageSize).exec (.deleteBucket name) s).2 = s' := congrArg Prod.snd h
  cases hb : s name with
  | none => simp [S3.service, S3.onBucket, hb] at h
  | some b =>
    by_cases hempty : b.versions = []
    · rw [← hs']
      simp [S3.service, S3.onBucket, hb, hempty]
    · simp [S3.service, S3.onBucket, hb, hempty] at h

/-- Deleting a bucket makes no bucket. -/
theorem deleteBucket_none (pageSize : ℕ) (name : String) {c : String} (h : s c = none) :
    ((S3.service pageSize).exec (.deleteBucket name) s).2 c = none := by
  rcases deleteBucket_store pageSize name s with hsame | ⟨hgone, -⟩
  · rw [hsame]
    exact h
  · rw [hgone]
    by_cases heq : c = name
    · rw [heq, Function.update_self]
    · rw [Function.update_of_ne heq]
      exact h

/-- Deleting a listed bucket loses no data: the service refuses if it holds something. -/
theorem NoDataLost.deleteBucket {s' : S3Store} (pageSize : ℕ) (hname : name ∈ buckets)
    (h : NoDataLost buckets s s') :
    NoDataLost buckets s ((S3.service pageSize).exec (.deleteBucket name) s').2 := by
  intro c
  rcases deleteBucket_store pageSize name s' with hsame | ⟨hgone, b, hb, hempty⟩
  · rw [hsame]
    exact h c
  · rw [hgone]
    by_cases heq : c = name
    · subst heq
      right
      refine ⟨Function.update_self .., hname, b, ?_, hempty⟩
      rcases h c with hsame | ⟨hnone, -⟩
      · rw [← hsame, hb]
      · rw [hnone] at hb
        cases hb
    · rw [Function.update_of_ne heq]
      exact h c

/-- Without `force`, the check before a deletion throws. -/
theorem wp_requireForce_refused {task : DeleteS3BucketsTask} (hforce : task.force ≠ some true)
    {delete : Prog S3World Throwable Unit} {E : Throwable → S3World → Prop}
    (hE : ∀ t, E t w) :
    (do
      DeleteS3BucketsTask.requireForce task name
      delete).wp (fun _ _ => False) E w := by
  unfold DeleteS3BucketsTask.requireForce
  rw [Prog.wp_bind]
  match h : task.force with
  | none => exact hE _
  | some false => exact hE _
  | some true => exact absurd h hforce

/-- **A loop over a listing of the bucket** without `force`: it returns at once, or throws
before a deletion.  `list` is what the service makes of the bucket. -/
theorem wp_bucketLoop_unforced {α π : Type} {I : S3World → Prop} (hI : KeptByReading I)
    {task : DeleteS3BucketsTask} (hforce : task.force ≠ some true) {c : S3Call}
    {list : Bucket → c.Response} {page : c.Response → Page α π}
    {delete : α → Prog S3World Throwable Unit}
    {next : Page α π → Prog S3World Throwable (Page α π)} {rounds : S3World → ℕ}
    (hlist : ∀ s, (S3.service amazonS3.pageSize).exec c s =
      S3.onBucket s name fun b => (.ok (list b), some b))
    (hlast : ∀ b, (page (list b)).items = [] → (page (list b)).next = none)
    (hrounds : ∀ w, 0 < rounds w) (h : I w) :
    (do
      let listing ← amazonS3.invoke c
      drainPages (fun a => do
        DeleteS3BucketsTask.requireForce task name
        delete a) next rounds (page listing)).wp
        (fun _ w' => I w') (fun _ w' => I w') w := by
  have hread : ((S3.service amazonS3.pageSize).exec c w.store).2 = w.store := by
    rw [hlist]
    exact onBucket_store_eq _ _ _ fun _ => rfl
  rw [Prog.wp_bind]
  refine Prog.wp_conseq (wp_read hI hread h) ?_
  rintro listing w' ⟨hx, hw'⟩
  have hempty : (page listing).items = [] → (page listing).next = none := by
    rw [hlist] at hx
    obtain ⟨b, hb⟩ := onBucket_answer hx
    cases hb
    exact hlast b
  exact wp_drainPages_refused (fun a => wp_requireForce_refused hforce fun _ => hw') hempty
    (hrounds w') hw'

/-- The object loop without `force`. -/
theorem wp_deleteObjects_unforced {I : S3World → Prop} (hI : KeptByReading I)
    {task : DeleteS3BucketsTask} (hforce : task.force ≠ some true) (h : I w) :
    (DeleteS3BucketsTask.deleteObjects amazonS3 task name).wp
      (fun _ w' => I w') (fun _ w' => I w') w :=
  wp_bucketLoop_unforced hI hforce (fun _ => rfl)
    (fun _ => Page.next_eq_none_of_items_eq_nil) (fun _ => Nat.succ_pos _) h

/-- The version loop without `force`. -/
theorem wp_deleteVersions_unforced {I : S3World → Prop} (hI : KeptByReading I)
    {task : DeleteS3BucketsTask} (hforce : task.force ≠ some true) (h : I w) :
    (DeleteS3BucketsTask.deleteVersions amazonS3 task name).wp
      (fun _ w' => I w') (fun _ w' => I w') w :=
  wp_bucketLoop_unforced hI hforce (fun _ => rfl)
    (fun _ => Page.next_eq_none_of_items_eq_nil) (fun _ => Nat.succ_pos _) h

/-- **One bucket** without `force`: what the deletion of a bucket keeps, the whole keeps, and
the bucket is gone when it returns. -/
theorem wp_deleteBucket_unforced {I : S3World → Prop} (hI : KeptByReading I)
    (hdelete : ∀ w fault, I w → I (w.record (.deleteBucket name) fault
      ((S3.service amazonS3.pageSize).exec (.deleteBucket name) w.store).2))
    {task : DeleteS3BucketsTask} (hforce : task.force ≠ some true) (h : I w) :
    (DeleteS3BucketsTask.deleteBucket amazonS3 task name).wp
      (fun _ w' => w'.store name = none ∧ I w') (fun _ w' => I w') w := by
  unfold DeleteS3BucketsTask.deleteBucket whenVersioned S3TaskUtil.isBucketVersioned
  simp only [Prog.wp_bind, wp_log]
  apply Prog.wp_conseq (wp_deleteObjects_unforced hI hforce (hI.emit w _ h))
  intro _ w₁ hw₁
  refine Prog.wp_conseq (wp_read hI (onBucket_store_eq _ _ _ fun _ => rfl) hw₁) ?_
  rintro status w₂ ⟨-, hw₂⟩
  rw [Prog.wp_pure]
  -- the bucket is deleted after the version phase, if there is one
  have hdeleted : ∀ w₃ : S3World, I w₃ → (amazonS3.deleteBucket name).wp
      (fun _ w' => w'.store name = none ∧
        I (Console.emit (.line s!"Deleted bucket: {name}") w')) (fun _ w' => I w') w₃ := by
    intro w₃ hw₃
    apply Prog.wp_conseq (wp_call_keeps (fun fault => hI.record w₃ _ fault hw₃)
      (fun fault => hdelete w₃ fault hw₃))
    intro _ w₄ hw₄
    exact ⟨deleteBucket_answered hw₄.1, hI.emit w₄ _ hw₄.2⟩
  by_cases hversioned : equalsIgnoreCase status.getStatus "Enabled"
  · rw [if_pos hversioned]
    exact Prog.wp_conseq (wp_deleteVersions_unforced hI hforce hw₂)
      (fun _ w₃ hw₃ => hdeleted w₃ hw₃)
  · rw [if_neg hversioned]
    exact hdeleted w₂ hw₂

/-- **Without `force` no data is lost**, at any moment of any run and whichever calls
fail.
SRC: aws/s3/DeleteS3BucketsTask.java:52-115, core/Retry.java:72-93 -/
theorem unforced_deletion_loses_nothing (amazonS3 : AmazonS3) (buckets : List String)
    (s : S3Store) :
    (DeleteS3BucketsTask.run amazonS3 ⟨some buckets, some false⟩ (World.start s)).1 ≠ .diverged ∧
      (DeleteS3BucketsTask.run amazonS3 ⟨some buckets, some false⟩
        (World.start s)).2.Always (NoDataLost buckets s) := by
  apply Prog.wp_ended
  refine wp_execute_keeps (fun w : S3World => w.Always (NoDataLost buckets s)) _
    (fun _ _ h => h) ?_ _ (World.always_start fun c => .inl rfl)
  intro w hw
  apply Prog.wp_forEach_keeps (fun w : S3World => w.Always (NoDataLost buckets s))
  · intro name hname w' hw'
    have hunforced : (⟨some buckets, some false⟩ : DeleteS3BucketsTask).force ≠ some true := by
      simp
    refine Prog.wp_conseq (wp_deleteBucket_unforced (keptByReading_always (NoDataLost buckets s))
      ?_ hunforced hw') (fun _ _ hq => hq.2)
    intro w₁ fault hw₁
    exact hw₁.record _ fault (hw₁.1.deleteBucket amazonS3.pageSize hname)
  · exact hw

end Unforced

end GradleLocalstack.Analysis
