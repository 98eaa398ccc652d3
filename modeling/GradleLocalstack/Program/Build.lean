import GradleLocalstack.Program.AwsTasks

/-!
# A build against LocalStack

Gradle runs the tasks of a build one after the other and stops at the first that throws.  Of
the tasks, `composeUp` leaves the environment in a state of its own making and those of
`AwsTask` act on what they find.  All others are taken to return and to leave the environment
alone.
-/

set_option autoImplicit false

namespace GradleLocalstack.Program

open Foundation GradleLocalstack.Model

/-- The class of the task carries `@LocalStackSetupTask`.
SRC: aws/sqs/CreateSqsQueuesTask.java:32, aws/sqs/CreateSqsQueueWithDlqTask.java:33,
aws/sns/CreateSnsTopicWithSqsEndpointTask.java:32, aws/s3/CreateS3BucketsTask.java:29,
aws/dynamodb/CreateDynamoDbTableTask.java:38 -/
def AwsTask.isSetup : AwsTask → Bool
  | createSqsQueues _ | createSqsQueueWithDlq _ | createSnsTopicWithSqsEndpoint _
  | createS3Buckets _ | createDynamoDbTable _ => true
  | _ => false

/-- What the tasks of a build do to LocalStack, by their names, and the failures they meet. -/
structure Build where
  env : Environment
  composeUp : LocalStack → LocalStack
  task : String → Option AwsTask
  sched : String → Schedule Throwable

namespace Build

variable (build : Build)

/-- One task of the build. -/
def runTask (name : String) (s : LocalStack) : Exit Throwable Unit × LocalStack :=
  if name = "composeUp" then (.returned (), build.composeUp s)
  else
    match build.task name with
    | some task => task.run build.env (build.sched name) s
    | none => (.returned (), s)

/-- The tasks in the given order, up to the first that does not return. -/
def run : List String → LocalStack → Exit Throwable Unit × LocalStack
  | [], s => (.returned (), s)
  | name :: names, s =>
    match build.runTask name s with
    | (.returned (), s') => run names s'
    | r => r

/-- The build once more: `composeUp` finds its containers running, and the calls meet failures
of their own. -/
def again (sched : String → Schedule Throwable) : Build :=
  { build with composeUp := id, sched := sched }

variable {build}

/-- One task of the build once more. -/
theorem runTask_again (sched : String → Schedule Throwable) (name : String) (s : LocalStack) :
    (build.again sched).runTask name s =
      if name = "composeUp" then (.returned (), s)
      else
        match build.task name with
        | some task => task.run build.env (sched name) s
        | none => (.returned (), s) := rfl

/-- A build that has returned, from its first task on. -/
theorem run_cons_returned {name : String} {names : List String} {s s' : LocalStack}
    (h : build.run (name :: names) s = (.returned (), s')) :
    ∃ s₁, build.runTask name s = (.returned (), s₁) ∧ build.run names s₁ = (.returned (), s') := by
  rw [run] at h
  rcases hrun : build.runTask name s with ⟨_ | e | _, s₁⟩
  · rw [hrun] at h
    exact ⟨s₁, rfl, h⟩
  · rw [hrun] at h
    cases congrArg Prod.fst h
  · rw [hrun] at h
    cases congrArg Prod.fst h

/-- A build goes on where its beginning returned. -/
theorem run_append {names names' : List String} {s s₁ : LocalStack}
    (h : build.run names s = (.returned (), s₁)) :
    build.run (names ++ names') s = build.run names' s₁ := by
  induction names generalizing s with
  | nil =>
    cases h
    rfl
  | cons name names ih =>
    obtain ⟨s₂, htask, hrest⟩ := run_cons_returned h
    rw [List.cons_append, run, htask]
    exact ih hrest

/-- A build that has returned, cut in two. -/
theorem run_append_returned {names names' : List String} {s s' : LocalStack}
    (h : build.run (names ++ names') s = (.returned (), s')) :
    ∃ s₁, build.run names s = (.returned (), s₁) ∧ build.run names' s₁ = (.returned (), s') := by
  induction names generalizing s with
  | nil => exact ⟨s, rfl, h⟩
  | cons name names ih =>
    obtain ⟨s₁, htask, hrest⟩ := run_cons_returned h
    obtain ⟨s₂, hnames, hnames'⟩ := ih hrest
    refine ⟨s₂, ?_, hnames'⟩
    rw [run, htask]
    exact hnames

end Build

end GradleLocalstack.Program
