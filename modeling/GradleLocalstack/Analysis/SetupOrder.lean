import GradleLocalstack.Program.LocalStackModule

/-!
# When the setup tasks run

`load` adds six tasks to a project (`load_tasks`), so the graph that Gradle orders a build
of `startLocalStack` by is known before.  It has an edge from `startLocalStack` to
`composeUp` and to each annotated task, and none between an annotated task and
`composeUp`: whether the environment is up when the task runs is left to the edges that
the build script declares.
-/

set_option autoImplicit false

namespace GradleLocalstack.Analysis

open Foundation GradleLocalstack.Model GradleLocalstack.Program

/-- The tasks of the module, when the scan found the tasks of `setup`. -/
def moduleTasks (setup : List String) : List GradleTask :=
  [ { name := "initLocalStack" },
    { name := "startLocalStack"
      dependsOn := "composeUp" :: setup
      mustRunAfter := ["composeUp"] },
    { name := "stopLocalStack"
      dependsOn := ["composeDown"]
      mustRunAfter := ["composeDown"] },
    { name := "killLocalStack"
      dependsOn := ["composeDownForced", "cleanLocalStack"]
      mustRunAfter := ["composeDownForced", "cleanLocalStack"] },
    { name := "cleanLocalStack"
      dependsOn := ["clean"]
      mustRunAfter := ["clean"] },
    { name := "restartLocalStack"
      dependsOn := ["killLocalStack", "startLocalStack"] } ]

/-- The tasks of a project once the module is loaded. -/
def loadedTasks (project : Project) : List GradleTask :=
  project.tasks.tasks ++ moduleTasks (LocalStackModule.setupTasks project)

/-- The graph of a project once the module is loaded. -/
def loadedGraph (project : Project) : TaskGraph String := taskGraph (loadedTasks project)

variable {cwd : Path} {files : FileSystem} {project loaded : Project}

/-- A computation in two steps that succeeds has succeeded in both. -/
theorem exists_of_bind_ok {ε α β : Type} {x : Except ε α} {f : α → Except ε β} {b : β}
    (h : x >>= f = .ok b) : ∃ a, x = .ok a ∧ f a = .ok b := by
  cases x with
  | error e => cases h
  | ok a => exact ⟨a, rfl, h⟩

/-- A task that could be created had a fresh name and comes last. -/
theorem createTask_ok {task : GradleTask}
    (h : LocalStackModule.createTask task project = .ok loaded) :
    task.name ∉ project.tasks.names ∧ loaded.tasks.tasks = project.tasks.tasks ++ [task] := by
  obtain ⟨tasks, hcreate, hloaded⟩ := exists_of_bind_ok h
  cases hloaded
  unfold TaskContainer.create at hcreate
  split at hcreate
  · cases hcreate
  · case isFalse hfresh =>
    cases hcreate
    exact ⟨hfresh, rfl⟩

/-- What the scan does to a task, when it found the tasks of `setup`. -/
def attachSetup (setup : List String) (task : GradleTask) : GradleTask :=
  if task.name = "startLocalStack" then { task with dependsOn := task.dependsOn ++ setup }
  else task

/-- Only `startLocalStack` gets dependencies. -/
theorem attachSetup_of_ne {setup : List String} {task : GradleTask}
    (h : task.name ≠ "startLocalStack") : attachSetup setup task = task := if_neg h

/-- A scan that found nothing changes nothing. -/
theorem attachSetup_nil (task : GradleTask) : attachSetup [] task = task := by
  unfold attachSetup
  rw [List.append_nil, ite_self]

/-- The scan attaches the tasks it found to `startLocalStack`. -/
theorem configureLocalStackSetupTasks_ok
    (h : LocalStackModule.configureLocalStackSetupTasks project = .ok loaded) :
    loaded.tasks.tasks =
      project.tasks.tasks.map (attachSetup (LocalStackModule.setupTasks project)) := by
  unfold LocalStackModule.configureLocalStackSetupTasks at h
  split at h
  · obtain ⟨tasks, hadd, hloaded⟩ := exists_of_bind_ok h
    cases hloaded
    unfold TaskContainer.addDependsOn at hadd
    split at hadd
    · cases hadd
      rfl
    · cases hadd
  · case isFalse hempty =>
    cases h
    have hsetup : LocalStackModule.setupTasks project = [] := not_not.mp hempty
    have hsame : attachSetup [] = id := funext attachSetup_nil
    rw [hsetup, hsame, List.map_id]

/-- Configuring docker-compose adds no task. -/
theorem configureDockerComposePlugin_tasks :
    (LocalStackModule.configureDockerComposePlugin cwd files project).tasks = project.tasks := by
  unfold LocalStackModule.configureDockerComposePlugin
  split
  · rfl
  · split <;> rfl

/-- The six tasks, before the scan. -/
theorem createTasks_ok {p₁ p₂ p₃ p₄ p₅ p₆ : Project}
    (h₁ : LocalStackModule.createInitLocalStackTask project = .ok p₁)
    (h₂ : LocalStackModule.createStartLocalStackTask p₁ = .ok p₂)
    (h₃ : LocalStackModule.createStopLocalStackTask p₂ = .ok p₃)
    (h₄ : LocalStackModule.createKillLocalStackTask p₃ = .ok p₄)
    (h₅ : LocalStackModule.createCleanLocalStackTask p₄ = .ok p₅)
    (h₆ : LocalStackModule.createRestartLocalStackTask p₅ = .ok p₆) :
    "startLocalStack" ∉ project.tasks.names ∧
      p₆.tasks.tasks = project.tasks.tasks ++ moduleTasks [] := by
  obtain ⟨_, htasks₁⟩ := createTask_ok h₁
  obtain ⟨hfresh, htasks₂⟩ := createTask_ok h₂
  obtain ⟨_, htasks₃⟩ := createTask_ok h₃
  obtain ⟨_, htasks₄⟩ := createTask_ok h₄
  obtain ⟨_, htasks₅⟩ := createTask_ok h₅
  obtain ⟨_, htasks₆⟩ := createTask_ok h₆
  constructor
  · intro hmem
    apply hfresh
    rw [TaskContainer.names, htasks₁, List.map_append]
    exact List.mem_append_left _ hmem
  · rw [htasks₆, htasks₅, htasks₄, htasks₃, htasks₂, htasks₁]
    simp only [List.append_assoc, List.cons_append, List.nil_append]
    rfl

/-- **The effect of `load`** on the tasks of a project. -/
theorem load_tasks (hload : LocalStackModule.load cwd files project = .ok loaded) :
    loaded.tasks.tasks = loadedTasks project := by
  obtain ⟨p₁, h₁, hload⟩ := exists_of_bind_ok hload
  obtain ⟨p₂, h₂, hload⟩ := exists_of_bind_ok hload
  obtain ⟨p₃, h₃, hload⟩ := exists_of_bind_ok hload
  obtain ⟨p₄, h₄, hload⟩ := exists_of_bind_ok hload
  obtain ⟨p₅, h₅, hload⟩ := exists_of_bind_ok hload
  obtain ⟨p₆, h₆, hload⟩ := exists_of_bind_ok hload
  obtain ⟨p₇, h₇, hload⟩ := exists_of_bind_ok hload
  cases hload
  obtain ⟨hfresh, htasks⟩ := createTasks_ok h₁ h₂ h₃ h₄ h₅ h₆
  have hsetup : LocalStackModule.setupTasks p₆ = LocalStackModule.setupTasks project := by
    simp [LocalStackModule.setupTasks, htasks, moduleTasks]
  have hold : project.tasks.tasks.map (attachSetup (LocalStackModule.setupTasks project)) =
      project.tasks.tasks := by
    -- none of them is `startLocalStack`
    conv_rhs => rw [← List.map_id project.tasks.tasks]
    apply List.map_congr_left
    intro task htask
    exact attachSetup_of_ne fun hname => hfresh (hname ▸ List.mem_map_of_mem htask)
  have hnew : (moduleTasks []).map (attachSetup (LocalStackModule.setupTasks project)) =
      moduleTasks (LocalStackModule.setupTasks project) := rfl
  rw [configureDockerComposePlugin_tasks, configureLocalStackSetupTasks_ok h₇, hsetup, htasks,
    List.map_append, hold, hnew, loadedTasks]

/-- The module adds no annotated task. -/
theorem mem_loadedTasks_of_setup {task : GradleTask} (hsetup : task.localStackSetupTask = true) :
    task ∈ loadedTasks project ↔ task ∈ project.tasks.tasks := by
  rw [loadedTasks, List.mem_append]
  constructor
  · intro h
    cases h with
    | inl hold => exact hold
    | inr hnew =>
      have hnone : ∀ t ∈ moduleTasks (LocalStackModule.setupTasks project),
          t.localStackSetupTask = false := by
        simp [moduleTasks]
      rw [hnone task hnew] at hsetup
      cases hsetup
  · exact .inl

/-- `startLocalStack` depends on `composeUp` and on the tasks that the scan found. -/
theorem startLocalStack_dependsOn {name : String}
    (h : name = "composeUp" ∨ name ∈ LocalStackModule.setupTasks project) :
    (loadedGraph project).dependsOn "startLocalStack" name := by
  have hstart : { name := "startLocalStack"
                  dependsOn := "composeUp" :: LocalStackModule.setupTasks project
                  mustRunAfter := ["composeUp"] } ∈ loadedTasks project := by
    apply List.mem_append_right
    simp [moduleTasks]
  have hname : name ∈ "composeUp" :: LocalStackModule.setupTasks project := by
    simpa using h
  exact ⟨_, hstart, rfl, hname⟩

/-- Each order of a build of `startLocalStack` runs the annotated tasks after `composeUp` and
before `startLocalStack`. -/
def SetupRunsInEnvironment (loaded : Project) : Prop :=
  ∀ order, (taskGraph loaded.tasks.tasks).ExecutionOrder "startLocalStack" order →
    ∀ task ∈ loaded.tasks.tasks, task.localStackSetupTask = true →
      Before order "composeUp" task.name ∧ Before order task.name "startLocalStack"

/-- Unless Gradle refuses the build, a chain of declared edges leads from each annotated task
to `composeUp`. -/
def SetupFollowsComposeUp (project : Project) : Prop :=
  (loadedGraph project).Schedulable "startLocalStack" →
    ∀ task ∈ project.tasks.tasks, task.localStackSetupTask = true →
      (loadedGraph project).Follows "startLocalStack" task.name "composeUp"

/-- A task of which no edge is declared follows no task. -/
theorem not_follows_of_bare {target a b : String}
    (hbare : ∀ task ∈ loadedTasks project, task.name = a →
      task.dependsOn = [] ∧ task.mustRunAfter = []) :
    ¬ (loadedGraph project).Follows target a b := by
  intro hfollows
  obtain ⟨c, ⟨_, _, hedge⟩, _⟩ := Relation.TransGen.head'_iff.mp hfollows
  cases hedge with
  | inl hdepends =>
    obtain ⟨task, htask, hname, hc⟩ := hdepends
    rw [(hbare task htask hname).1] at hc
    cases hc
  | inr hafter =>
    obtain ⟨task, htask, hname, hc⟩ := hafter
    rw [(hbare task htask hname).2] at hc
    cases hc

/-- An annotated task without edges follows no task. -/
theorem not_follows_of_no_edges {task : GradleTask} (htask : task ∈ project.tasks.tasks)
    (hload : LocalStackModule.load cwd files project = .ok loaded)
    (hbare : task.dependsOn = [] ∧ task.mustRunAfter = []) (name : String) :
    ¬ (loadedGraph project).Follows "startLocalStack" task.name name := by
  have hnodup : ((loadedTasks project).map GradleTask.name).Nodup := by
    rw [← load_tasks hload]
    exact loaded.tasks.nodup
  have hmem : task ∈ loadedTasks project := List.mem_append_left _ htask
  apply not_follows_of_bare
  intro t ht hname
  rw [List.inj_on_of_nodup_map hnodup ht hmem hname]
  exact hbare

/-- With the edges of the plugin alone the condition is met only where there is no
annotated task. -/
theorem setupFollowsComposeUp_iff_of_no_edges
    (hload : LocalStackModule.load cwd files project = .ok loaded)
    (hschedulable : (loadedGraph project).Schedulable "startLocalStack")
    (hbare : ∀ task ∈ project.tasks.tasks, task.localStackSetupTask = true →
      task.dependsOn = [] ∧ task.mustRunAfter = []) :
    SetupFollowsComposeUp project ↔
      ∀ task ∈ project.tasks.tasks, task.localStackSetupTask = false := by
  constructor
  · intro hfollows task htask
    rw [← Bool.not_eq_true]
    intro hsetup
    have hedges := hbare task htask hsetup
    exact not_follows_of_no_edges htask hload hedges _ (hfollows hschedulable task htask hsetup)
  · intro hnone _ task htask hsetup
    rw [hnone task htask] at hsetup
    cases hsetup

/-- A project with the tasks of the docker-compose plugin and a task that creates buckets. -/
def bucketsProject (dependsOn : List String) : Project where
  rootDir := ⟨true, ["work", "app"]⟩
  projectDir := ⟨true, ["work", "app"]⟩
  tasks :=
    { tasks := [{ name := "clean" }, { name := "composeUp" }, { name := "composeDown" },
        { name := "composeDownForced" },
        { name := "createBuckets", dependsOn := dependsOn, localStackSetupTask := true }]
      nodup := by simp }

/-- **When setup runs in a running environment**: if and only if the build script puts each
annotated task after `composeUp`.
SRC: compose/LocalStackModule.java:44-139 -/
theorem setup_runs_in_environment_iff
    (hload : LocalStackModule.load cwd files project = .ok loaded) :
    SetupRunsInEnvironment loaded ↔ SetupFollowsComposeUp project := by
  have htasks := load_tasks hload
  have hcompose : (loadedGraph project).Required "startLocalStack" "composeUp" :=
    TaskGraph.Required.refl.tail (startLocalStack_dependsOn (.inl rfl))
  have hdepends : ∀ task ∈ project.tasks.tasks, task.localStackSetupTask = true →
      (loadedGraph project).dependsOn "startLocalStack" task.name := by
    intro task htask hsetup
    apply startLocalStack_dependsOn
    right
    exact List.mem_map_of_mem (List.mem_filter.mpr ⟨htask, hsetup⟩)
  unfold SetupRunsInEnvironment SetupFollowsComposeUp
  rw [htasks]
  constructor
  · intro halways hschedulable task htask hsetup
    have hrequired := TaskGraph.Required.refl.tail (hdepends task htask hsetup)
    apply (TaskGraph.runs_before_iff hrequired hcompose).mp _ hschedulable
    intro order horder
    exact (halways order horder task ((mem_loadedTasks_of_setup hsetup).mpr htask) hsetup).1
  · intro hfollows order horder task hmem hsetup
    have htask := (mem_loadedTasks_of_setup hsetup).mp hmem
    have hstart := hdepends task htask hsetup
    constructor
    · exact horder.before_of_follows (hfollows horder.schedulable task htask hsetup)
    · exact horder.respects _ _ (TaskGraph.Waits.of_dependsOn TaskGraph.Required.refl hstart)

/-- A task that declares that it needs `composeUp` finds the environment running. -/
theorem setup_runs_after_declared_composeUp :
    ∃ loaded, LocalStackModule.load [] FileSystem.blank (bucketsProject ["composeUp"]) =
      .ok loaded ∧ SetupRunsInEnvironment loaded := by
  refine ⟨_, rfl, (@setup_runs_in_environment_iff [] FileSystem.blank
    (bucketsProject ["composeUp"]) _ rfl).mpr ?_⟩
  intro _ task htask hsetup
  have hname : task.name = "createBuckets" := by
    revert task
    decide
  have hrequired : (loadedGraph (bucketsProject ["composeUp"])).Required "startLocalStack"
      task.name := by
    rw [hname]
    exact TaskGraph.Required.refl.tail (startLocalStack_dependsOn (.inr (by decide)))
  apply Relation.TransGen.single
  apply TaskGraph.Waits.of_dependsOn hrequired
  have hedge : (taskGraph (loadedTasks (bucketsProject ["composeUp"]))).dependsOn
      "createBuckets" "composeUp" := by decide
  rw [hname]
  exact hedge

/-- Without it, the buckets may be created before `composeUp`. -/
theorem setup_may_run_before_composeUp :
    ¬ ∀ (cwd : Path) (files : FileSystem) (project loaded : Project),
      "composeUp" ∈ project.tasks.names →
      (∀ task ∈ project.tasks.tasks, task.dependsOn = [] ∧ task.mustRunAfter = []) →
      LocalStackModule.load cwd files project = .ok loaded →
      SetupRunsInEnvironment loaded := by
  intro h
  have hsetup := h [] FileSystem.blank (bucketsProject []) _ (by decide) (by decide) rfl
  let order := ["createBuckets", "composeUp", "startLocalStack"]
  have hrequired : ∀ a ∈ order,
      (loadedGraph (bucketsProject [])).Required "startLocalStack" a := by
    have hcompose : (loadedGraph (bucketsProject [])).Required "startLocalStack" "composeUp" :=
      TaskGraph.Required.refl.tail (startLocalStack_dependsOn (.inl rfl))
    have hbuckets : (loadedGraph (bucketsProject [])).Required "startLocalStack" "createBuckets" :=
      TaskGraph.Required.refl.tail (startLocalStack_dependsOn (.inr (by decide)))
    intro a ha
    simp only [order, List.mem_cons, List.not_mem_nil, or_false] at ha
    obtain rfl | rfl | rfl := ha
    · exact hbuckets
    · exact hcompose
    · exact TaskGraph.Required.refl
  have horder : (loadedGraph (bucketsProject [])).ExecutionOrder "startLocalStack" order :=
    executionOrder_of_tasks (by decide) (by decide) (by decide) hrequired (by decide) (by decide)
  have hbefore := (hsetup order horder
    { name := "createBuckets", localStackSetupTask := true } (by decide) rfl).1
  exact absurd hbefore (by decide)

end GradleLocalstack.Analysis
