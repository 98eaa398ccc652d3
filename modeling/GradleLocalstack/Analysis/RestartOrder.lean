import GradleLocalstack.Analysis.SetupOrder

/-!
# When the environment is killed

`killLocalStack` depends on the task that takes the containers down and on the one that
deletes their data, and `restartLocalStack` on `killLocalStack` and `startLocalStack`.
The module puts neither of the two before the other, in either task, so what an order
guarantees is what the build script declares beyond it.
-/

set_option autoImplicit false

namespace GradleLocalstack.Analysis

open Foundation GradleLocalstack.Model GradleLocalstack.Program

variable {cwd : Path} {files : FileSystem} {project loaded : Project}

/-- In each order of a build of the target, the containers are down before their data is
deleted. -/
def DownBeforeClean (loaded : Project) (target : String) : Prop :=
  ∀ order, (taskGraph loaded.tasks.tasks).ExecutionOrder target order →
    Before order "composeDownForced" "cleanLocalStack"

/-- In each order of a restart, what starts the environment runs after it was killed. -/
def StartAfterKill (loaded : Project) : Prop :=
  ∀ order, (taskGraph loaded.tasks.tasks).ExecutionOrder "restartLocalStack" order →
    Before order "killLocalStack" "composeUp" ∧
    ∀ task ∈ loaded.tasks.tasks, task.localStackSetupTask = true →
      Before order "killLocalStack" task.name

/-- Unless Gradle refuses the build, a chain of declared edges leads from the task that
deletes the data to the one that takes the containers down. -/
def CleanFollowsDown (project : Project) (target : String) : Prop :=
  (loadedGraph project).Schedulable target →
    (loadedGraph project).Follows target "cleanLocalStack" "composeDownForced"

/-- Unless Gradle refuses the restart, a chain of declared edges leads to `killLocalStack`
from `composeUp` and from each annotated task. -/
def StartFollowsKill (project : Project) : Prop :=
  (loadedGraph project).Schedulable "restartLocalStack" →
    (loadedGraph project).Follows "restartLocalStack" "composeUp" "killLocalStack" ∧
    ∀ task ∈ project.tasks.tasks, task.localStackSetupTask = true →
      (loadedGraph project).Follows "restartLocalStack" task.name "killLocalStack"

/-! ## What the two builds require -/

/-- The edges of the module's own tasks. -/
theorem module_dependsOn {task : GradleTask} {name : String}
    (htask : task ∈ moduleTasks (LocalStackModule.setupTasks project))
    (hname : name ∈ task.dependsOn) : (loadedGraph project).dependsOn task.name name :=
  ⟨task, List.mem_append_right _ htask, rfl, hname⟩

/-- What `killLocalStack` depends on. -/
theorem killLocalStack_dependsOn {name : String}
    (h : name ∈ ["composeDownForced", "cleanLocalStack"]) :
    (loadedGraph project).dependsOn "killLocalStack" name := by
  have hkill : { name := "killLocalStack"
                 dependsOn := ["composeDownForced", "cleanLocalStack"]
                 mustRunAfter := ["composeDownForced", "cleanLocalStack"] } ∈
      moduleTasks (LocalStackModule.setupTasks project) := by
    simp [moduleTasks]
  exact module_dependsOn hkill h

/-- What `restartLocalStack` depends on. -/
theorem restartLocalStack_dependsOn {name : String}
    (h : name ∈ ["killLocalStack", "startLocalStack"]) :
    (loadedGraph project).dependsOn "restartLocalStack" name := by
  have hrestart : { name := "restartLocalStack"
                    dependsOn := ["killLocalStack", "startLocalStack"] } ∈
      moduleTasks (LocalStackModule.setupTasks project) := by
    simp [moduleTasks]
  exact module_dependsOn hrestart h

/-- A restart runs `killLocalStack`. -/
theorem restart_requires_kill :
    (loadedGraph project).Required "restartLocalStack" "killLocalStack" :=
  TaskGraph.Required.refl.tail (restartLocalStack_dependsOn (by simp))

/-- A restart runs `composeUp` and the annotated tasks. -/
theorem restart_requires {name : String}
    (h : name = "composeUp" ∨ name ∈ LocalStackModule.setupTasks project) :
    (loadedGraph project).Required "restartLocalStack" name := by
  have hstart : (loadedGraph project).Required "restartLocalStack" "startLocalStack" :=
    TaskGraph.Required.refl.tail (restartLocalStack_dependsOn (by simp))
  exact hstart.tail (startLocalStack_dependsOn h)

/-- A restart runs each annotated task. -/
theorem restart_requires_setup {task : GradleTask} (htask : task ∈ project.tasks.tasks)
    (hflag : task.localStackSetupTask = true) :
    (loadedGraph project).Required "restartLocalStack" task.name := by
  apply restart_requires
  right
  exact List.mem_map_of_mem (List.mem_filter.mpr ⟨htask, hflag⟩)

/-- What runs `killLocalStack` takes the containers down before the data is deleted if and
only if the build script says so. -/
theorem down_before_clean_iff {target : String}
    (hload : LocalStackModule.load cwd files project = .ok loaded)
    (hkill : (loadedGraph project).Required target "killLocalStack") :
    DownBeforeClean loaded target ↔ CleanFollowsDown project target := by
  have hdown : (loadedGraph project).Required target "composeDownForced" :=
    hkill.tail (killLocalStack_dependsOn (by simp))
  have hclean : (loadedGraph project).Required target "cleanLocalStack" :=
    hkill.tail (killLocalStack_dependsOn (by simp))
  unfold DownBeforeClean CleanFollowsDown
  rw [load_tasks hload]
  exact TaskGraph.runs_before_iff hclean hdown

/-- A restart starts the environment after it was killed if and only if the build script
says so. -/
theorem start_after_kill_iff
    (hload : LocalStackModule.load cwd files project = .ok loaded) :
    StartAfterKill loaded ↔ StartFollowsKill project := by
  unfold StartAfterKill StartFollowsKill
  rw [load_tasks hload]
  constructor
  · intro halways hschedulable
    constructor
    · apply (TaskGraph.runs_before_iff (restart_requires (.inl rfl)) restart_requires_kill).mp _
        hschedulable
      intro order horder
      exact (halways order horder).1
    · intro task htask hflag
      apply (TaskGraph.runs_before_iff (restart_requires_setup htask hflag)
        restart_requires_kill).mp _ hschedulable
      intro order horder
      exact (halways order horder).2 task ((mem_loadedTasks_of_setup hflag).mpr htask) hflag
  · intro hfollows order horder
    obtain ⟨hup, htasks⟩ := hfollows horder.schedulable
    refine ⟨horder.before_of_follows hup, ?_⟩
    intro task htask hflag
    exact horder.before_of_follows (htasks task ((mem_loadedTasks_of_setup hflag).mp htask) hflag)

/-! ## Edges that order the two builds -/

/-- `cleanLocalStack` depends on `clean`. -/
theorem cleanLocalStack_dependsOn_clean :
    (loadedGraph project).dependsOn "cleanLocalStack" "clean" := by
  have hclean : { name := "cleanLocalStack"
                  dependsOn := ["clean"]
                  mustRunAfter := ["clean"] } ∈
      moduleTasks (LocalStackModule.setupTasks project) := by
    simp [moduleTasks]
  exact module_dependsOn hclean (by simp)

/-- `clean` is what `cleanLocalStack` waits for, so an edge on `clean` orders the deletion. -/
theorem cleanFollowsDown_of_declared {target : String}
    (hkill : (loadedGraph project).Required target "killLocalStack")
    (hdeclared : (loadedGraph project).mustRunAfter "clean" "composeDownForced") :
    CleanFollowsDown project target := by
  intro _
  have hdown : (loadedGraph project).Required target "composeDownForced" :=
    hkill.tail (killLocalStack_dependsOn (by simp))
  have hclean : (loadedGraph project).Required target "cleanLocalStack" :=
    hkill.tail (killLocalStack_dependsOn (by simp))
  have hfirst : (loadedGraph project).Waits target "cleanLocalStack" "clean" :=
    TaskGraph.Waits.of_dependsOn hclean cleanLocalStack_dependsOn_clean
  have hsecond : (loadedGraph project).Waits target "clean" "composeDownForced" :=
    ⟨hclean.tail cleanLocalStack_dependsOn_clean, hdown, .inr hdeclared⟩
  exact (Relation.TransGen.single hfirst).tail hsecond

/-- Declared edges are chains of one edge. -/
theorem startFollowsKill_of_declared
    (hup : (loadedGraph project).mustRunAfter "composeUp" "killLocalStack")
    (htasks : ∀ task ∈ project.tasks.tasks, task.localStackSetupTask = true →
      (loadedGraph project).mustRunAfter task.name "killLocalStack") :
    StartFollowsKill project := by
  intro _
  constructor
  · exact .single ⟨restart_requires (.inl rfl), restart_requires_kill, .inr hup⟩
  · intro task htask hflag
    exact .single ⟨restart_requires_setup htask hflag, restart_requires_kill,
      .inr (htasks task htask hflag)⟩

/-! ## The edges of the plugin alone -/

/-- A task that is not the module's has no edges if the build script declares none. -/
theorem bare_of_no_edges {a : String}
    (hbare : ∀ task ∈ project.tasks.tasks, task.dependsOn = [] ∧ task.mustRunAfter = [])
    (ha : ∀ task ∈ moduleTasks (LocalStackModule.setupTasks project), task.name ≠ a) :
    ∀ task ∈ loadedTasks project, task.name = a →
      task.dependsOn = [] ∧ task.mustRunAfter = [] := by
  intro task htask hname
  cases List.mem_append.mp htask with
  | inl hold => exact hbare task hold
  | inr hnew => exact absurd hname (ha task hnew)

/-- The task that deletes the data waits for nothing but `clean`. -/
theorem eq_clean_of_waits {target name : String}
    (hbare : ∀ task ∈ project.tasks.tasks, task.dependsOn = [] ∧ task.mustRunAfter = [])
    (h : (loadedGraph project).Waits target "cleanLocalStack" name) : name = "clean" := by
  have hmodule : ∀ task ∈ moduleTasks (LocalStackModule.setupTasks project),
      task.name = "cleanLocalStack" → ∀ b ∈ task.dependsOn ++ task.mustRunAfter, b = "clean" := by
    simp [moduleTasks]
  have hedges : ∀ task ∈ loadedTasks project, task.name = "cleanLocalStack" →
      ∀ b ∈ task.dependsOn ++ task.mustRunAfter, b = "clean" := by
    intro task htask hname b hb
    cases List.mem_append.mp htask with
    | inl hold =>
      rw [(hbare task hold).1, (hbare task hold).2] at hb
      cases hb
    | inr hnew => exact hmodule task hnew hname b hb
  obtain ⟨_, _, hdepends | hafter⟩ := h
  · obtain ⟨task, htask, hname, hb⟩ := hdepends
    exact hedges task htask hname name (List.mem_append_left _ hb)
  · obtain ⟨task, htask, hname, hb⟩ := hafter
    exact hedges task htask hname name (List.mem_append_right _ hb)

/-- Where the build script declares nothing, no order is guaranteed. -/
theorem kill_and_restart_unordered_of_no_edges
    (hload : LocalStackModule.load cwd files project = .ok loaded)
    (hkill : (loadedGraph project).Schedulable "killLocalStack")
    (hrestart : (loadedGraph project).Schedulable "restartLocalStack")
    (hbare : ∀ task ∈ project.tasks.tasks, task.dependsOn = [] ∧ task.mustRunAfter = []) :
    ¬ DownBeforeClean loaded "killLocalStack" ∧
      ¬ DownBeforeClean loaded "restartLocalStack" ∧ ¬ StartAfterKill loaded := by
  have hclean : ∀ target, ¬ (loadedGraph project).Follows target "cleanLocalStack"
      "composeDownForced" := by
    intro target hfollows
    obtain ⟨c, hwaits, hchain⟩ := Relation.TransGen.head'_iff.mp hfollows
    rw [eq_clean_of_waits hbare hwaits] at hchain
    cases Relation.reflTransGen_iff_eq_or_transGen.mp hchain with
    | inl heq => exact absurd heq (by decide)
    | inr hmore =>
      exact not_follows_of_bare (bare_of_no_edges hbare (by simp [moduleTasks])) hmore
  have hup : ¬ (loadedGraph project).Follows "restartLocalStack" "composeUp" "killLocalStack" :=
    not_follows_of_bare (bare_of_no_edges hbare (by simp [moduleTasks]))
  refine ⟨?_, ?_, ?_⟩
  · rw [down_before_clean_iff hload TaskGraph.Required.refl]
    exact fun hfollows => hclean _ (hfollows hkill)
  · rw [down_before_clean_iff hload restart_requires_kill]
    exact fun hfollows => hclean _ (hfollows hrestart)
  · rw [start_after_kill_iff hload]
    exact fun hfollows => hup (hfollows hrestart).1

/-! ## The two builds -/

/-- **When killing and restarting are ordered**: if and only if the build script puts the
deletion of the data behind taking the containers down, and in a restart what starts the
environment behind `killLocalStack`.
SRC: compose/LocalStackModule.java:84-115 -/
theorem kill_and_restart_ordered_iff
    (hload : LocalStackModule.load cwd files project = .ok loaded) :
    DownBeforeClean loaded "killLocalStack" ∧ DownBeforeClean loaded "restartLocalStack" ∧
        StartAfterKill loaded ↔
      CleanFollowsDown project "killLocalStack" ∧
        CleanFollowsDown project "restartLocalStack" ∧ StartFollowsKill project := by
  rw [down_before_clean_iff hload TaskGraph.Required.refl,
    down_before_clean_iff hload restart_requires_kill, start_after_kill_iff hload]

/-- A project with the tasks of the docker-compose plugin and a task that creates buckets,
each with the tasks it must run after. -/
def restartProject (clean composeUp createBuckets : List String) : Project where
  rootDir := ⟨true, ["work", "app"]⟩
  projectDir := ⟨true, ["work", "app"]⟩
  tasks :=
    { tasks := [{ name := "clean", mustRunAfter := clean },
        { name := "composeUp", mustRunAfter := composeUp }, { name := "composeDown" },
        { name := "composeDownForced" },
        { name := "createBuckets", mustRunAfter := createBuckets, localStackSetupTask := true }]
      nodup := by simp }

/-- With the three edges that the module leaves out, both builds are ordered. -/
theorem kill_and_restart_ordered_when_declared :
    ∃ loaded, LocalStackModule.load [] FileSystem.blank
        (restartProject ["composeDownForced"] ["killLocalStack"] ["killLocalStack"]) =
      .ok loaded ∧
      DownBeforeClean loaded "killLocalStack" ∧ DownBeforeClean loaded "restartLocalStack" ∧
        StartAfterKill loaded := by
  let project := restartProject ["composeDownForced"] ["killLocalStack"] ["killLocalStack"]
  have hclean : (taskGraph (loadedTasks project)).mustRunAfter "clean" "composeDownForced" := by
    decide
  have hup : (taskGraph (loadedTasks project)).mustRunAfter "composeUp" "killLocalStack" := by
    decide
  have htasks : ∀ task ∈ project.tasks.tasks, task.localStackSetupTask = true →
      (taskGraph (loadedTasks project)).mustRunAfter task.name "killLocalStack" := by
    decide
  exact ⟨_, rfl, (@kill_and_restart_ordered_iff [] FileSystem.blank project _ rfl).mpr
    ⟨cleanFollowsDown_of_declared TaskGraph.Required.refl hclean,
      cleanFollowsDown_of_declared restart_requires_kill hclean,
      startFollowsKill_of_declared hup htasks⟩⟩

/-- What every build that runs `killLocalStack` requires. -/
theorem required_of_kill {target name : String}
    (hkill : (loadedGraph project).Required target "killLocalStack")
    (h : name ∈ ["clean", "cleanLocalStack", "composeDownForced", "killLocalStack"]) :
    (loadedGraph project).Required target name := by
  have hclean : (loadedGraph project).Required target "cleanLocalStack" :=
    hkill.tail (killLocalStack_dependsOn (by simp))
  simp only [List.mem_cons, List.not_mem_nil, or_false] at h
  obtain rfl | rfl | rfl | rfl := h
  · exact hclean.tail cleanLocalStack_dependsOn_clean
  · exact hclean
  · exact hkill.tail (killLocalStack_dependsOn (by simp))
  · exact hkill

/-- Without them the data may be deleted under the running containers, and a restart may
take down what it has just started. -/
theorem kill_and_restart_unordered :
    ∃ loaded, LocalStackModule.load [] FileSystem.blank (restartProject [] [] []) = .ok loaded ∧
      ¬ DownBeforeClean loaded "killLocalStack" ∧
        ¬ DownBeforeClean loaded "restartLocalStack" ∧ ¬ StartAfterKill loaded := by
  let graph := loadedGraph (restartProject [] [] [])
  let killed := ["clean", "cleanLocalStack", "composeDownForced", "killLocalStack"]
  let restarted := ["composeUp", "createBuckets", "startLocalStack"] ++ killed ++
    ["restartLocalStack"]
  have hkilled : graph.ExecutionOrder "killLocalStack" killed := by
    have hrequired : ∀ a ∈ killed, graph.Required "killLocalStack" a :=
      fun a ha => required_of_kill TaskGraph.Required.refl ha
    exact executionOrder_of_tasks (by decide) (by decide) (by decide) hrequired (by decide)
      (by decide)
  have hrestarted : graph.ExecutionOrder "restartLocalStack" restarted := by
    have hrequired : ∀ a ∈ restarted, graph.Required "restartLocalStack" a := by
      intro a ha
      simp only [restarted, List.mem_append, List.mem_cons, List.not_mem_nil, or_false] at ha
      rcases ha with ((rfl | rfl | rfl) | ha) | rfl
      · exact restart_requires (.inl rfl)
      · exact restart_requires (.inr (by decide))
      · exact TaskGraph.Required.refl.tail (restartLocalStack_dependsOn (by simp))
      · exact required_of_kill restart_requires_kill ha
      · exact TaskGraph.Required.refl
    exact executionOrder_of_tasks (by decide) (by decide) (by decide) hrequired (by decide)
      (by decide)
  refine ⟨_, rfl, ?_, ?_, ?_⟩
  · intro hdown
    exact absurd (hdown killed hkilled) (by decide)
  · intro hdown
    exact absurd (hdown restarted hrestarted) (by decide)
  · intro hstart
    exact absurd (hstart restarted hrestarted).1 (by decide)

end GradleLocalstack.Analysis
