import GradleLocalstack.Foundation.TaskGraph

/-!
# The tasks of a project

A task names the tasks that it depends on and those that it must run after.  The names of
a project's tasks are unique: a second task of a name is refused.
-/

set_option autoImplicit false

namespace GradleLocalstack.Model

open Foundation

/-- `org.gradle.api.Task`.  The dependencies are a set, here in some order; the flag says
that the class of the task carries `@LocalStackSetupTask`. -/
structure GradleTask where
  name : String
  dependsOn : List String := []
  mustRunAfter : List String := []
  localStackSetupTask : Bool := false
  deriving DecidableEq

/-- The errors of the task container. -/
inductive TaskError where
  | duplicateTask (name : String)
  | unknownTask (name : String)
  deriving DecidableEq

/-- The tasks of a project, under different names. -/
structure TaskContainer where
  tasks : List GradleTask := []
  nodup : (tasks.map GradleTask.name).Nodup := by decide
  deriving DecidableEq

namespace TaskContainer

/-- The names of the tasks. -/
def names (container : TaskContainer) : List String := container.tasks.map GradleTask.name

/-- `create` refuses a name that is taken. -/
def create (task : GradleTask) (container : TaskContainer) : Except TaskError TaskContainer :=
  if h : task.name ∈ container.names then .error (.duplicateTask task.name)
  else
    .ok { tasks := container.tasks ++ [task]
          nodup := by
            have hnames : (container.tasks ++ [task]).map GradleTask.name =
                container.names.concat task.name := by
              simp [names]
            exact hnames ▸ container.nodup.concat h }

/-- `getByName(name).getDependsOn().addAll(dependencies)`. -/
def addDependsOn (name : String) (dependencies : List String) (container : TaskContainer) :
    Except TaskError TaskContainer :=
  if name ∈ container.names then
    .ok { tasks := container.tasks.map fun task =>
            if task.name = name then { task with dependsOn := task.dependsOn ++ dependencies }
            else task
          nodup := by
            have hnames : ∀ task : GradleTask, (if task.name = name then
                { task with dependsOn := task.dependsOn ++ dependencies } else task).name =
                  task.name := by
              intro task
              split <;> rfl
            simpa [Function.comp_def, hnames] using container.nodup }
  else .error (.unknownTask name)

end TaskContainer

/-- The graph that Gradle orders a build by. -/
def taskGraph (tasks : List GradleTask) : TaskGraph String where
  tasks := tasks.map GradleTask.name
  dependsOn a b := ∃ task ∈ tasks, task.name = a ∧ b ∈ task.dependsOn
  mustRunAfter a b := ∃ task ∈ tasks, task.name = a ∧ b ∈ task.mustRunAfter

/-- Whether a task depends on another can be read off the container. -/
instance (tasks : List GradleTask) (a b : String) : Decidable ((taskGraph tasks).dependsOn a b) :=
  inferInstanceAs (Decidable (∃ task ∈ tasks, task.name = a ∧ b ∈ task.dependsOn))

/-- Whether a task must run after another can be read off the container. -/
instance (tasks : List GradleTask) (a b : String) :
    Decidable ((taskGraph tasks).mustRunAfter a b) :=
  inferInstanceAs (Decidable (∃ task ∈ tasks, task.name = a ∧ b ∈ task.mustRunAfter))

/-- An order of a build, checked task by task. -/
theorem executionOrder_of_tasks {tasks : List GradleTask} {target : String} {order : List String}
    (hnodup : order.Nodup) (hknown : ∀ a ∈ order, a ∈ tasks.map GradleTask.name)
    (htarget : target ∈ order) (hrequired : ∀ a ∈ order, (taskGraph tasks).Required target a)
    (hclosed : ∀ task ∈ tasks, task.name ∈ order → ∀ b ∈ task.dependsOn, b ∈ order)
    (hrespects : ∀ task ∈ tasks, task.name ∈ order → ∀ b ∈ order,
      b ∈ task.dependsOn ++ task.mustRunAfter → Before order b task.name) :
    (taskGraph tasks).ExecutionOrder target order := by
  have hmem : ∀ a, (taskGraph tasks).Required target a → a ∈ order := by
    intro a ha
    induction ha with
    | refl => exact htarget
    | tail _ hedge ih =>
      obtain ⟨task, htask, rfl, hb⟩ := hedge
      exact hclosed task htask ih _ hb
  refine ⟨hnodup, fun a => ⟨hrequired a, hmem a⟩, hknown, ?_⟩
  intro a b hwaits
  obtain ⟨ha, hb, hedge⟩ := hwaits
  cases hedge with
  | inl hdepends =>
    obtain ⟨task, htask, rfl, hbt⟩ := hdepends
    exact hrespects task htask (hmem _ ha) b (hmem _ hb) (List.mem_append_left _ hbt)
  | inr hafter =>
    obtain ⟨task, htask, rfl, hbt⟩ := hafter
    exact hrespects task htask (hmem _ ha) b (hmem _ hb) (List.mem_append_right _ hbt)

end GradleLocalstack.Model
