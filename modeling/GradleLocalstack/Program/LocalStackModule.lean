import GradleLocalstack.Program.ComposeFile

/-!
# `LocalStackModule`

The six tasks of the module, and the scan that hangs the annotated tasks of the project on
`startLocalStack`.  The scan is the only edge that the plugin gives an annotated task.
-/

set_option autoImplicit false

namespace GradleLocalstack.Program

open GradleLocalstack.Model

namespace LocalStackModule

/-- `INIT_LOCALSTACK_TASK_NAME`. -/
def initLocalstackTaskName : String := "initLocalStack"

/-- `START_LOCALSTACK_TASK_NAME`. -/
def startLocalstackTaskName : String := "startLocalStack"

/-- `STOP_LOCALSTACK_TASK_NAME`. -/
def stopLocalstackTaskName : String := "stopLocalStack"

/-- `KILL_LOCALSTACK_TASK_NAME`. -/
def killLocalstackTaskName : String := "killLocalStack"

/-- `CLEAN_LOCALSTACK_TASK_NAME`. -/
def cleanLocalstackTaskName : String := "cleanLocalStack"

/-- `RESTART_LOCALSTACK_TASK_NAME`. -/
def restartLocalstackTaskName : String := "restartLocalStack"

/-- `project.getTasks().create`. -/
def createTask (task : GradleTask) (project : Project) : Except TaskError Project := do
  let tasks ← project.tasks.create task
  return { project with tasks := tasks }

/-- `LocalStackModule.createInitLocalStackTask`.
SRC: compose/LocalStackModule.java:58-60 -/
def createInitLocalStackTask : Project → Except TaskError Project :=
  createTask { name := initLocalstackTaskName }

/-- `LocalStackModule.createStartLocalStackTask`.
SRC: compose/LocalStackModule.java:62-71 -/
def createStartLocalStackTask : Project → Except TaskError Project :=
  createTask
    { name := startLocalstackTaskName
      dependsOn := ["composeUp"]
      mustRunAfter := ["composeUp"] }

/-- `LocalStackModule.createStopLocalStackTask`.
SRC: compose/LocalStackModule.java:73-82 -/
def createStopLocalStackTask : Project → Except TaskError Project :=
  createTask
    { name := stopLocalstackTaskName
      dependsOn := ["composeDown"]
      mustRunAfter := ["composeDown"] }

/-- `LocalStackModule.createKillLocalStackTask`.
SRC: compose/LocalStackModule.java:84-93 -/
def createKillLocalStackTask : Project → Except TaskError Project :=
  createTask
    { name := killLocalstackTaskName
      dependsOn := ["composeDownForced", cleanLocalstackTaskName]
      mustRunAfter := ["composeDownForced", cleanLocalstackTaskName] }

/-- `LocalStackModule.createCleanLocalStackTask`.
SRC: compose/LocalStackModule.java:95-107 -/
def createCleanLocalStackTask : Project → Except TaskError Project :=
  createTask
    { name := cleanLocalstackTaskName
      dependsOn := ["clean"]
      mustRunAfter := ["clean"] }

/-- `LocalStackModule.createRestartLocalStackTask`.
SRC: compose/LocalStackModule.java:109-115 -/
def createRestartLocalStackTask : Project → Except TaskError Project :=
  createTask
    { name := restartLocalstackTaskName
      dependsOn := [killLocalstackTaskName, startLocalstackTaskName] }

/-- The names that the scan collects. -/
def setupTasks (project : Project) : List String :=
  (project.tasks.tasks.filter GradleTask.localStackSetupTask).map GradleTask.name

/-- `LocalStackModule.configureLocalStackSetupTasks`.
SRC: compose/LocalStackModule.java:123-139 -/
def configureLocalStackSetupTasks (project : Project) : Except TaskError Project := do
  if setupTasks project ≠ [] then
    let tasks ← project.tasks.addDependsOn startLocalstackTaskName (setupTasks project)
    return { project with tasks := tasks }
  else return project

/-- `LocalStackModule.load`.
SRC: compose/LocalStackModule.java:44-56 -/
def load (cwd : Path) (files : FileSystem) (project : Project) : Except TaskError Project := do
  let project ← createInitLocalStackTask project
  let project ← createStartLocalStackTask project
  let project ← createStopLocalStackTask project
  let project ← createKillLocalStackTask project
  let project ← createCleanLocalStackTask project
  let project ← createRestartLocalStackTask project
  let project ← configureLocalStackSetupTasks project
  return configureDockerComposePlugin cwd files project

end LocalStackModule

end GradleLocalstack.Program
