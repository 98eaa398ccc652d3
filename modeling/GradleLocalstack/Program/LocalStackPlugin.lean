import GradleLocalstack.Program.LocalStackModule
import GradleLocalstack.Program.SpringBoot

/-!
# Loading the plugin

`LocalStackPlugin.loadModules` and the modules it loads besides `LocalStackModule`.  Each
module of an AWS service puts its tasks into a `HashMap` and creates them in the order in which
that goes through its entries, which is any order of them (`IterationOrder`).  What the
constructor of a task sets is part of the task that is created.
-/

set_option autoImplicit false

namespace GradleLocalstack.Program

open GradleLocalstack.Model

/-- What ends a load. -/
inductive LoadError where
  | task (error : TaskError)
  | thrown (t : Throwable)
  deriving DecidableEq

/-- The order in which `HashMap.forEach` goes through the entries of each map. -/
structure IterationOrder where
  arrange : List GradleTask → List GradleTask
  perm : ∀ l, (arrange l).Perm l

/-- A task whose constructor calls `setMustRunAfter(START_LOCALSTACK_TASK_NAME)`. -/
def afterStartLocalStack (name : String) : GradleTask where
  name := name
  mustRunAfter := [LocalStackModule.startLocalstackTaskName]

/-- `tasks.forEach((name, clazz) -> project.getTasks().create(name, clazz))`. -/
def createTasks (tasks : List GradleTask) (project : Project) : Except TaskError Project :=
  tasks.foldlM (fun project task => LocalStackModule.createTask task project) project

/-- The tasks of `CloudFormationModule.load`.
SRC: aws/cloudformation/CloudFormationModule.java:31-41,
aws/cloudformation/DeleteCFStackTask.java:34, aws/cloudformation/ListCFStacksTask.java:41 -/
def CloudFormationModule.tasks : List GradleTask :=
  [afterStartLocalStack "deleteCFStack", afterStartLocalStack "listCFStacks"]

/-- The tasks of `DynamoDbModule.load`.
SRC: aws/dynamodb/DynamoDbModule.java:31-41, aws/dynamodb/DeleteDynamoDbTableTask.java:35,
aws/dynamodb/ListDynamoDBTablesTask.java:30 -/
def DynamoDbModule.tasks : List GradleTask :=
  [afterStartLocalStack "deleteDynamoDbTable", afterStartLocalStack "listDynamoDbTables"]

/-- The tasks of `S3Module.load`.
SRC: aws/s3/S3Module.java:32-43, aws/s3/PurgeS3BucketsTask.java:41,
aws/s3/DeleteS3BucketsTask.java:49, aws/s3/ListS3BucketsTask.java:31 -/
def S3Module.tasks : List GradleTask :=
  [afterStartLocalStack "purgeS3Buckets", afterStartLocalStack "deleteS3Buckets",
    afterStartLocalStack "listS3Buckets"]

/-- The tasks of `SqsModule.load`.
SRC: aws/sqs/SqsModule.java:33-44, aws/sqs/PurgeSqsQueuesTask.java:40,
aws/sqs/ListSqsQueuesTask.java:39, aws/sqs/PublishSqsTask.java:51 -/
def SqsModule.tasks : List GradleTask :=
  [afterStartLocalStack "purgeSqsQueues", afterStartLocalStack "listSqsQueues",
    afterStartLocalStack "publishSqs"]

/-- The tasks of `SnsModule.load`.
SRC: aws/sns/SnsModule.java:29-40, aws/sns/ListSnsTopicsTask.java:33,
aws/sns/ListSnsTopicSubscriptionsTask.java:38, aws/sns/DeleteSnsTopicTask.java:34 -/
def SnsModule.tasks : List GradleTask :=
  [afterStartLocalStack "listSnsTopics", afterStartLocalStack "listSnsTopicSubscriptions",
    afterStartLocalStack "deleteSnsTopic"]

namespace AwsModule

variable (order : IterationOrder)

/-- The tasks of the five modules, in the order in which they are created. -/
def tasks : List GradleTask :=
  order.arrange CloudFormationModule.tasks ++ order.arrange DynamoDbModule.tasks ++
    order.arrange S3Module.tasks ++ order.arrange SqsModule.tasks ++ order.arrange SnsModule.tasks

/-- `AwsModule.load`.
SRC: aws/AwsModule.java:27-35 -/
def load (project : Project) : Except TaskError Project := do
  let project ← createTasks (order.arrange CloudFormationModule.tasks) project
  let project ← createTasks (order.arrange DynamoDbModule.tasks) project
  let project ← createTasks (order.arrange S3Module.tasks) project
  let project ← createTasks (order.arrange SqsModule.tasks) project
  createTasks (order.arrange SnsModule.tasks) project

end AwsModule

/-- A `BootRun` task, as far as the order of a build depends on it. -/
def BootRun.toTask (bootRun : BootRun) : GradleTask where
  name := bootRun.name
  dependsOn := bootRun.dependsOn
  mustRunAfter := bootRun.mustRunAfter

/-- What a load reads of a project that has the Spring Boot plugin.  Each part may throw: the
tasks are cast, and the class path is asked of the Java plugin, if that is applied. -/
structure SpringBootPlugin where
  /-- The cast of the task `bootRun`. -/
  bootRun : Except Throwable BootRun
  /-- The cast of the task `bootJar`. -/
  bootJar : Except Throwable Unit
  /-- `javaPluginConvention(project).getSourceSets().findByName("main").getRuntimeClasspath()`. -/
  runtimeClasspath : Except Throwable Unit

namespace SpringBootModule

/-- `(T) project.getTasks().getByName(name)`, where the cast gives `task`. -/
def getByName {α : Type} (name : String) (task : Except Throwable α) (project : Project) :
    Except LoadError α :=
  if name ∈ project.tasks.names then task.mapError .thrown
  else .error (.task (.unknownTask name))

/-- `project.getTasks().create(name, BootRun.class, configuration)`: the name is checked
before the configuration runs. -/
def createBootRun (name : String) (configuration : Except Throwable BootRun) (project : Project) :
    Except LoadError Project :=
  if name ∈ project.tasks.names then .error (.task (.duplicateTask name))
  else
    match configuration with
    | .error e => .error (.thrown e)
    | .ok bootRun => (LocalStackModule.createTask bootRun.toTask project).mapError .task

/-- `SpringBootModule.load`, with the tasks found in the project and put into it, and with what
may throw before a task has its arguments.
SRC: boot/SpringBootModule.java:44-126 -/
def loadInto (springBoot : Option SpringBootPlugin) (project : Project) :
    Except LoadError Project :=
  match springBoot with
  | some springBoot =>
    if isAutoConfigureEnabled project then do
      let appliedBootRun ← getByName "bootRun" springBoot.bootRun project
      let _ ← getByName "bootJar" springBoot.bootJar project
      let project ← createBootRun "bootRunLocal" (do
        let _ ← springBoot.runtimeClasspath
        configureBootRunLocal project appliedBootRun) project
      createBootRun "bootRunLocalDebug" (do
        let _ ← springBoot.runtimeClasspath
        configureBootRunLocalDebug project appliedBootRun) project
    else .ok project
  | none => .ok project

end SpringBootModule

/-- `LocalStackPlugin.loadModules`.
SRC: LocalStackPlugin.java:69-73 -/
def LocalStackPlugin.loadModules (cwd : Path) (files : FileSystem) (order : IterationOrder)
    (springBoot : Option SpringBootPlugin) (project : Project) : Except LoadError Project := do
  let project ← (LocalStackModule.load cwd files project).mapError .task
  let project ← (AwsModule.load order project).mapError .task
  SpringBootModule.loadInto springBoot project

end GradleLocalstack.Program
