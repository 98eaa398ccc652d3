import GradleLocalstack.Program.DynamoDbTasks
import GradleLocalstack.Program.S3Tasks
import GradleLocalstack.Program.SnsTasks

/-!
# The tasks that change a LocalStack environment

The tasks of the plugin that create, publish to, purge or delete something in SQS, SNS, S3 or
DynamoDB, as one type, and what their actions do to the environment.  A session runs actions one
after the other, in one build or in several; each meets its own failures, and the next runs on
whatever the last one left, whether that returned or threw.

The tasks that only list what there is, and the two CloudFormation tasks, whose stacks bring and
take resources of any kind, are no actions of a session.
-/

set_option autoImplicit false

namespace GradleLocalstack.Program

open Foundation GradleLocalstack.Model

/-- What the services of a LocalStack environment hold. -/
structure LocalStack where
  messaging : MessagingStore
  buckets : S3Store
  tables : DynamoDbStore

/-- What the actions of a build share: how the services address and list what they hold, the
project, and the mapper. -/
structure Environment where
  addresses : Addresses
  s3PageSize : ℕ
  s3PageSize_pos : 0 < s3PageSize
  dynamoDbPageSize : ℕ
  dynamoDbPageSize_pos : 0 < dynamoDbPageSize
  project : Project
  mapper : ObjectMapper CreateSqsQueueWithDlqTask.RedrivePolicy

namespace Environment

variable (env : Environment) (sched : Schedule Throwable)

/-- The SQS and SNS clients. -/
def messaging : MessagingClient := ⟨env.addresses, sched⟩

/-- The S3 client. -/
def amazonS3 : AmazonS3 := ⟨env.s3PageSize, env.s3PageSize_pos, sched⟩

/-- The DynamoDB client. -/
def amazonDynamoDB : AmazonDynamoDB := ⟨env.dynamoDbPageSize, env.dynamoDbPageSize_pos, sched⟩

end Environment

/-- A task that creates, publishes to, purges or deletes something, with its configuration. -/
inductive AwsTask where
  | createSqsQueues (task : CreateSqsQueuesTask)
  | createSqsQueueWithDlq (task : CreateSqsQueueWithDlqTask)
  | publishSqs (task : PublishSqsTask)
  | purgeSqsQueues (task : PurgeSqsQueuesTask)
  | createSnsTopicWithSqsEndpoint (task : CreateSnsTopicWithSqsEndpointTask)
  | deleteSnsTopic (task : DeleteSnsTopicTask)
  | createS3Buckets (task : CreateS3BucketsTask)
  | purgeS3Buckets (task : PurgeS3BucketsTask)
  | deleteS3Buckets (task : DeleteS3BucketsTask)
  | createDynamoDbTable (task : CreateDynamoDbTableTask)
  | deleteDynamoDbTable (task : DeleteDynamoDbTableTask)

namespace AwsTask

variable (env : Environment) (sched : Schedule Throwable)

/-- An action on the queues and topics. -/
def onMessaging (action : Prog MessagingWorld Throwable Unit) (s : LocalStack) :
    Exit Throwable Unit × LocalStack :=
  let r := action (World.start s.messaging)
  (r.1, { s with messaging := r.2.store })

/-- An action on the buckets. -/
def onBuckets (action : Prog S3World Throwable Unit) (s : LocalStack) :
    Exit Throwable Unit × LocalStack :=
  let r := action (World.start s.buckets)
  (r.1, { s with buckets := r.2.store })

/-- An action on the tables. -/
def onTables (action : Prog DynamoDbWorld Throwable Unit) (s : LocalStack) :
    Exit Throwable Unit × LocalStack :=
  let r := action (World.start s.tables)
  (r.1, { s with tables := r.2.store })

section Returned

variable {s s' : LocalStack}

/-- What an action on the queues and topics returned on. -/
theorem onMessaging_returned {action : Prog MessagingWorld Throwable Unit}
    (h : onMessaging action s = (.returned (), s')) :
    ∃ w', action (World.start s.messaging) = (.returned (), w') ∧
      s' = { s with messaging := w'.store } := by
  obtain ⟨hreturned, hstore⟩ := Prod.ext_iff.mp h
  exact ⟨_, Prod.ext hreturned rfl, hstore.symm⟩

/-- What an action on the buckets returned on. -/
theorem onBuckets_returned {action : Prog S3World Throwable Unit}
    (h : onBuckets action s = (.returned (), s')) :
    ∃ w', action (World.start s.buckets) = (.returned (), w') ∧
      s' = { s with buckets := w'.store } := by
  obtain ⟨hreturned, hstore⟩ := Prod.ext_iff.mp h
  exact ⟨_, Prod.ext hreturned rfl, hstore.symm⟩

/-- What an action on the tables returned on. -/
theorem onTables_returned {action : Prog DynamoDbWorld Throwable Unit}
    (h : onTables action s = (.returned (), s')) :
    ∃ w', action (World.start s.tables) = (.returned (), w') ∧
      s' = { s with tables := w'.store } := by
  obtain ⟨hreturned, hstore⟩ := Prod.ext_iff.mp h
  exact ⟨_, Prod.ext hreturned rfl, hstore.symm⟩

end Returned

/-- The action of a task: how it ends, and the environment it leaves. -/
def run : AwsTask → LocalStack → Exit Throwable Unit × LocalStack
  | createSqsQueues task => onMessaging (task.run (env.messaging sched))
  | createSqsQueueWithDlq task => fun s =>
    let r := CreateSqsQueueWithDlqTask.run (env.messaging sched) env.project env.mapper
      (World.start s.messaging, task)
    (r.1, { s with messaging := r.2.1.store })
  | publishSqs task => onMessaging (task.run (env.messaging sched))
  | purgeSqsQueues task => onMessaging (task.run (env.messaging sched))
  | createSnsTopicWithSqsEndpoint task => onMessaging (task.run (env.messaging sched))
  | deleteSnsTopic task => onMessaging (task.run (env.messaging sched) env.project)
  | createS3Buckets task => onBuckets (task.run (env.amazonS3 sched))
  | purgeS3Buckets task => onBuckets (task.run (env.amazonS3 sched))
  | deleteS3Buckets task => onBuckets (task.run (env.amazonS3 sched))
  | createDynamoDbTable task => onTables (task.run (env.amazonDynamoDB sched))
  | deleteDynamoDbTable task => onTables (task.run (env.amazonDynamoDB sched))

/-- One action of a session: the task, and the failures that its calls meet. -/
abbrev Action : Type := AwsTask × Schedule Throwable

/-- The environment after a session. -/
def session (actions : List Action) (s : LocalStack) : LocalStack :=
  actions.foldl (fun s action => (run env action.2 action.1 s).2) s

end AwsTask

end GradleLocalstack.Program
