import GradleLocalstack.Model.DynamoDb
import GradleLocalstack.Program.Retry

/-!
# The DynamoDB tasks

`CreateDynamoDbTableTask`, with the `DynamoDBTaskUtil` and the
`DynamoDbInitializerExecutor` it uses, and `DeleteDynamoDbTableTask`.  The table and its
initializer are two effects of one retried block.
-/

set_option autoImplicit false

namespace GradleLocalstack.Program

open Foundation GradleLocalstack.Model

/-- A bound on the rounds of `tableExists`; it is never used up. -/
def tableRounds (w : DynamoDbWorld) : ℕ := w.store.names.length + 1

/-- `DynamoDBTaskUtil.tableExists`.
SRC: aws/dynamodb/DynamoDBTaskUtil.java:32-47 -/
def DynamoDBTaskUtil.tableExists (amazonDynamoDB : AmazonDynamoDB) (tableName : String) :
    Prog DynamoDbWorld Throwable Bool :=
  searchPages amazonDynamoDB.listTables (fun name => name == tableName) tableRounds

namespace DynamoDbInitializerExecutor

/-- The `catch` clauses of `invoke` that name one class. -/
def catching {α : Type} (cls : JavaClass) (handler : Throwable → Throwable)
    (step : Prog DynamoDbWorld Throwable α) : Prog DynamoDbWorld Throwable α :=
  tryCatch step fun e => if e.getClass = cls then throw (handler e) else throw e

/-- What becomes of a `ClassNotFoundException`. -/
def classNotFound (initializerClassName : String) (e : Throwable) : Throwable :=
  .causedBy .runtimeException (some s!"Initializer class not found: {initializerClassName}") e

/-- What becomes of a `NoSuchMethodException` for the constructor; the new exception has no
cause. -/
def noConstructor (_ : Throwable) : Throwable :=
  .plain .runtimeException (some <| "Suitable constructor not found. Initializers require a " ++
    "single argument constructor of 'com.amazonaws.services.dynamodbv2.AmazonDynamoDB'")

/-- What becomes of a `NoSuchMethodException` for `run`. -/
def noRunMethod (e : Throwable) : Throwable :=
  .causedBy .runtimeException (some <| "Suitable run method not found. Initializers require a " ++
    "single void 'run' method with no arguments.") e

/-- What becomes of an error in the constructor. -/
def noInstance (initializerClassName : String) (e : Throwable) : Throwable :=
  .causedBy .runtimeException
    (some s!"Unable to create instance of initializer: {initializerClassName}") e

/-- What becomes of an error in `run`. -/
def initializationFailed (e : Throwable) : Throwable :=
  .causedBy .runtimeException (some "Initialization failed") e

variable (amazonDynamoDB : AmazonDynamoDB)

/-- `DynamoDbInitializerExecutor.invoke`.
SRC: aws/dynamodb/DynamoDbInitializerExecutor.java:35-79 -/
def invoke (tableName initializerClassName : String) : Prog DynamoDbWorld Throwable Unit := do
  log s!"Initializing table: {tableName}"
  catching .classNotFoundException (classNotFound initializerClassName)
    (amazonDynamoDB.classForName initializerClassName)
  catching .noSuchMethodException noConstructor amazonDynamoDB.getConstructor
  catching .noSuchMethodException noRunMethod amazonDynamoDB.getRunMethod
  tryCatch amazonDynamoDB.newInstance fun e =>
    if e.isException then throw (noInstance initializerClassName e) else throw e
  tryCatch amazonDynamoDB.invokeRun fun e =>
    if e.isException then do
      log s!"Initialization failed: {nullable e.getMessage}"
      throw (initializationFailed e)
    else throw e
  log s!"Initialized table: {tableName}"

end DynamoDbInitializerExecutor

/-- `CreateDynamoDbTableTask`. -/
structure CreateDynamoDbTableTask where
  tableName : String
  keySchema : List KeySchemaElement
  attributeDefinitions : List AttributeDefinition
  globalSecondaryIndexes : Option (List GlobalSecondaryIndex) := none
  localSecondaryIndexes : Option (List LocalSecondaryIndex) := none
  provisionedThroughput : Option ProvisionedThroughput := none
  sseSpecification : Option SSESpecification := none
  streamSpecification : Option StreamSpecification := none
  initializer : Option String := none

namespace CreateDynamoDbTableTask

/-- `DEFAULT_SSE_SPECIFICATION`. -/
def defaultSseSpecification : SSESpecification := ⟨true⟩

/-- `DEFAULT_PROVISIONED_THROUGHPUT`. -/
def defaultProvisionedThroughput : ProvisionedThroughput := ⟨100, 100⟩

variable (amazonDynamoDB : AmazonDynamoDB) (task : CreateDynamoDbTableTask)

/-- The request for the table; indexes that are `null` or empty are not set.
SRC: aws/dynamodb/CreateDynamoDbTableTask.java:92-117 -/
def createTableRequest : CreateTableRequest where
  tableName := task.tableName
  keySchema := task.keySchema
  attributeDefinitions := task.attributeDefinitions
  globalSecondaryIndexes := task.globalSecondaryIndexes.getD []
  localSecondaryIndexes := task.localSecondaryIndexes.getD []
  provisionedThroughput := task.provisionedThroughput.getD defaultProvisionedThroughput
  sseSpecification := task.sseSpecification.getD defaultSseSpecification
  streamSpecification := task.streamSpecification

/-- The block that is retried.
SRC: aws/dynamodb/CreateDynamoDbTableTask.java:81-129 -/
def attempt : Prog DynamoDbWorld Throwable Unit := do
  log s!"Creating DynamoDB table: {task.tableName}"
  let tableExists ← DynamoDBTaskUtil.tableExists amazonDynamoDB task.tableName
  if tableExists then
    log s!"Table already exists: {task.tableName}"
  else do
    amazonDynamoDB.createTable (createTableRequest task)
    log s!"Created DynamoDB table: {task.tableName}"
    match task.initializer with
    | some initializer =>
      DynamoDbInitializerExecutor.invoke amazonDynamoDB task.tableName initializer
    | none => pure ()

/-- `CreateDynamoDbTableTask.run`.
SRC: aws/dynamodb/CreateDynamoDbTableTask.java:77-130 -/
def run : Prog DynamoDbWorld Throwable Unit :=
  Retry.executeExpecting (attempt amazonDynamoDB task) [.illegalArgumentException]

end CreateDynamoDbTableTask

/-- `DeleteDynamoDbTableTask`. -/
structure DeleteDynamoDbTableTask where
  tableName : String

namespace DeleteDynamoDbTableTask

variable (amazonDynamoDB : AmazonDynamoDB) (task : DeleteDynamoDbTableTask)

/-- What a deletion throws for a table that is not there. -/
def tableDoesNotExist : Throwable :=
  .plain .illegalArgumentException (some s!"Table does not exist: {task.tableName}")

/-- The block that is retried.
SRC: aws/dynamodb/DeleteDynamoDbTableTask.java:42-57 -/
def attempt : Prog DynamoDbWorld Throwable Unit := do
  log s!"Deleting DynamoDB table: {task.tableName}"
  let tableExists ← DynamoDBTaskUtil.tableExists amazonDynamoDB task.tableName
  if !tableExists then throw (tableDoesNotExist task)
  amazonDynamoDB.deleteTable task.tableName
  log s!"Deleted DynamoDB table: {task.tableName}"

/-- `DeleteDynamoDbTableTask.run`.
SRC: aws/dynamodb/DeleteDynamoDbTableTask.java:38-58 -/
def run : Prog DynamoDbWorld Throwable Unit :=
  Retry.executeExpecting (attempt amazonDynamoDB task) [.illegalArgumentException]

end DeleteDynamoDbTableTask

end GradleLocalstack.Program
