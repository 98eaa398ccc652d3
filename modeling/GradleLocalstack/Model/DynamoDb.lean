import Mathlib.Data.String.Basic
import GradleLocalstack.Foundation.Search
import GradleLocalstack.Model.Jvm

/-!
# DynamoDB, and the class of a table initializer

The tables, each as it was asked for, with names that are pairwise distinct.
`listTables` lists the names in order, a page at a time, and goes on strictly after the
name it is given.

The steps in which an initializer class is loaded, inspected, instantiated and run are
calls too: they leave the tables alone, and the schedule says what they throw.  What an
initializer writes into a table is not modelled.
-/

set_option autoImplicit false

namespace GradleLocalstack.Model

open Foundation

/-- `KeySchemaElement`. -/
structure KeySchemaElement where
  attributeName : String
  keyType : String
  deriving DecidableEq

/-- `AttributeDefinition`. -/
structure AttributeDefinition where
  attributeName : String
  attributeType : String
  deriving DecidableEq

/-- `ProvisionedThroughput`. -/
structure ProvisionedThroughput where
  readCapacityUnits : ℤ
  writeCapacityUnits : ℤ
  deriving DecidableEq

/-- `GlobalSecondaryIndex`. -/
structure GlobalSecondaryIndex where
  indexName : String
  keySchema : List KeySchemaElement
  projectionType : String
  provisionedThroughput : Option ProvisionedThroughput
  deriving DecidableEq

/-- `LocalSecondaryIndex`. -/
structure LocalSecondaryIndex where
  indexName : String
  keySchema : List KeySchemaElement
  projectionType : String
  deriving DecidableEq

/-- `SSESpecification`. -/
structure SSESpecification where
  enabled : Bool
  deriving DecidableEq

/-- `StreamSpecification`. -/
structure StreamSpecification where
  streamEnabled : Bool
  streamViewType : Option String
  deriving DecidableEq

/-- `CreateTableRequest`; what is not set is empty. -/
structure CreateTableRequest where
  tableName : String
  keySchema : List KeySchemaElement
  attributeDefinitions : List AttributeDefinition := []
  globalSecondaryIndexes : List GlobalSecondaryIndex := []
  localSecondaryIndexes : List LocalSecondaryIndex := []
  provisionedThroughput : Option ProvisionedThroughput := none
  sseSpecification : Option SSESpecification := none
  streamSpecification : Option StreamSpecification := none
  deriving DecidableEq

/-- The tables, as they were asked for. -/
structure DynamoDbStore where
  tables : List CreateTableRequest
  nodup_names : (tables.map CreateTableRequest.tableName).Nodup

namespace DynamoDbStore

/-- The names of the tables. -/
def names (s : DynamoDbStore) : List String := s.tables.map CreateTableRequest.tableName

/-- The store with one more table. -/
def add (s : DynamoDbStore) (request : CreateTableRequest) (h : request.tableName ∉ s.names) :
    DynamoDbStore :=
  ⟨request :: s.tables, List.nodup_cons.mpr ⟨h, s.nodup_names⟩⟩

/-- The store without the table of the given name. -/
def remove (s : DynamoDbStore) (tableName : String) : DynamoDbStore :=
  ⟨s.tables.filter fun table => table.tableName != tableName,
    (List.filter_sublist.map CreateTableRequest.tableName).nodup s.nodup_names⟩

/-- A table that is removed is not there. -/
theorem not_mem_names_remove (s : DynamoDbStore) (tableName : String) :
    tableName ∉ (s.remove tableName).names := by
  simp [names, remove]

end DynamoDbStore

/-- The calls that creating and deleting a table make. -/
inductive DynamoDbCall where
  | listTables (exclusiveStartTableName : Option String)
  | createTable (request : CreateTableRequest)
  | deleteTable (tableName : String)
  | classForName (className : String)
  | getConstructor
  | getRunMethod
  | newInstance
  | invokeRun
  deriving DecidableEq

/-- What each call is answered with. -/
def DynamoDbCall.Response : DynamoDbCall → Type
  | listTables _ => Page String String
  | _ => Unit

namespace DynamoDb

/-- What creating a table that exists is answered with. -/
def resourceInUse : Throwable :=
  .service ⟨"com.amazonaws.services.dynamodbv2.model.ResourceInUseException", true⟩
    (some "Cannot create preexisting table") 400

/-- What deleting a table that does not exist is answered with. -/
def resourceNotFound : Throwable :=
  .service ⟨"com.amazonaws.services.dynamodbv2.model.ResourceNotFoundException", true⟩
    (some "Cannot do operations on a non-existent table") 400

/-- The service, with its page size, and the reflective calls of the initializer beside it. -/
def service (pageSize : ℕ) :
    Service DynamoDbStore DynamoDbCall Throwable DynamoDbCall.Response where
  exec
    | .listTables start, s => (.ok (Page.of id pageSize start s.names), s)
    | .createTable request, s =>
      if h : request.tableName ∈ s.names then (.error resourceInUse, s)
      else (.ok (), s.add request h)
    | .deleteTable tableName, s =>
      if tableName ∈ s.names then (.ok (), s.remove tableName) else (.error resourceNotFound, s)
    | .classForName _, s | .getConstructor, s | .getRunMethod, s | .newInstance, s
    | .invokeRun, s => (.ok (), s)

end DynamoDb

/-- The world of a task that talks to DynamoDB. -/
abbrev DynamoDbWorld : Type := World DynamoDbStore DynamoDbCall Throwable

/-- A DynamoDB client and the class path: the page size of the service, and what fails. -/
structure AmazonDynamoDB where
  pageSize : ℕ
  pageSize_pos : 0 < pageSize
  sched : Schedule Throwable

namespace AmazonDynamoDB

variable (amazonDynamoDB : AmazonDynamoDB)

/-- One call of the client, under its schedule. -/
def invoke (c : DynamoDbCall) : Prog DynamoDbWorld Throwable c.Response :=
  call (DynamoDb.service amazonDynamoDB.pageSize) amazonDynamoDB.sched c

/-- `listTables`, from the given name on. -/
def listTables (exclusiveStartTableName : Option String) :
    Prog DynamoDbWorld Throwable (Page String String) :=
  amazonDynamoDB.invoke (.listTables exclusiveStartTableName)

/-- `createTable`. -/
def createTable (request : CreateTableRequest) : Prog DynamoDbWorld Throwable Unit :=
  amazonDynamoDB.invoke (.createTable request)

/-- `deleteTable`. -/
def deleteTable (tableName : String) : Prog DynamoDbWorld Throwable Unit :=
  amazonDynamoDB.invoke (.deleteTable tableName)

/-- `Class.forName`. -/
def classForName (className : String) : Prog DynamoDbWorld Throwable Unit :=
  amazonDynamoDB.invoke (.classForName className)

/-- `getConstructor(AmazonDynamoDB.class)`. -/
def getConstructor : Prog DynamoDbWorld Throwable Unit := amazonDynamoDB.invoke .getConstructor

/-- `getMethod("run")`. -/
def getRunMethod : Prog DynamoDbWorld Throwable Unit := amazonDynamoDB.invoke .getRunMethod

/-- `newInstance(amazonDynamoDB)`. -/
def newInstance : Prog DynamoDbWorld Throwable Unit := amazonDynamoDB.invoke .newInstance

/-- `invoke(instance)` on the method `run`. -/
def invokeRun : Prog DynamoDbWorld Throwable Unit := amazonDynamoDB.invoke .invokeRun

end AmazonDynamoDB

end GradleLocalstack.Model
