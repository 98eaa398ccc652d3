import Mathlib.Data.Finset.Basic
import GradleLocalstack.Foundation.Feed
import GradleLocalstack.Model.Messaging

/-!
# What the services list

The listings of SNS, CloudFormation and DynamoDB as feeds: whatever is listed, in whatever
pages.  Listing the subscriptions of a topic that does not exist is answered with a 404.
The stacks listed depend on the status filter of the request.

SQS lists the URLs of queues, all at once: for each prefix some queues that exist, in some
order.  Asked for attributes of a queue, it answers with those the queue has; the number of
its messages is one of them.
-/

set_option autoImplicit false

namespace GradleLocalstack.Model

open Foundation

/-- A client of a service that lists: which of its calls fail. -/
structure ListingClient where
  sched : Schedule Throwable

/-- The error of all three services for a token they did not give. -/
def invalidToken : Throwable :=
  .service ⟨"com.amazonaws.AmazonServiceException", true⟩ (some "Invalid token") 400

namespace Sns

/-- A topic, as `listTopics` shows it. -/
structure Topic where
  topicArn : String
  deriving DecidableEq

/-- A subscription, as `listSubscriptionsByTopic` shows it. -/
structure Subscription where
  subscriptionArn : String
  protocol : String
  endpoint : String
  deriving DecidableEq

/-- The topics, and the subscriptions of each topic that exists, by its ARN. -/
structure Catalog where
  topics : Feed Topic String
  subscriptions : String → Option (Feed Subscription String)

/-- What SNS is asked to list. -/
inductive Query where
  | listTopics
  | listSubscriptionsByTopic (topicArn : String)
  deriving DecidableEq

/-- What the query lists. -/
def Query.Item : Query → Type
  | listTopics => Topic
  | listSubscriptionsByTopic _ => Subscription

/-- The feed that a query walks through; a topic must exist. -/
def find : (q : Query) → Catalog → Except Throwable (Feed q.Item String)
  | .listTopics, catalog => .ok catalog.topics
  | .listSubscriptionsByTopic topicArn, catalog =>
    match catalog.subscriptions topicArn with
    | some F => .ok F
    | none => .error Messaging.topicNotFound

/-- The world of a task that lists topics and subscriptions. -/
abbrev World : Type := Foundation.World Catalog (Query × Option String) Throwable

end Sns

namespace CloudFormation

/-- `StackSummary`, with the creation time as it is printed. -/
structure StackSummary where
  stackId : String
  stackName : String
  stackStatus : String
  creationTime : String
  deriving DecidableEq

/-- `ListStacksRequest`; a filter that is not set is `none`. -/
structure ListStacksRequest where
  nextToken : Option String := none
  stackStatusFilters : Option (Finset String) := none

/-- The stacks that are listed for each filter. -/
abbrev Catalog : Type := Option (Finset String) → Feed StackSummary String

/-- The stacks of a status filter. -/
def find (filters : Option (Finset String)) (catalog : Catalog) :
    Except Throwable (Feed StackSummary String) :=
  .ok (catalog filters)

/-- The world of a task that lists stacks. -/
abbrev World : Type :=
  Foundation.World Catalog (Option (Finset String) × Option String) Throwable

end CloudFormation

namespace DynamoDb

/-- The names of the tables. -/
def find (_ : Unit) (tableNames : Feed String String) :
    Except Throwable (Feed String String) :=
  .ok tableNames

/-- The world of a task that lists tables. -/
abbrev ListingWorld : Type :=
  Foundation.World (Feed String String) (Unit × Option String) Throwable

end DynamoDb

namespace Sqs

/-- The queues, and the names of those that are listed for each prefix; the listing may be
`null`.  The URL of a queue ends with a slash and its name. -/
structure Catalog where
  queueUrls : Naming
  queues : String → Option Queue
  listed : Option String → Option (List String)
  url_ends : ∀ name, ∃ base, queueUrls.address name = base ++ "/" ++ name
  queue_of_listed : ∀ p names, listed p = some names → ∀ name ∈ names, (queues name).isSome

/-- What SQS is asked for. -/
inductive Query where
  | listQueues (queueNamePrefix : Option String)
  | getQueueAttributes (queueUrl : String) (attributeNames : List String)
  deriving DecidableEq

/-- The URLs of the queues, or their attributes. -/
def Query.Response : Query → Type
  | listQueues _ => Option (List String)
  | getQueueAttributes _ _ => AttributeMap

/-- The value of one attribute of a queue. -/
def queueAttribute (q : Queue) (attributeName : String) : Option String :=
  if attributeName = "ApproximateNumberOfMessages" then some (toString q.messages.length)
  else q.attributes.get attributeName

/-- The attributes of a queue, of those asked for. -/
def queueAttributes (q : Queue) (attributeNames : List String) : AttributeMap :=
  attributeNames.foldl
    (fun m attributeName => (queueAttribute q attributeName).elim m (m.put attributeName)) .empty

/-- The answer to `getQueueAttributes`, for the queue that the URL addresses. -/
def getQueueAttributes (catalog : Catalog) (queueUrl : String) (attributeNames : List String) :
    Except Throwable AttributeMap :=
  match catalog.queueUrls.resolve queueUrl with
  | none => .error Messaging.invalidAddress
  | some name =>
    match catalog.queues name with
    | none => .error Messaging.queueDoesNotExist
    | some q => .ok (queueAttributes q attributeNames)

/-- The service: both calls only read. -/
def service : Service Catalog Query Throwable Query.Response where
  exec
    | .listQueues queueNamePrefix => fun catalog =>
      (.ok ((catalog.listed queueNamePrefix).map (List.map catalog.queueUrls.address)), catalog)
    | .getQueueAttributes queueUrl attributeNames => fun catalog =>
      (getQueueAttributes catalog queueUrl attributeNames, catalog)

/-- The world of a task that lists queues. -/
abbrev World : Type := Foundation.World Catalog Query Throwable

end Sqs

namespace ListingClient

variable (client : ListingClient)

/-- `AmazonSNS.listTopics`. -/
def listTopics (nextToken : Option String) :
    Prog Sns.World Throwable (Listing Sns.Topic String) :=
  call (Feed.service Sns.find invalidToken) client.sched (.listTopics, nextToken)

/-- `AmazonSNS.listSubscriptionsByTopic`. -/
def listSubscriptionsByTopic (topicArn : String) (nextToken : Option String) :
    Prog Sns.World Throwable (Listing Sns.Subscription String) :=
  call (Feed.service Sns.find invalidToken) client.sched
    (.listSubscriptionsByTopic topicArn, nextToken)

/-- `AmazonCloudFormation.listStacks`. -/
def listStacks (request : CloudFormation.ListStacksRequest) :
    Prog CloudFormation.World Throwable (Listing CloudFormation.StackSummary String) :=
  call (Feed.service CloudFormation.find invalidToken) client.sched
    (request.stackStatusFilters, request.nextToken)

/-- `AmazonDynamoDB.listTables`. -/
def listTables (exclusiveStartTableName : Option String) :
    Prog DynamoDb.ListingWorld Throwable (Listing String String) :=
  call (Feed.service DynamoDb.find invalidToken) client.sched ((), exclusiveStartTableName)

/-- `AmazonSQS.listQueues`. -/
def listQueues (queueNamePrefix : Option String) :
    Prog Sqs.World Throwable (Option (List String)) :=
  call Sqs.service client.sched (.listQueues queueNamePrefix)

/-- `AmazonSQS.getQueueAttributes`. -/
def getQueueAttributes (queueUrl : String) (attributeNames : List String) :
    Prog Sqs.World Throwable AttributeMap :=
  call Sqs.service client.sched (.getQueueAttributes queueUrl attributeNames)

end ListingClient

end GradleLocalstack.Model
