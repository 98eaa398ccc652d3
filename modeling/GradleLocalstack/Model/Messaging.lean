import Mathlib.Data.String.Basic
import Mathlib.Logic.Function.Basic
import GradleLocalstack.Model.AttributeMap
import GradleLocalstack.Model.Jvm

/-!
# SQS and SNS

A queue has attributes and holds messages in the order they were sent; a topic has
subscribed endpoints, each the ARN of a queue.  Queues are addressed by their URL and
topics by their ARN, and an address determines the name (`Naming`).

`createQueue` on a queue that exists answers with its URL if the attributes asked for are
those of the queue, and is refused otherwise; `setQueueAttributes` overwrites the
attributes it is given and keeps the others.  `createTopic` answers with the ARN of the
topic, new or not, and `deleteTopic` succeeds on the ARN of any topic, there or not.
`subscribeQueue` is the library call `Topics.subscribeQueue`: it succeeds on the ARN of a
topic that exists and the URL of a queue that exists.  It also overwrites the attribute
`Policy` of the queue, so that the topic may send to it.  No task reads that attribute, and it is
left out: of the attributes of a queue that is subscribed, the model tells those but `Policy`.
-/

set_option autoImplicit false

namespace GradleLocalstack.Model

open Foundation

/-- A queue: its attributes, and its messages in the order in which they came. -/
structure Queue where
  attributes : AttributeMap
  messages : List String
  deriving DecidableEq

/-- A topic: the queues that are subscribed to it. -/
structure Topic where
  endpoints : List String
  deriving DecidableEq

/-- The queues and the topics, by name. -/
structure MessagingStore where
  queues : String → Option Queue
  topics : String → Option Topic

/-- A way to address the resources of one kind. -/
structure Naming where
  address : String → String
  resolve : String → Option String
  resolve_address : ∀ name, resolve (address name) = some name

namespace Naming

/-- The names behind a fixed prefix. -/
def prefixed (p : String) : Naming where
  address name := p ++ name
  resolve s :=
    if p.toList.isPrefixOf s.toList then
      some (String.ofList (s.toList.drop p.toList.length))
    else none
  resolve_address name := by simp

end Naming

/-- How the service addresses queues, topics and subscriptions. -/
structure Addresses where
  queueUrls : Naming
  queueArns : Naming
  topicArns : Naming
  subscriptionArn : (topic endpoint : String) → String

/-- `CreateQueueRequest`. -/
structure CreateQueueRequest where
  queueName : String
  attributes : AttributeMap := .empty
  deriving DecidableEq

/-- The calls of the SQS and SNS clients that the plugin makes.  The URL given to
`subscribeQueue` may be `null`. -/
inductive MessagingCall where
  | getQueueUrl (queueName : String)
  | createQueue (request : CreateQueueRequest)
  | sendMessage (queueUrl messageBody : String)
  | createTopic (name : String)
  | subscribeQueue (topicArn : String) (queueUrl : Option String)
  | setQueueAttributes (queueUrl : String) (attributes : AttributeMap)
  | deleteTopic (topicArn : String)
  | purgeQueue (queueUrl : String)
  deriving DecidableEq

/-- The URL, or the ARN, that the call answers with. -/
def MessagingCall.Response : MessagingCall → Type
  | sendMessage _ _ | setQueueAttributes _ _ | deleteTopic _ | purgeQueue _ => Unit
  | _ => String

namespace Messaging

/-- `QueueDoesNotExistException`. -/
def queueDoesNotExistClass : JavaClass :=
  ⟨"com.amazonaws.services.sqs.model.QueueDoesNotExistException", true⟩

/-- What a call on a queue that does not exist is answered with. -/
def queueDoesNotExist : Throwable :=
  .service queueDoesNotExistClass (some "The specified queue does not exist") 400

/-- What creating a queue with other attributes than it has is answered with. -/
def queueNameExists : Throwable :=
  .service ⟨"com.amazonaws.services.sqs.model.QueueNameExistsException", true⟩
    (some "A queue already exists with the same name and a different value for an attribute") 400

/-- What a call on a topic that does not exist is answered with. -/
def topicNotFound : Throwable :=
  .service ⟨"com.amazonaws.services.sns.model.NotFoundException", true⟩
    (some "Topic does not exist") 404

/-- What becomes of a call to an address that is none. -/
def invalidAddress : Throwable :=
  .plain ⟨"com.amazonaws.SdkClientException", true⟩ (some "Unable to execute HTTP request")

/-- The queue that an URL, possibly `null`, addresses. -/
def findQueue (addresses : Addresses) (s : MessagingStore) (queueUrl : Option String) :
    Except Throwable (String × Queue) :=
  match queueUrl.bind addresses.queueUrls.resolve with
  | none => .error invalidAddress
  | some name =>
    match s.queues name with
    | none => .error queueDoesNotExist
    | some q => .ok (name, q)

/-- The topic that an ARN addresses. -/
def findTopic (addresses : Addresses) (s : MessagingStore) (topicArn : String) :
    Except Throwable (String × Topic) :=
  match addresses.topicArns.resolve topicArn with
  | none => .error invalidAddress
  | some name =>
    match s.topics name with
    | none => .error topicNotFound
    | some t => .ok (name, t)

/-- The URL of a queue that exists. -/
def getQueueUrl (addresses : Addresses) (name : String) (s : MessagingStore) :
    Except Throwable String × MessagingStore :=
  if (s.queues name).isSome then (.ok (addresses.queueUrls.address name), s)
  else (.error queueDoesNotExist, s)

/-- A new queue, or the one that exists, if it carries the attributes of the request. -/
def createQueue (addresses : Addresses) (request : CreateQueueRequest) (s : MessagingStore) :
    Except Throwable String × MessagingStore :=
  match s.queues request.queueName with
  | some q =>
    if q.attributes.carries request.attributes then
      (.ok (addresses.queueUrls.address request.queueName), s)
    else (.error queueNameExists, s)
  | none =>
    (.ok (addresses.queueUrls.address request.queueName),
      { s with queues := Function.update s.queues request.queueName
                (some ⟨request.attributes, []⟩) })

/-- The message comes last in the queue. -/
def sendMessage (addresses : Addresses) (queueUrl messageBody : String) (s : MessagingStore) :
    Except Throwable Unit × MessagingStore :=
  match findQueue addresses s (some queueUrl) with
  | .error e => (.error e, s)
  | .ok (name, q) =>
    (.ok (), { s with queues := Function.update s.queues name
                        (some { q with messages := q.messages ++ [messageBody] }) })

/-- The attributes given are overwritten, the others stay. -/
def setQueueAttributes (addresses : Addresses) (queueUrl : String) (attributes : AttributeMap)
    (s : MessagingStore) : Except Throwable Unit × MessagingStore :=
  match findQueue addresses s (some queueUrl) with
  | .error e => (.error e, s)
  | .ok (name, q) =>
    (.ok (), { s with queues := Function.update s.queues name
                        (some { q with attributes := q.attributes.putAll attributes }) })

/-- A new topic, or the one that exists. -/
def createTopic (addresses : Addresses) (name : String) (s : MessagingStore) :
    Except Throwable String × MessagingStore :=
  if (s.topics name).isSome then (.ok (addresses.topicArns.address name), s)
  else
    (.ok (addresses.topicArns.address name),
      { s with topics := Function.update s.topics name (some ⟨[]⟩) })

/-- The queue is added to the topic's subscriptions, if it is not among them.  The SDK method
also writes the queue's `Policy` attribute, which is left out. -/
def subscribeQueue (addresses : Addresses) (topicArn : String) (queueUrl : Option String)
    (s : MessagingStore) : Except Throwable String × MessagingStore :=
  match findQueue addresses s queueUrl, findTopic addresses s topicArn with
  | .error e, _ => (.error e, s)
  | .ok _, .error e => (.error e, s)
  | .ok (queueName, _), .ok (name, topic) =>
    let endpoint := addresses.queueArns.address queueName
    (.ok (addresses.subscriptionArn name endpoint),
      { s with topics := Function.update s.topics name
                (some ⟨if topic.endpoints.contains endpoint then topic.endpoints
                  else topic.endpoints ++ [endpoint]⟩) })

/-- The topic that the ARN addresses is gone afterwards, whether there was one or not. -/
def deleteTopic (addresses : Addresses) (topicArn : String) (s : MessagingStore) :
    Except Throwable Unit × MessagingStore :=
  match addresses.topicArns.resolve topicArn with
  | none => (.error invalidAddress, s)
  | some name => (.ok (), { s with topics := Function.update s.topics name none })

/-- The queue has no messages afterwards. -/
def purgeQueue (addresses : Addresses) (queueUrl : String) (s : MessagingStore) :
    Except Throwable Unit × MessagingStore :=
  match findQueue addresses s (some queueUrl) with
  | .error e => (.error e, s)
  | .ok (name, q) =>
    (.ok (), { s with queues := Function.update s.queues name (some { q with messages := [] }) })

/-- The service, over the addresses it gives out. -/
def service (addresses : Addresses) :
    Service MessagingStore MessagingCall Throwable MessagingCall.Response where
  exec
    | .getQueueUrl name => getQueueUrl addresses name
    | .createQueue request => createQueue addresses request
    | .sendMessage queueUrl messageBody => sendMessage addresses queueUrl messageBody
    | .createTopic name => createTopic addresses name
    | .subscribeQueue topicArn queueUrl => subscribeQueue addresses topicArn queueUrl
    | .setQueueAttributes queueUrl attributes =>
      setQueueAttributes addresses queueUrl attributes
    | .deleteTopic topicArn => deleteTopic addresses topicArn
    | .purgeQueue queueUrl => purgeQueue addresses queueUrl

end Messaging

/-- The world of a task that talks to SQS and SNS. -/
abbrev MessagingWorld : Type := World MessagingStore MessagingCall Throwable

/-- The SQS and SNS clients: the addresses of the service behind them, and which calls
fail. -/
structure MessagingClient where
  addresses : Addresses
  sched : Schedule Throwable

namespace MessagingClient

variable (client : MessagingClient)

/-- One call of the client, under its schedule. -/
def invoke (c : MessagingCall) : Prog MessagingWorld Throwable c.Response :=
  call (Messaging.service client.addresses) client.sched c

/-- `getQueueUrl`. -/
def getQueueUrl (queueName : String) : Prog MessagingWorld Throwable String :=
  client.invoke (.getQueueUrl queueName)

/-- `createQueue`. -/
def createQueue (request : CreateQueueRequest) : Prog MessagingWorld Throwable String :=
  client.invoke (.createQueue request)

/-- `sendMessage`. -/
def sendMessage (queueUrl messageBody : String) : Prog MessagingWorld Throwable Unit :=
  client.invoke (.sendMessage queueUrl messageBody)

/-- `createTopic`. -/
def createTopic (name : String) : Prog MessagingWorld Throwable String :=
  client.invoke (.createTopic name)

/-- `Topics.subscribeQueue`. -/
def subscribeQueue (topicArn : String) (queueUrl : Option String) :
    Prog MessagingWorld Throwable String :=
  client.invoke (.subscribeQueue topicArn queueUrl)

/-- `setQueueAttributes`. -/
def setQueueAttributes (queueUrl : String) (attributes : AttributeMap) :
    Prog MessagingWorld Throwable Unit :=
  client.invoke (.setQueueAttributes queueUrl attributes)

/-- `deleteTopic`. -/
def deleteTopic (topicArn : String) : Prog MessagingWorld Throwable Unit :=
  client.invoke (.deleteTopic topicArn)

/-- `purgeQueue`. -/
def purgeQueue (queueUrl : String) : Prog MessagingWorld Throwable Unit :=
  client.invoke (.purgeQueue queueUrl)

end MessagingClient

end GradleLocalstack.Model
