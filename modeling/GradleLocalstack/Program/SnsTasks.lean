import GradleLocalstack.Program.SqsTasks

/-!
# The SNS tasks

`CreateSnsTopicWithSqsEndpointTask`: three blocks, each in a `Retry` of its own.  The
first hands the URL of the endpoint queue to the last, or `null` if the queue existed.
`DeleteSnsTopicTask` takes two status codes to mean that the topic was not there.
-/

set_option autoImplicit false

namespace GradleLocalstack.Program

open Foundation GradleLocalstack.Model

/-- `CreateSnsTopicWithSqsEndpointTask`. -/
structure CreateSnsTopicWithSqsEndpointTask where
  topicName : String
  queueName : Option String := none

namespace CreateSnsTopicWithSqsEndpointTask

/-- `DEFAULT_SUBSCRIBER_QUEUE_SUFFIX`. -/
def defaultSubscriberQueueSuffix : String := "-subscriber"

variable (client : MessagingClient) (task : CreateSnsTopicWithSqsEndpointTask)

/-- `CreateSnsTopicWithSqsEndpointTask.getQueueName`.
SRC: aws/sns/CreateSnsTopicWithSqsEndpointTask.java:126-128 -/
def getQueueName : String :=
  match task.queueName with
  | some queueName =>
    if queueName ≠ "" then queueName else task.topicName ++ defaultSubscriberQueueSuffix
  | none => task.topicName ++ defaultSubscriberQueueSuffix

/-- Create the queue endpoint.
SRC: aws/sns/CreateSnsTopicWithSqsEndpointTask.java:47-63 -/
def createEndpoint : Prog MessagingWorld Throwable (Option String) := do
  let queueName := getQueueName task
  let queueExists ← SqsTaskUtil.queueExists client queueName
  if queueExists then do
    log s!"SQS queue endpoint already exists: {queueName}"
    pure none
  else do
    log s!"Creating SQS endpoint queue: {queueName}"
    let _ ← SqsTaskUtil.createQueue client queueName (some .empty)
    log s!"Created SQS endpoint queue: {queueName}"
    let queueUrl ← SqsTaskUtil.getQueueUrl client queueName
    pure (some queueUrl)

/-- Create the topic.
SRC: aws/sns/CreateSnsTopicWithSqsEndpointTask.java:66-76 -/
def createTopic : Prog MessagingWorld Throwable String := do
  log s!"Creating SNS topic: {task.topicName}"
  let topicArn ← client.createTopic task.topicName
  log s!"Created SNS topic: {task.topicName}"
  pure topicArn

/-- Subscribe the queue to the topic.
SRC: aws/sns/CreateSnsTopicWithSqsEndpointTask.java:79-88 -/
def subscribe (topicArn : String) (sqsQueueUrl : Option String) :
    Prog MessagingWorld Throwable Unit := do
  let subscriptionArn ← client.subscribeQueue topicArn sqsQueueUrl
  log s!"Created SNS subscription: {subscriptionArn}"

/-- `CreateSnsTopicWithSqsEndpointTask.run`.
SRC: aws/sns/CreateSnsTopicWithSqsEndpointTask.java:44-89 -/
def run : Prog MessagingWorld Throwable Unit := do
  let sqsQueueUrl ← Retry.executeDefault (createEndpoint client task)
  let topicArn ← Retry.executeDefault (createTopic client task)
  Retry.executeDefault (subscribe client topicArn sqsQueueUrl)

end CreateSnsTopicWithSqsEndpointTask

/-- `SnsTaskUtil.getTopicArn`.
SRC: aws/sns/SnsTaskUtil.java:38-42 -/
def SnsTaskUtil.getTopicArn (project : Project) (topicName : String) : String :=
  s!"arn:aws:sns:{nullable project.localstack.signingRegion}:000000000000:{topicName}"

/-- `DeleteSnsTopicTask`. -/
structure DeleteSnsTopicTask where
  topicName : String

namespace DeleteSnsTopicTask

variable (amazonSNS : MessagingClient) (project : Project) (task : DeleteSnsTopicTask)

/-- The block that is retried.
SRC: aws/sns/DeleteSnsTopicTask.java:39-58 -/
def attempt : Prog MessagingWorld Throwable Unit :=
  tryCatch
    (do
      log s!"Deleting SNS topic: {task.topicName}"
      amazonSNS.deleteTopic (SnsTaskUtil.getTopicArn project task.topicName)
      log s!"Deleted SNS topic: {task.topicName}")
    fun e =>
      if e.getStatusCode = some 404 ∨ e.getStatusCode = some 500 then log "Topic Not Found!"
      else throw e

/-- `DeleteSnsTopicTask.run`.
SRC: aws/sns/DeleteSnsTopicTask.java:37-59 -/
def run : Prog MessagingWorld Throwable Unit :=
  Retry.executeDefault (attempt amazonSNS project task)

end DeleteSnsTopicTask

end GradleLocalstack.Program
