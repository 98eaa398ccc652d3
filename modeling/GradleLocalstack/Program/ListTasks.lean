import GradleLocalstack.Model.AsciiTable
import GradleLocalstack.Model.Listings
import GradleLocalstack.Model.Strings
import GradleLocalstack.Program.SnsTasks
import GradleLocalstack.Program.SqsTasks

/-!
# The listing tasks

`ListSnsTopicSubscriptionsTask` and `ListSnsTopicsTask`, with what they use of
`SnsTaskUtil`, `ListCFStacksTask`, `ListDynamoDBTablesTask`, and `ListSqsQueuesTask`, with
what it uses of `SqsTaskUtil`.  Each walks through a listing and prints a table, or a message
that there is nothing to list.

The loops are bounded by `rounds`; a loop that goes round more often than that has not
ended.
-/

set_option autoImplicit false

namespace GradleLocalstack.Program

open Foundation GradleLocalstack.Model

/-! ## SNS -/

/-- `SnsTaskUtil.getTopicName`.
SRC: aws/sns/SnsTaskUtil.java:50-56 -/
def SnsTaskUtil.getTopicName (topicArn : Option String) : Option String :=
  match topicArn with
  | some topicArn => if topicArn ≠ "" then some (afterLast ':' topicArn) else none
  | none => none

/-- `SnsTaskUtil.getSubscriptions`.
SRC: aws/sns/SnsTaskUtil.java:64-81 -/
def SnsTaskUtil.getSubscriptions (amazonSNS : ListingClient) (rounds : ℕ)
    (topicArn : Option String) : Prog Sns.World Throwable (List Sns.Subscription) :=
  match topicArn with
  | some topicArn =>
    if topicArn ≠ "" then
      tokenLoop
        (fun subscriptions nextToken => do
          let result ← amazonSNS.listSubscriptionsByTopic topicArn nextToken
          pure (subscriptions ++ result.items, result.nextToken)) rounds []
    else pure []
  | none => pure []

/-- `ListSnsTopicSubscriptionsTask`. -/
structure ListSnsTopicSubscriptionsTask where
  topicName : String

namespace ListSnsTopicSubscriptionsTask

/-- The table before the first page.
SRC: aws/sns/ListSnsTopicSubscriptionsTask.java:47-56 -/
def emptyTable : AsciiTable :=
  let table := (AsciiTable.setTextAlignment {} .justifiedLeft).setWidth 150
  let table := ((table.addRule).addRow [some "Arn", some "Protocol", some "Endpoint"]).addRule
  table.setCWC .longestLine

/-- The row of one subscription. -/
def row (subscription : Sns.Subscription) : List (Option String) :=
  [some subscription.subscriptionArn, some subscription.protocol, some subscription.endpoint]

variable (amazonSNS : ListingClient) (project : Project) (renderer : Renderer)
  (task : ListSnsTopicSubscriptionsTask)

/-- One round of the loop, on the table and the number of subscriptions so far.  The request
is made without the token; `break` ends the loop as a missing token does.
SRC: aws/sns/ListSnsTopicSubscriptionsTask.java:61-85 -/
def listPage (p : AsciiTable × ℕ) (_nextToken : Option String) :
    Prog Sns.World Throwable ((AsciiTable × ℕ) × Option String) :=
  tryCatch
    (do
      let result ← amazonSNS.listSubscriptionsByTopic
        (SnsTaskUtil.getTopicArn project task.topicName) none
      let table := p.1.addRows row result.items
      let subCnt := p.2 + result.items.length
      if result.nextToken = none ∧ 0 < subCnt then log (renderer.render table)
      else log "No Subscriptions Found!"
      pure ((table, subCnt), result.nextToken))
    fun e => do
      if e.getStatusCode = some 404 then do
        log "Topic Not Found!"
        pure (p, none)
      else throw e

/-- The loop, with the table it leaves.
SRC: aws/sns/ListSnsTopicSubscriptionsTask.java:58-86 -/
def listPages (rounds : ℕ) : Prog Sns.World Throwable AsciiTable := do
  let p ← tokenLoop (listPage amazonSNS project renderer task) rounds (emptyTable, 0)
  pure p.1

/-- `ListSnsTopicSubscriptionsTask.run`.
SRC: aws/sns/ListSnsTopicSubscriptionsTask.java:42-90 -/
def run (rounds : ℕ) : Prog Sns.World Throwable Unit :=
  Retry.executeDefault do
    let _ ← listPages amazonSNS project renderer task rounds
    pure ()

end ListSnsTopicSubscriptionsTask

namespace ListSnsTopicsTask

/-- The table before the first page.
SRC: aws/sns/ListSnsTopicsTask.java:42-48 -/
def emptyTable : AsciiTable :=
  let table := (AsciiTable.setTextAlignment {} .justifiedLeft).setWidth 150
  ((table.addRule).addRow [some "TopicName", some "TopicArn", some "Subscriptions"]).addRule

variable (amazonSNS : ListingClient) (renderer : Renderer) (lineSeparator : String) (rounds : ℕ)

/-- The cell with the ARNs of the subscriptions of a topic.
SRC: aws/sns/ListSnsTopicsTask.java:59-61 -/
def subscriptionsCell (subscriptions : List Sns.Subscription) : String :=
  subscriptions.foldl (fun text subscription =>
    text ++ subscription.subscriptionArn ++ lineSeparator) ""

/-- The body of the loop over the topics of a page.
SRC: aws/sns/ListSnsTopicsTask.java:55-67 -/
def addTopic (p : AsciiTable × ℕ) (topic : Sns.Topic) :
    Prog Sns.World Throwable (AsciiTable × ℕ) := do
  let topicName := SnsTaskUtil.getTopicName (some topic.topicArn)
  let subscriptions ← SnsTaskUtil.getSubscriptions amazonSNS rounds (some topic.topicArn)
  let columns := [topicName, some topic.topicArn,
    some (subscriptionsCell lineSeparator subscriptions)]
  pure ((p.1.addRow columns).addRule, p.2 + 1)

/-- One round of the loop over the pages.
SRC: aws/sns/ListSnsTopicsTask.java:53-69 -/
def listPage (p : AsciiTable × ℕ) (nextToken : Option String) :
    Prog Sns.World Throwable ((AsciiTable × ℕ) × Option String) := do
  let result ← amazonSNS.listTopics nextToken
  let p ← result.items.foldlM (addTopic amazonSNS lineSeparator rounds) p
  pure (p, result.nextToken)

/-- `ListSnsTopicsTask.run`.
SRC: aws/sns/ListSnsTopicsTask.java:37-80 -/
def run : Prog Sns.World Throwable Unit :=
  Retry.executeDefault do
    let p ← tokenLoop (listPage amazonSNS lineSeparator rounds) rounds (emptyTable, 0)
    if 0 < p.2 then log (renderer.render p.1) else log "No Topics Found!"

end ListSnsTopicsTask

/-! ## CloudFormation and DynamoDB -/

/-- One round of the loop of `ListCFStacksTask` and `ListDynamoDBTablesTask`: a page without
items is reported, and the table is printed after the last page if that one has items.
SRC: aws/cloudformation/ListCFStacksTask.java:59-77,
aws/dynamodb/ListDynamoDBTablesTask.java:47-62 -/
def listPage {ω α : Type} [Console ω] (renderer : Renderer)
    (fetch : Option String → Prog ω Throwable (Listing α String))
    (row : α → List (Option String)) (notFound : String) (table : AsciiTable)
    (token : Option String) : Prog ω Throwable (AsciiTable × Option String) := do
  let result ← fetch token
  if result.items = [] then log notFound
  let table := table.addRows row result.items
  if result.nextToken = none ∧ result.items ≠ [] then log (renderer.render table)
  pure (table, result.nextToken)

/-- `ListCFStacksTask`. -/
structure ListCFStacksTask where
  statusFilter : Option String := none

namespace ListCFStacksTask

/-- The table before the first page.
SRC: aws/cloudformation/ListCFStacksTask.java:49-55 -/
def emptyTable : AsciiTable :=
  let table := (AsciiTable.setTextAlignment {} .justifiedLeft).setWidth 150
  ((table.addRule).addRow
    [some "StackId", some "StackName", some "StackStatus", some "CreationTime"]).addRule

/-- The row of one stack. -/
def row (stackSummary : CloudFormation.StackSummary) : List (Option String) :=
  [some stackSummary.stackId, some stackSummary.stackName, some stackSummary.stackStatus,
    some stackSummary.creationTime]

/-- `ListCFStacksTask.parseStatusFilter`.
SRC: aws/cloudformation/ListCFStacksTask.java:84-92 -/
def parseStatusFilter (statusFilter : Option String) : Option (Finset String) :=
  match statusFilter with
  | some filterStr =>
    if filterStr ≠ "" then some ((split ',' filterStr).map trim).toFinset else none
  | none => none

variable (amazonCF : ListingClient) (renderer : Renderer) (task : ListCFStacksTask)

/-- The request for a page.
SRC: aws/cloudformation/ListCFStacksTask.java:59-63 -/
def listStacks (token : Option String) :
    Prog CloudFormation.World Throwable (Listing CloudFormation.StackSummary String) :=
  amazonCF.listStacks
    { nextToken := token, stackStatusFilters := parseStatusFilter task.statusFilter }

/-- `ListCFStacksTask.run`.
SRC: aws/cloudformation/ListCFStacksTask.java:45-82 -/
def run (rounds : ℕ) : Prog CloudFormation.World Throwable Unit :=
  Retry.executeDefault do
    let _ ← tokenLoop (listPage renderer (listStacks amazonCF task) row "No Stacks Found!")
      rounds emptyTable
    pure ()

end ListCFStacksTask

namespace ListDynamoDBTablesTask

/-- The table before the first page.
SRC: aws/dynamodb/ListDynamoDBTablesTask.java:38-43 -/
def emptyTable : AsciiTable :=
  let table := AsciiTable.setTextAlignment {} .justifiedLeft
  ((table.addRule).addRow [some "TableName"]).addRule

/-- The row of one table. -/
def row (tableName : String) : List (Option String) := [some tableName]

variable (amazonDynamoDB : ListingClient) (renderer : Renderer)

/-- `ListDynamoDBTablesTask.run`.
SRC: aws/dynamodb/ListDynamoDBTablesTask.java:34-67 -/
def run (rounds : ℕ) : Prog DynamoDb.ListingWorld Throwable Unit :=
  Retry.executeDefault do
    let _ ← tokenLoop (listPage renderer amazonDynamoDB.listTables row "No Tables Found!")
      rounds emptyTable
    pure ()

end ListDynamoDBTablesTask

/-! ## SQS -/

namespace SqsTaskUtil

variable (amazonSQS : ListingClient)

/-- `SqsTaskUtil.getQueueNameFromUrl`.
SRC: aws/sqs/SqsTaskUtil.java:122-128 -/
def getQueueNameFromUrl (queueUrl : Option String) : String :=
  match queueUrl with
  | some queueUrl => if queueUrl ≠ "" then afterLast '/' queueUrl else ""
  | none => ""

/-- `SqsTaskUtil.getQueueAttribute`: what is looked up is the text `"attributeName"`, and
not the attribute that was asked for.
SRC: aws/sqs/SqsTaskUtil.java:152-157 -/
def getQueueAttribute (queueUrl attributeName : String) :
    Prog Sqs.World Throwable (Option String) := do
  let queueAttributes ← amazonSQS.getQueueAttributes queueUrl [attributeName]
  pure (queueAttributes.get "attributeName")

/-- `SqsTaskUtil.getApproximateNumberOfMessages`.
SRC: aws/sqs/SqsTaskUtil.java:136-143 -/
def getApproximateNumberOfMessages (queueUrl : String) : Prog Sqs.World Throwable ℤ := do
  let val ← getQueueAttribute amazonSQS queueUrl "ApproximateNumberOfMessages"
  match val with
  | some val => if val ≠ "" then Prog.ofExcept (parseLong val) else pure 0
  | none => pure 0

end SqsTaskUtil

/-- `ListSqsQueuesTask`. -/
structure ListSqsQueuesTask where
  queueNamePrefix : Option String := none

namespace ListSqsQueuesTask

/-- The table before the first queue.
SRC: aws/sqs/ListSqsQueuesTask.java:48-54 -/
def emptyTable : AsciiTable :=
  let table := (AsciiTable.setTextAlignment {} .justifiedLeft).setWidth 150
  ((table.addRule).addRow
    [some "QueueName", some "QueueUrl", some "ApproximateNumberOfMessages"]).addRule

/-- The request; a prefix that is `null` or empty is not set.
SRC: aws/sqs/ListSqsQueuesTask.java:56 -/
def listQueuesRequest (task : ListSqsQueuesTask) : Option String :=
  match task.queueNamePrefix with
  | some queueNamePrefix => if queueNamePrefix = "" then none else some queueNamePrefix
  | none => none

variable (amazonSQS : ListingClient) (renderer : Renderer) (task : ListSqsQueuesTask)

/-- The body of the loop over the URLs.
SRC: aws/sqs/ListSqsQueuesTask.java:60-65 -/
def addQueue (table : AsciiTable) (queueUrl : String) :
    Prog Sqs.World Throwable AsciiTable := do
  let approximateNumberOfMessages ←
    SqsTaskUtil.getApproximateNumberOfMessages amazonSQS queueUrl
  let columns := [some (SqsTaskUtil.getQueueNameFromUrl (some queueUrl)), some queueUrl,
    some (toString approximateNumberOfMessages)]
  pure ((table.addRow columns).addRule)

/-- `ListSqsQueuesTask.run`.
SRC: aws/sqs/ListSqsQueuesTask.java:43-74 -/
def run : Prog Sqs.World Throwable Unit :=
  Retry.executeDefault do
    let listQueuesResult ← amazonSQS.listQueues (listQueuesRequest task)
    match listQueuesResult with
    | some (queueUrl :: queueUrls) => do
      let table ← (queueUrl :: queueUrls).foldlM (addQueue amazonSQS) emptyTable
      log (renderer.render table)
    | _ => log "No Queues Found!"

end ListSqsQueuesTask

end GradleLocalstack.Program
