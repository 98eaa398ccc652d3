import GradleLocalstack.Model.Messaging
import GradleLocalstack.Model.Project
import GradleLocalstack.Model.Strings
import GradleLocalstack.Program.Retry

/-!
# The SQS tasks

`CreateSqsQueuesTask`, `CreateSqsQueueWithDlqTask`, `PublishSqsTask` and
`PurgeSqsQueuesTask`, and the `SqsTaskUtil` they use.  `CreateSqsQueueWithDlqTask` writes
into its own `queueAttributes`, so its world is that of the client and the task itself.
What a message file gives when it is read is part of the file: opening it may fail, and
reading may end with an exception after some of its lines or entries.
-/

set_option autoImplicit false

namespace GradleLocalstack.Program

open Foundation GradleLocalstack.Model

namespace SqsTaskUtil

variable (amazonSQS : MessagingClient)

/-- `SqsTaskUtil.queueExists`.
SRC: aws/sqs/SqsTaskUtil.java:43-52 -/
def queueExists (queueName : String) : Prog MessagingWorld Throwable Bool :=
  tryCatch
    (do
      let _ ← amazonSQS.getQueueUrl queueName
      pure true)
    fun t => if t.getClass = Messaging.queueDoesNotExistClass then pure false else throw t

/-- `SqsTaskUtil.getQueueUrls`.
SRC: aws/sqs/SqsTaskUtil.java:60-70 -/
def getQueueUrls : List String → Prog MessagingWorld Throwable (List String)
  | [] => pure []
  | queueName :: queueNames => do
    let queueUrl ← amazonSQS.getQueueUrl queueName
    let queueUrls ← getQueueUrls queueNames
    pure (queueUrl :: queueUrls)

/-- `SqsTaskUtil.getQueueUrl`.
SRC: aws/sqs/SqsTaskUtil.java:78-83 -/
def getQueueUrl (queueName : String) : Prog MessagingWorld Throwable String :=
  amazonSQS.getQueueUrl queueName

/-- The request for a new queue; attributes that are `null` or empty are not set.
SRC: aws/sqs/SqsTaskUtil.java:95-99, aws/sqs/CreateSqsQueuesTask.java:55-59 -/
def createQueueRequest (queueName : String) (queueAttributes : Option AttributeMap) :
    CreateQueueRequest :=
  match queueAttributes with
  | some attributes =>
    if attributes.isEmpty then { queueName } else { queueName, attributes }
  | none => { queueName }

/-- `SqsTaskUtil.createQueue`.
SRC: aws/sqs/SqsTaskUtil.java:92-102 -/
def createQueue (queueName : String) (queueAttributes : Option AttributeMap) :
    Prog MessagingWorld Throwable String :=
  amazonSQS.createQueue (createQueueRequest queueName queueAttributes)

/-- `SqsTaskUtil.getQueueArnFromName`.
SRC: aws/sqs/SqsTaskUtil.java:110-114 -/
def getQueueArnFromName (project : Project) (queueName : String) : String :=
  s!"arn:aws:sqs:{nullable project.localstack.signingRegion}:000000000000:{queueName}"

/-- `SqsTaskUtil.setQueueAttributes`.
SRC: aws/sqs/SqsTaskUtil.java:165-169 -/
def setQueueAttributes (queueUrl : String) (attributes : AttributeMap) :
    Prog MessagingWorld Throwable Unit :=
  amazonSQS.setQueueAttributes queueUrl attributes

end SqsTaskUtil

/-- `CreateSqsQueuesTask`. -/
structure CreateSqsQueuesTask where
  queueNames : Option (List String)
  queueAttributes : Option AttributeMap

namespace CreateSqsQueuesTask

variable (amazonSQS : MessagingClient)

/-- The body of the loop over the queue names.
SRC: aws/sqs/CreateSqsQueuesTask.java:50-64 -/
def createQueue (queueNames : List String) (queueAttributes : Option AttributeMap)
    (queueName : String) : Prog MessagingWorld Throwable Unit := do
  log s!"Creating SQS queue: {queueName}"
  let queueExists ← SqsTaskUtil.queueExists amazonSQS queueName
  if queueExists then
    log s!"Queue already exists: {queueName}"
  else do
    let _ ← amazonSQS.createQueue (SqsTaskUtil.createQueueRequest queueName queueAttributes)
    log s!"Created SQS queue: {listToString queueNames}"

/-- `CreateSqsQueuesTask.run`.
SRC: aws/sqs/CreateSqsQueuesTask.java:42-70 -/
def run (task : CreateSqsQueuesTask) : Prog MessagingWorld Throwable Unit :=
  Retry.executeExpecting
    (match task.queueNames with
      | some queueNames =>
        Prog.forEach (createQueue amazonSQS queueNames task.queueAttributes) queueNames
      | none => throw (.plain .nullPointerException none))
    [.illegalArgumentException]

end CreateSqsQueuesTask

/-- `CreateSqsQueueWithDlqTask`. -/
structure CreateSqsQueueWithDlqTask where
  queueName : String
  queueAttributes : Option AttributeMap := none
  deadletterQueueName : Option String := none
  deadletterQueueAttributes : Option AttributeMap := none

namespace CreateSqsQueueWithDlqTask

/-- `CreateSqsQueueWithDlqTask.RedrivePolicy`. -/
structure RedrivePolicy where
  deadLetterTargetArn : String
  maxReceiveCount : String
  deriving DecidableEq

/-- The world of the task: that of its client, and the fields of the task. -/
abbrev TaskWorld : Type := MessagingWorld × CreateSqsQueueWithDlqTask

/-- `DEFAULT_DLQ_SUFFIX`. -/
def defaultDlqSuffix : String := "-dlq"

/-- `CreateSqsQueueWithDlqTask.getDeadletterQueueName`.
SRC: aws/sqs/CreateSqsQueueWithDlqTask.java:176-178 -/
def getDeadletterQueueName (task : CreateSqsQueueWithDlqTask) : String :=
  match task.deadletterQueueName with
  | some deadletterQueueName =>
    if deadletterQueueName ≠ "" then deadletterQueueName else task.queueName ++ defaultDlqSuffix
  | none => task.queueName ++ defaultDlqSuffix

/-- The fields of the task as they are. -/
def fields : Prog TaskWorld Throwable CreateSqsQueueWithDlqTask := do
  let w ← Prog.current
  pure w.2

/-- `this.queueAttributes = queueAttributes`. -/
def assignQueueAttributes (queueAttributes : AttributeMap) : Prog TaskWorld Throwable Unit :=
  Prog.update fun w => (w.1, { w.2 with queueAttributes := some queueAttributes })

variable (amazonSQS : MessagingClient) (project : Project) (mapper : ObjectMapper RedrivePolicy)

/-- Create deadletter queue.
SRC: aws/sqs/CreateSqsQueueWithDlqTask.java:59-74 -/
def createDeadletterQueue : Prog TaskWorld Throwable Unit := do
  let task ← fields
  let dlqName := getDeadletterQueueName task
  let queueExists ← Prog.onFirst (SqsTaskUtil.queueExists amazonSQS dlqName)
  if queueExists then
    log s!"DLQ already exists: {dlqName}"
  else do
    log s!"Creating SQS deadletter queue: {dlqName}"
    let _ ← Prog.onFirst
      (SqsTaskUtil.createQueue amazonSQS dlqName task.deadletterQueueAttributes)
    log s!"Created SQS deadletter queue: {dlqName}"

/-- Setting the redrive policy on the queue.
SRC: aws/sqs/CreateSqsQueueWithDlqTask.java:88-96, 104-112 -/
def putRedrivePolicy (dlqArn : String) : Prog TaskWorld Throwable AttributeMap := do
  let task ← fields
  let queueAttributes := task.queueAttributes.getD .empty
  assignQueueAttributes queueAttributes
  let policy ← Prog.ofExcept (mapper.writeValueAsString ⟨dlqArn, "1"⟩)
  assignQueueAttributes (queueAttributes.put "RedrivePolicy" policy)
  pure (queueAttributes.put "RedrivePolicy" policy)

/-- Create queue.
SRC: aws/sqs/CreateSqsQueueWithDlqTask.java:78-120 -/
def createQueue : Prog TaskWorld Throwable Unit := do
  let task ← fields
  let dlqName := getDeadletterQueueName task
  let dlqArn := SqsTaskUtil.getQueueArnFromName project dlqName
  let queueExists ← Prog.onFirst (SqsTaskUtil.queueExists amazonSQS task.queueName)
  if queueExists then do
    log s!"Queue already exists: {task.queueName}"
    let queueUrl ← Prog.onFirst (SqsTaskUtil.getQueueUrl amazonSQS task.queueName)
    let queueAttributes ← putRedrivePolicy mapper dlqArn
    Prog.onFirst (SqsTaskUtil.setQueueAttributes amazonSQS queueUrl queueAttributes)
    log s!"Updated RedrivePolicy on SQS queue: {task.queueName}"
  else do
    log s!"Creating SQS queue: {task.queueName}"
    let queueAttributes ← putRedrivePolicy mapper dlqArn
    let _ ← Prog.onFirst (SqsTaskUtil.createQueue amazonSQS task.queueName (some queueAttributes))
    log s!"Created SQS queue: {task.queueName}"

/-- `CreateSqsQueueWithDlqTask.run`.
SRC: aws/sqs/CreateSqsQueueWithDlqTask.java:54-121 -/
def run : Prog TaskWorld Throwable Unit := do
  Retry.executeDefault (createDeadletterQueue amazonSQS)
  Retry.executeExpecting (createQueue amazonSQS project mapper) [.jsonProcessingException]

end CreateSqsQueueWithDlqTask

/-- What reading a file or an archive gives: its items, and the exception that ends the
reading before the end, if there is one. -/
structure Source (α : Type) where
  items : List α
  failure : Option JavaException

/-- An entry of a tar archive. -/
structure TarArchiveEntry where
  getName : String
  lines : Source String

/-- A message file: its name and path, and what it gives when it is opened as a text
file and as a tar.gz archive. -/
structure MessageFile where
  getName : String
  getAbsolutePath : String
  text : Except JavaException (Source String)
  archive : Except JavaException (Source TarArchiveEntry)

/-- `PublishSqsTask`. -/
structure PublishSqsTask where
  queueNames : Option (List String)
  messages : Option (List MessageFile)

namespace PublishSqsTask

/-- `PublishSqsTask.setQueueNames(String)`.
SRC: aws/sqs/PublishSqsTask.java:189-196 -/
def setQueueNames (queues : Option String) (task : PublishSqsTask) : PublishSqsTask :=
  { task with queueNames := commaDelimited queues task.queueNames }

/-- `PublishSqsTask.isSupportedArchive`.
SRC: aws/sqs/PublishSqsTask.java:149-151 -/
def isSupportedArchive (file : MessageFile) : Bool :=
  "tar.gz".toList.isSuffixOf file.getName.toList || "tgz".toList.isSuffixOf file.getName.toList

/-- Only files that are not hidden in the archive are processed. -/
def isHidden (te : TarArchiveEntry) : Bool := ".".toList.isPrefixOf te.getName.toList

variable (sqs : MessagingClient) (queueUrls : List String)

/-- Read a source to its end, with `body` on each item. -/
def readAll {α : Type} (body : α → Prog MessagingWorld Throwable Unit) (source : Source α) :
    Prog MessagingWorld Throwable Unit := do
  Prog.forEach body source.items
  match source.failure with
  | some e => throw e.val
  | none => pure ()

/-- Open a source and read it. -/
def openAndRead {α : Type} (body : α → Prog MessagingWorld Throwable Unit)
    (source : Except JavaException (Source α)) : Prog MessagingWorld Throwable Unit :=
  match source with
  | .error e => throw e.val
  | .ok source => readAll body source

/-- Send one line to every queue, unless it is empty.
SRC: aws/sqs/PublishSqsTask.java:109-113, 134-138 -/
def publishLine (line : String) : Prog MessagingWorld Throwable Unit :=
  if line = "" then pure ()
  else Prog.forEach (fun queueUrl => sqs.sendMessage queueUrl line) queueUrls

/-- The body of the loop over the entries of an archive.
SRC: aws/sqs/PublishSqsTask.java:101-116 -/
def processEntry (te : TarArchiveEntry) : Prog MessagingWorld Throwable Unit :=
  if isHidden te then pure () else readAll (publishLine sqs queueUrls) te.lines

/-- `PublishSqsTask.processArchive`.
SRC: aws/sqs/PublishSqsTask.java:90-118 -/
def processArchive (messageArchive : MessageFile) : Prog MessagingWorld Throwable Unit := do
  log s!"Processing message archive: {messageArchive.getAbsolutePath}"
  openAndRead (processEntry sqs queueUrls) messageArchive.archive

/-- `PublishSqsTask.processFile`.
SRC: aws/sqs/PublishSqsTask.java:128-141 -/
def processFile (messageFile : MessageFile) : Prog MessagingWorld Throwable Unit := do
  log s!"Processing message file: {messageFile.getAbsolutePath}"
  openAndRead (publishLine sqs queueUrls) messageFile.text

/-- What the console shows for an exception that a message file ended with. -/
def publishError (e : Throwable) : String :=
  s!"Error occurred while publishing messages: {nullable e.getMessage}"

/-- The body of the loop over the message files.
SRC: aws/sqs/PublishSqsTask.java:63-73 -/
def publishFile (messageFile : MessageFile) : Prog MessagingWorld Throwable Unit :=
  tryCatch
    (if isSupportedArchive messageFile then processArchive sqs queueUrls messageFile
      else processFile sqs queueUrls messageFile)
    fun e => if e.isException then log (publishError e) else throw e

/-- `PublishSqsTask.run`.
SRC: aws/sqs/PublishSqsTask.java:54-80 -/
def run (task : PublishSqsTask) : Prog MessagingWorld Throwable Unit :=
  Retry.executeDefault <|
    match task.queueNames with
    | some (queueName :: queueNames) => do
      let queueUrls ← SqsTaskUtil.getQueueUrls sqs (queueName :: queueNames)
      match task.messages with
      | some messages => Prog.forEach (publishFile sqs queueUrls) messages
      | none => throw (.plain .nullPointerException none)
    | _ => log "No queues configured!"

end PublishSqsTask

/-- `PurgeSqsQueuesTask`. -/
structure PurgeSqsQueuesTask where
  queueNames : Option (List String)

namespace PurgeSqsQueuesTask

/-- `PurgeSqsQueuesTask.setQueueNames(String)`.
SRC: aws/sqs/PurgeSqsQueuesTask.java:110-117 -/
def setQueueNames (queueNames : Option String) (task : PurgeSqsQueuesTask) :
    PurgeSqsQueuesTask :=
  { task with queueNames := commaDelimited queueNames task.queueNames }

variable (amazonSQS : MessagingClient)

/-- The body of the loop over the queue names.
SRC: aws/sqs/PurgeSqsQueuesTask.java:54-64 -/
def purgeQueue (queueName : String) : Prog MessagingWorld Throwable Unit := do
  log s!"Purging SQS queue: {queueName}"
  let queueExists ← SqsTaskUtil.queueExists amazonSQS queueName
  if !queueExists then
    throw (.plain .illegalArgumentException (some s!"Queue does not exist: {queueName}"))
  let queueUrl ← amazonSQS.getQueueUrl queueName
  amazonSQS.purgeQueue queueUrl
  log s!"Purged SQS queue: {queueName}"

/-- `PurgeSqsQueuesTask.run`.
SRC: aws/sqs/PurgeSqsQueuesTask.java:43-72 -/
def run (task : PurgeSqsQueuesTask) : Prog MessagingWorld Throwable Unit :=
  Retry.executeExpecting
    (match task.queueNames with
      | some (queueName :: queueNames) =>
        Prog.forEach (purgeQueue amazonSQS) (queueName :: queueNames)
      | _ => log "No queues defined in 'queueNames' parameter")
    [.illegalArgumentException]

end PurgeSqsQueuesTask

end GradleLocalstack.Program
