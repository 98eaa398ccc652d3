import GradleLocalstack.Program.SqsTasks

/-!
# Tasks with the same map of attributes

`setQueueAttributes` keeps a reference, so that two tasks that were given one map read and
write the same.  The world of such tasks is that of their clients, and the map.
-/

set_option autoImplicit false

namespace GradleLocalstack.Program

open Foundation GradleLocalstack.Model

/-- The world of the tasks that share a map. -/
abbrev SharedWorld : Type := MessagingWorld × AttributeMap

/-- `CreateSqsQueueWithDlqTask.run`, if the attributes of the task are the shared map.
SRC: aws/sqs/CreateSqsQueueWithDlqTask.java:54-121, 158-169 -/
def CreateSqsQueueWithDlqTask.runShared (amazonSQS : MessagingClient) (project : Project)
    (mapper : ObjectMapper RedrivePolicy) (task : CreateSqsQueueWithDlqTask) :
    Prog SharedWorld Throwable Unit :=
  Prog.through (fun queueAttributes => { task with queueAttributes := some queueAttributes })
    (fun task' queueAttributes => task'.queueAttributes.getD queueAttributes)
    (run amazonSQS project mapper)

/-- `CreateSqsQueuesTask.run`, if the attributes of the task are the shared map.
SRC: aws/sqs/CreateSqsQueuesTask.java:42-70 -/
def CreateSqsQueuesTask.runShared (amazonSQS : MessagingClient) (queueNames : List String) :
    Prog SharedWorld Throwable Unit := do
  let w ← Prog.current
  Prog.onFirst (run amazonSQS { queueNames := some queueNames, queueAttributes := some w.2 })

end GradleLocalstack.Program
