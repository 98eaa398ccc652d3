import GradleLocalstack.Model.Stacks
import GradleLocalstack.Program.Retry

/-!
# `CreateCFStackTask`

The task reads the template and the policy, fills a request property by property, and
submits it.
-/

set_option autoImplicit false

namespace GradleLocalstack.Program

open Foundation GradleLocalstack.Model

/-- `CreateCFStackTask`; the files are given by their paths. -/
structure CreateCFStackTask (Parameter RollbackConfiguration Tag : Type) where
  stackName : Option String := none
  cfTemplate : Option String := none
  capabilities : Option (List String) := none
  clientRequestToken : Option String := none
  disableRollback : Option Bool := none
  enableTerminationProtection : Option Bool := none
  notificationArns : Option (List String) := none
  onFailure : Option OnFailure := none
  parameters : Option (List Parameter) := none
  resourceTypes : Option (List String) := none
  roleArn : Option String := none
  rollbackConfiguration : Option RollbackConfiguration := none
  stackPolicy : Option String := none
  timeoutInMinutes : Option ℤ := none
  tags : Option (List Tag) := none

namespace CreateCFStackTask

variable {σ Parameter RollbackConfiguration Tag : Type}

/-- A collection that is neither `null` nor empty. -/
def collection {α : Type} (values : Option (List α)) : Option (List α) :=
  values.filter fun values => !values.isEmpty

/-- A string for which `!StringUtils.isNullOrEmpty` holds. -/
def string (value : Option String) : Option String :=
  value.filter fun value => value ≠ ""

variable (amazonCF : AmazonCloudFormation σ Parameter RollbackConfiguration Tag)
  (files : InputFiles) (task : CreateCFStackTask Parameter RollbackConfiguration Tag)

/-- The request, from what has been read of the template and of the policy.
SRC: aws/cloudformation/CreateCFStackTask.java:118-170 -/
def createStackRequest (templateBody : String) (stackPolicyBody : Option String) :
    CreateStackRequest Parameter RollbackConfiguration Tag where
  stackName := task.stackName
  templateBody := some templateBody
  capabilities := collection task.capabilities
  clientRequestToken := string task.clientRequestToken
  disableRollback := task.disableRollback
  enableTerminationProtection := task.enableTerminationProtection
  notificationARNs := collection task.notificationArns
  onFailure :=
    match task.onFailure with
    | some onFailure => some onFailure.toString
    | none => some OnFailure.rollback.toString
  parameters := collection task.parameters
  resourceTypes := collection task.resourceTypes
  roleARN := string task.roleArn
  rollbackConfiguration := task.rollbackConfiguration
  stackPolicyBody := stackPolicyBody
  timeoutInMinutes := task.timeoutInMinutes

/-- The policy, where there is one.
SRC: aws/cloudformation/CreateCFStackTask.java:164-166 -/
def readStackPolicy : Except Throwable (Option String) :=
  match task.stackPolicy with
  | some stackPolicy => (files.toString (some stackPolicy)).map some
  | none => .ok none

/-- The block that is retried.
SRC: aws/cloudformation/CreateCFStackTask.java:113-177 -/
def attempt : Prog (CloudFormationWorld σ Parameter RollbackConfiguration Tag) Throwable Unit := do
  log s!"Creating CloudFormation Stack: {nullable task.stackName}"
  let templateBody ← Prog.ofExcept (files.toString task.cfTemplate)
  let stackPolicyBody ← Prog.ofExcept (readStackPolicy files task)
  amazonCF.createStack (createStackRequest task templateBody stackPolicyBody)
  log s!"Created CloudFormation Stack: {nullable task.stackName}"

/-- The errors on which `run` does not try again. -/
def expectedErrors : List JavaClass := [.illegalArgumentException, .fileNotFoundException]

/-- `CreateCFStackTask.run`.
SRC: aws/cloudformation/CreateCFStackTask.java:107-178 -/
def run : Prog (CloudFormationWorld σ Parameter RollbackConfiguration Tag) Throwable Unit :=
  Retry.executeExpecting (attempt amazonCF files task) expectedErrors

end CreateCFStackTask

end GradleLocalstack.Program
