import Mathlib.Data.Int.Notation
import GradleLocalstack.Model.Archives

/-!
# Requests for a new CloudFormation stack

The parameters, the rollback configuration and the tags of a stack are handed on as they
are, so their types are left open.
-/

set_option autoImplicit false

namespace GradleLocalstack.Model

open Foundation

/-- `com.amazonaws.services.cloudformation.model.OnFailure`. -/
inductive OnFailure where
  | doNothing
  | rollback
  | delete
  deriving DecidableEq, Repr

/-- `OnFailure.toString`. -/
def OnFailure.toString : OnFailure → String
  | doNothing => "DO_NOTHING"
  | rollback => "ROLLBACK"
  | delete => "DELETE"

/-- `CreateStackRequest`; what has not been set is `none`. -/
structure CreateStackRequest (Parameter RollbackConfiguration Tag : Type) where
  stackName : Option String := none
  templateBody : Option String := none
  capabilities : Option (List String) := none
  clientRequestToken : Option String := none
  disableRollback : Option Bool := none
  enableTerminationProtection : Option Bool := none
  notificationARNs : Option (List String) := none
  onFailure : Option String := none
  parameters : Option (List Parameter) := none
  resourceTypes : Option (List String) := none
  roleARN : Option String := none
  rollbackConfiguration : Option RollbackConfiguration := none
  stackPolicyBody : Option String := none
  timeoutInMinutes : Option ℤ := none
  tags : Option (List Tag) := none
  deriving DecidableEq

section Client

variable (σ Parameter RollbackConfiguration Tag : Type)

/-- The world of a client of CloudFormation, whatever its store `σ` is. -/
abbrev CloudFormationWorld : Type :=
  World σ (CreateStackRequest Parameter RollbackConfiguration Tag) Throwable

/-- A client of CloudFormation: nothing is assumed of the service.  Of the answer to
`createStack` nothing is read. -/
structure AmazonCloudFormation where
  service : Service σ (CreateStackRequest Parameter RollbackConfiguration Tag) Throwable
    (fun _ => Unit)
  sched : Schedule Throwable

variable {σ Parameter RollbackConfiguration Tag}

/-- `AmazonCloudFormation.createStack`. -/
def AmazonCloudFormation.createStack
    (amazonCF : AmazonCloudFormation σ Parameter RollbackConfiguration Tag)
    (createStackRequest : CreateStackRequest Parameter RollbackConfiguration Tag) :
    Prog (CloudFormationWorld σ Parameter RollbackConfiguration Tag) Throwable Unit :=
  call amazonCF.service amazonCF.sched createStackRequest

end Client

/-- The files that a task reads, by path, and the default charset of the platform. -/
structure InputFiles where
  bytes : String → Except Throwable ByteArray
  defaultCharset : Charset

/-- `IOUtils.toString(new FileInputStream(file), Charset.defaultCharset())`. -/
def InputFiles.toString (files : InputFiles) : Option String → Except Throwable String
  | none => .error (.plain .nullPointerException none)
  | some file => (files.bytes file).map files.defaultCharset.decode

end GradleLocalstack.Model
