import GradleLocalstack.Model.Project

/-!
# `AwsClientFactory`

The one instance keeps a client for each service, in five fields that are `null` until
the first call.  The double-checked locking of the five methods is one definition,
`getOrCreate`; a call is taken to run to its end before the next begins.
-/

set_option autoImplicit false

namespace GradleLocalstack.Program

open GradleLocalstack.Model

/-- The services that the factory has a client for. -/
inductive AwsService where
  | cloudformation
  | dynamoDb
  | s3
  | sqs
  | sns
  deriving DecidableEq

/-- `AwsClientBuilder.EndpointConfiguration`. -/
structure EndpointConfiguration where
  serviceEndpoint : String
  signingRegion : Option String
  deriving DecidableEq

/-- A client, as its builder made it. -/
structure AwsClient where
  service : AwsService
  endpointConfiguration : EndpointConfiguration
  pathStyleAccessEnabled : Bool := false
  deriving DecidableEq

/-- `AwsClientFactory`: the clients it has built so far. -/
structure AwsClientFactory where
  cfClient : Option AwsClient := none
  dynamoDbClient : Option AwsClient := none
  amazonS3Client : Option AwsClient := none
  amazonSqsClient : Option AwsClient := none
  amazonSnsClient : Option AwsClient := none

namespace AwsClientFactory

/-- `AwsClientFactory.endpointConfiguration`.
SRC: aws/AwsClientFactory.java:165-168 -/
def endpointConfiguration (project : Project) : EndpointConfiguration where
  serviceEndpoint := s!"http://{nullable project.localstack.host}:{project.localstack.port}"
  signingRegion := project.localstack.signingRegion

/-- Take the client of the field; if it is `null`, build one and keep it. -/
def getOrCreate (ref : AwsClientFactory → Option AwsClient)
    (keep : AwsClientFactory → AwsClient → AwsClientFactory)
    (build : EndpointConfiguration → AwsClient) (project : Project) (factory : AwsClientFactory) :
    AwsClient × AwsClientFactory :=
  match ref factory with
  | some client => (client, factory)
  | none =>
    let client := build (endpointConfiguration project)
    (client, keep factory client)

/-- `AwsClientFactory.cloudformation`.
SRC: aws/AwsClientFactory.java:47-63 -/
def cloudformation : Project → AwsClientFactory → AwsClient × AwsClientFactory :=
  getOrCreate cfClient (fun factory client => { factory with cfClient := some client })
    fun configuration => { service := .cloudformation, endpointConfiguration := configuration }

/-- `AwsClientFactory.dynamoDb`.
SRC: aws/AwsClientFactory.java:71-87 -/
def dynamoDb : Project → AwsClientFactory → AwsClient × AwsClientFactory :=
  getOrCreate dynamoDbClient (fun factory client => { factory with dynamoDbClient := some client })
    fun configuration => { service := .dynamoDb, endpointConfiguration := configuration }

/-- `AwsClientFactory.s3`.
SRC: aws/AwsClientFactory.java:95-112 -/
def s3 : Project → AwsClientFactory → AwsClient × AwsClientFactory :=
  getOrCreate amazonS3Client (fun factory client => { factory with amazonS3Client := some client })
    fun configuration =>
      { service := .s3, endpointConfiguration := configuration, pathStyleAccessEnabled := true }

/-- `AwsClientFactory.sqs`.
SRC: aws/AwsClientFactory.java:120-136 -/
def sqs : Project → AwsClientFactory → AwsClient × AwsClientFactory :=
  getOrCreate amazonSqsClient
    (fun factory client => { factory with amazonSqsClient := some client })
    fun configuration => { service := .sqs, endpointConfiguration := configuration }

/-- `AwsClientFactory.sns`.
SRC: aws/AwsClientFactory.java:144-160 -/
def sns : Project → AwsClientFactory → AwsClient × AwsClientFactory :=
  getOrCreate amazonSnsClient
    (fun factory client => { factory with amazonSnsClient := some client })
    fun configuration => { service := .sns, endpointConfiguration := configuration }

/-- The method of the factory for a service. -/
def getClient : AwsService → Project → AwsClientFactory → AwsClient × AwsClientFactory
  | .cloudformation => cloudformation
  | .dynamoDb => dynamoDb
  | .s3 => s3
  | .sqs => sqs
  | .sns => sns

/-- A sequence of calls, each with a project as it is at the time of the call. -/
def getClients : List (AwsService × Project) → AwsClientFactory → List AwsClient × AwsClientFactory
  | [], factory => ([], factory)
  | (service, project) :: calls, factory =>
    let (client, factory) := getClient service project factory
    let (clients, factory) := getClients calls factory
    (client :: clients, factory)

end AwsClientFactory

end GradleLocalstack.Program
