import GradleLocalstack.Foundation.Memo
import GradleLocalstack.Program.AwsClientFactory

/-!
# Which project a client is configured for

The five fields of `AwsClientFactory` are one cache with the service as its key
(`cache`), and its five methods are calls of that cache.  A client is so configured for
the project of the first call for its service, whoever asks for it later.
-/

set_option autoImplicit false

namespace GradleLocalstack.Analysis

open Foundation GradleLocalstack.Model GradleLocalstack.Program

/-- The client that is built for a service and a project. -/
def buildClient (service : AwsService) (project : Project) : AwsClient where
  service := service
  endpointConfiguration := AwsClientFactory.endpointConfiguration project
  pathStyleAccessEnabled := service = .s3

/-- The factory as a cache. -/
def cache (factory : AwsClientFactory) : AwsService → Option AwsClient
  | .cloudformation => factory.cfClient
  | .dynamoDb => factory.dynamoDbClient
  | .s3 => factory.amazonS3Client
  | .sqs => factory.amazonSqsClient
  | .sns => factory.amazonSnsClient

variable {factory : AwsClientFactory}

/-- A method whose field is the one for `service` is a call of the cache. -/
theorem getOrCreate_refines {ref : AwsClientFactory → Option AwsClient}
    {keep : AwsClientFactory → AwsClient → AwsClientFactory}
    {build : EndpointConfiguration → AwsClient} {service : AwsService} (project : Project)
    (href : ref factory = cache factory service)
    (hkeep : ∀ client, cache (keep factory client) =
      Function.update (cache factory) service (some client))
    (hbuild : build (AwsClientFactory.endpointConfiguration project) =
      buildClient service project) :
    (AwsClientFactory.getOrCreate ref keep build project factory).1 =
        (memoCall buildClient (service, project) (cache factory)).1 ∧
      cache (AwsClientFactory.getOrCreate ref keep build project factory).2 =
        (memoCall buildClient (service, project) (cache factory)).2 := by
  unfold AwsClientFactory.getOrCreate memoCall
  rw [href]
  cases cache factory service with
  | some client => exact ⟨rfl, rfl⟩
  | none =>
    refine ⟨hbuild, ?_⟩
    rw [hkeep, hbuild]

/-- **The five methods are calls of the cache.** -/
theorem getClient_refines (service : AwsService) (project : Project) :
    (AwsClientFactory.getClient service project factory).1 =
        (memoCall buildClient (service, project) (cache factory)).1 ∧
      cache (AwsClientFactory.getClient service project factory).2 =
        (memoCall buildClient (service, project) (cache factory)).2 := by
  cases service with
  | cloudformation =>
    apply getOrCreate_refines project rfl _ rfl
    intro client
    funext s
    cases s <;> rfl
  | dynamoDb =>
    apply getOrCreate_refines project rfl _ rfl
    intro client
    funext s
    cases s <;> rfl
  | s3 =>
    apply getOrCreate_refines project rfl _ rfl
    intro client
    funext s
    cases s <;> rfl
  | sqs =>
    apply getOrCreate_refines project rfl _ rfl
    intro client
    funext s
    cases s <;> rfl
  | sns =>
    apply getOrCreate_refines project rfl _ rfl
    intro client
    funext s
    cases s <;> rfl

/-- **A sequence of calls** is a run of the cache. -/
theorem getClients_refines (calls : List (AwsService × Project)) (factory : AwsClientFactory) :
    (AwsClientFactory.getClients calls factory).1 =
      (memoRun buildClient calls (cache factory)).1 := by
  induction calls generalizing factory with
  | nil => rfl
  | cons c calls ih =>
    obtain ⟨service, project⟩ := c
    obtain ⟨hclient, hcache⟩ := @getClient_refines factory service project
    rw [AwsClientFactory.getClients, memoRun, ← hclient, ← hcache, ← ih]

/-- **Clients are bound to the first caller**: each call gets the client that the first
call of the sequence for its service built, configured for the project of that call.
SRC: aws/AwsClientFactory.java:27-168 -/
theorem clients_bound_to_first_caller (calls : List (AwsService × Project)) :
    (AwsClientFactory.getClients calls {}).1 =
      calls.map fun c => buildClient c.1 (firstCall calls c).2 := by
  rw [getClients_refines, memoRun_values]
  apply List.map_congr_left
  rintro ⟨service, project⟩ _
  cases service <;> rfl

/-- Two projects with different signing regions ask for an S3 client: the second gets the
client of the first. -/
theorem clients_not_bound_to_own_project :
    ¬ ∀ calls : List (AwsService × Project),
      (AwsClientFactory.getClients calls {}).1.map AwsClient.endpointConfiguration =
        calls.map fun c => AwsClientFactory.endpointConfiguration c.2 := by
  intro h
  let dir : File := ⟨true, ["work", "app"]⟩
  have hregions := congrArg (List.map EndpointConfiguration.signingRegion)
    (h [(.s3, { rootDir := dir, projectDir := dir }),
      (.s3, { rootDir := dir, projectDir := dir
              localstack := { signingRegion := some "eu-west-1" } })])
  exact absurd hregions (by decide)

end GradleLocalstack.Analysis
