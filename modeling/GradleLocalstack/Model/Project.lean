import GradleLocalstack.Model.FileSystem
import GradleLocalstack.Model.Tasks

/-!
# A Gradle project, as far as the plugin looks at it

Its directories, the `localstack` extension that the plugin registers, the
`dockerCompose` extension, if the docker-compose plugin is applied, and its tasks.
-/

set_option autoImplicit false

namespace GradleLocalstack.Model

namespace SpringBootExtension

/-- `DEFAULT_ENABLED`. -/
def defaultEnabled : Bool := true

/-- `DEFAULT_DEBUG_PORT`. -/
def defaultDebugPort : ℤ := 5005

/-- `DEFAULT_PROFILES`. -/
def defaultProfiles : List String := ["local"]

/-- `DEFAULT_JVM_ARGS`. -/
def defaultJvmArgs : List String := []

end SpringBootExtension

/-- `SpringBootExtension`; a reference that was set to `null` is `none`. -/
structure SpringBootExtension where
  enabled : Bool := SpringBootExtension.defaultEnabled
  debugPort : ℤ := SpringBootExtension.defaultDebugPort
  profiles : Option (List String) := some SpringBootExtension.defaultProfiles
  jvmArgs : Option (List String) := some SpringBootExtension.defaultJvmArgs
  deriving DecidableEq

/-- `LocalStackExtension`; a reference that was set to `null` is `none`. -/
structure LocalStackExtension where
  workingDir : Option File := none
  host : Option String := some "localhost"
  port : ℤ := 4566
  signingRegion : Option String := some "us-east-1"
  springboot : Option SpringBootExtension := none
  deriving DecidableEq

/-- `ComposeExtension`. -/
structure ComposeExtension where
  useComposeFiles : Option (List String) := some []
  dockerComposeWorkingDirectory : Option String := none
  deriving DecidableEq

/-- A Gradle project: its directories, the settings of the plugin, and its tasks. -/
structure Project where
  rootDir : File
  projectDir : File
  localstack : LocalStackExtension := {}
  dockerCompose : Option ComposeExtension := some {}
  tasks : TaskContainer := {}
  deriving DecidableEq

end GradleLocalstack.Model
