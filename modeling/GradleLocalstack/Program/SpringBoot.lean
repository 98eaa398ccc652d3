import GradleLocalstack.Model.Project
import GradleLocalstack.Model.Strings

/-!
# `SpringBootModule`

The nested `springboot` block of the extension, and the two tasks that the module adds if
the Spring Boot plugin is applied.  Of that plugin's `bootRun` task the JVM arguments are
read; the class path and the main class are left out.
-/

set_option autoImplicit false

namespace GradleLocalstack.Model.LocalStackExtension

variable (ext : LocalStackExtension)

/-- `LocalStackExtension.springboot(Closure)`: the closure configures a new block.
SRC: compose/LocalStackExtension.java:118-120 -/
def springbootClosure (c : SpringBootExtension → SpringBootExtension) : LocalStackExtension :=
  { ext with springboot := some (c {}) }

/-- `LocalStackExtension.springboot(Action)`: what the action configures is not stored.
SRC: compose/LocalStackExtension.java:122-124 -/
def springbootAction (action : SpringBootExtension → SpringBootExtension) :
    LocalStackExtension :=
  let _ := action {}
  ext

end GradleLocalstack.Model.LocalStackExtension

namespace GradleLocalstack.Program

open GradleLocalstack.Model

/-- `BootRun`. -/
structure BootRun where
  name : String
  group : Option String := none
  description : Option String := none
  dependsOn : List String := []
  mustRunAfter : List String := []
  jvmArgs : Option (List String) := none
  deriving DecidableEq

namespace SpringBootModule

/-- `String.format(BOOT_PROFILES_ARG_FORMAT, ...)`. -/
def bootProfilesArg (profiles : String) : String := s!"-Dspring.profiles.active={profiles}"

/-- `String.format(DEBUG_JVM_ARG_FORMAT, ...)`. -/
def debugJvmArg (port : ℤ) : String :=
  s!"-agentlib:jdwp=transport=dt_socket,server=y,suspend=y,address={port}"

/-- `SpringBootModule.isAutoConfigureEnabled`.
SRC: boot/SpringBootModule.java:60-67 -/
def isAutoConfigureEnabled (project : Project) : Bool :=
  match project.localstack.springboot with
  | some springboot => springboot.enabled
  | none => SpringBootExtension.defaultEnabled

/-- `SpringBootModule.applySpringBootProfilesJvmArgument`.
SRC: boot/SpringBootModule.java:132-141 -/
def applySpringBootProfilesJvmArgument (ext : LocalStackExtension) (jvmArgs : List String) :
    List String :=
  match ext.springboot with
  | some springboot =>
    match springboot.profiles with
    | some profiles =>
      if profiles ≠ [] then jvmArgs ++ [bootProfilesArg (",".intercalate profiles)] else jvmArgs
    | none => jvmArgs
  | none => jvmArgs ++ [bootProfilesArg (listToString SpringBootExtension.defaultProfiles)]

/-- `jvmArgs.addAll(arguments)`, which `null` makes throw. -/
def addAll (jvmArgs : List String) : Option (List String) → Except Throwable (List String)
  | some arguments => .ok (jvmArgs ++ arguments)
  | none => .error (.plain .nullPointerException none)

/-- The arguments that `configureBootRunLocal` sets.
SRC: boot/SpringBootModule.java:80-93 -/
def bootRunLocalJvmArgs (ext : LocalStackExtension) (appliedBootRun : BootRun) :
    Except Throwable (List String) :=
  let jvmArgs := applySpringBootProfilesJvmArgument ext (appliedBootRun.jvmArgs.getD [])
  match ext.springboot with
  | some springboot => addAll jvmArgs springboot.jvmArgs
  | none => .ok jvmArgs

/-- The arguments that `configureBootRunLocalDebug` sets.
SRC: boot/SpringBootModule.java:108-124 -/
def bootRunLocalDebugJvmArgs (ext : LocalStackExtension) (appliedBootRun : BootRun) :
    Except Throwable (List String) :=
  let jvmArgs := applySpringBootProfilesJvmArgument ext (appliedBootRun.jvmArgs.getD [])
  match ext.springboot with
  | some springboot =>
    (addAll jvmArgs springboot.jvmArgs).map (· ++ [debugJvmArg springboot.debugPort])
  | none => .ok (jvmArgs ++ [debugJvmArg SpringBootExtension.defaultDebugPort])

/-- The task `bootRunLocal`, with its arguments. -/
def bootRunLocal (jvmArgs : List String) : BootRun where
  name := "bootRunLocal"
  group := some "Application"
  description :=
    some "Runs the application locally and connects to mock AWS endpoints using LocalStack."
  dependsOn := ["startLocalStack"]
  mustRunAfter := ["startLocalStack"]
  jvmArgs := some jvmArgs

/-- The task `bootRunLocalDebug`, with its arguments. -/
def bootRunLocalDebug (jvmArgs : List String) : BootRun where
  name := "bootRunLocalDebug"
  group := some "Application"
  description := some ("Runs the application locally (with debugger) and connects to mock " ++
    "AWS endpoints using LocalStack.")
  dependsOn := ["startLocalStack"]
  mustRunAfter := ["startLocalStack"]
  jvmArgs := some jvmArgs

/-- `SpringBootModule.configureBootRunLocal`.
SRC: boot/SpringBootModule.java:69-95 -/
def configureBootRunLocal (project : Project) (appliedBootRun : BootRun) :
    Except Throwable BootRun :=
  (bootRunLocalJvmArgs project.localstack appliedBootRun).map bootRunLocal

/-- `SpringBootModule.configureBootRunLocalDebug`.
SRC: boot/SpringBootModule.java:97-126 -/
def configureBootRunLocalDebug (project : Project) (appliedBootRun : BootRun) :
    Except Throwable BootRun :=
  (bootRunLocalDebugJvmArgs project.localstack appliedBootRun).map bootRunLocalDebug

/-- `SpringBootModule.load`: the tasks that it adds.  `appliedBootRun` is the `bootRun` task
of the Spring Boot plugin, if that is applied.
SRC: boot/SpringBootModule.java:44-54 -/
def load (appliedBootRun : Option BootRun) (project : Project) :
    Except Throwable (List BootRun) :=
  match appliedBootRun with
  | some appliedBootRun =>
    if isAutoConfigureEnabled project then do
      let run ← configureBootRunLocal project appliedBootRun
      let debugRun ← configureBootRunLocalDebug project appliedBootRun
      return [run, debugRun]
    else return []
  | none => return []

end SpringBootModule

end GradleLocalstack.Program
