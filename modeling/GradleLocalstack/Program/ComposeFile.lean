import GradleLocalstack.Model.Project

/-!
# The compose file

`initLocalStack` writes `localstack-docker-compose.yml`, and
`configureDockerComposePlugin` looks for it.  Each has its own way to find the directory:
`configDestination` for the writer and `LocalStackDir.getDirectory` for the reader.
-/

set_option autoImplicit false

namespace GradleLocalstack.Program

open Foundation GradleLocalstack.Model

/-- `LocalStackDir.DEFAULT_LOCALSTACK_DIR_NAME`. -/
def LocalStackDir.defaultLocalstackDirName : String := "localstack"

/-- The world of a task that works on files. -/
structure FileWorld where
  files : FileSystem
  console : List Output

/-- The console is part of the world. -/
instance : Console FileWorld where
  emit o w := { w with console := w.console ++ [o] }

/-- What may end a copy to a file before its time. -/
inductive CopyFailure where
  /-- The file is not opened: of the directories above it, so many names of the path have been
  made. -/
  | opening (directories : ℕ) (error : JavaException)
  /-- The file is opened, and not all of the stream has been written to it. -/
  | copying (written : String) (error : JavaException)

namespace InitLocalStackTask

variable (cwd : Path)

/-- `InitLocalStackTask.DEFAULT_LOCALSTACK_DOCKER_COMPOSE_FILE_NAME`. -/
def defaultLocalstackDockerComposeFileName : String := "localstack-docker-compose.yml"

/-- The directory part of `configDestination`.
SRC: compose/InitLocalStackTask.java:48-56 -/
def configDirectory (project : Project) : File :=
  match project.localstack.workingDir with
  | some workingDir => workingDir.getAbsolutePath cwd
  | none => project.projectDir.child LocalStackDir.defaultLocalstackDirName

/-- `InitLocalStackTask.configDestination`.
SRC: compose/InitLocalStackTask.java:48-57 -/
def configDestination (project : Project) : File :=
  (configDirectory cwd project).child defaultLocalstackDockerComposeFileName

/-- `FileUtils.openOutputStream`, where no file can be written. -/
def openError (files : FileSystem) (configDest : File) : Throwable :=
  .plain .ioException (some
    (if files.isDirectory (configDest.resolve cwd) then
      s!"File '{configDest.getPath}' exists but is a directory"
    else s!"Directory '{configDest.getParentFile.getPath}' could not be created"))

/-- `FileUtils.copyInputStreamToFile`: the directories above the file are made and the file is
opened, which empties it, before anything is read; so a stream that is `null` leaves an empty
file, and a copy that fails leaves what it has made and written. -/
def copyInputStreamToFile (resourceStream : Option String) (failure : Option CopyFailure)
    (configDest : File) : Prog FileWorld Throwable Unit := fun w =>
  let path := configDest.resolve cwd
  if h : w.files.Writable path then
    match failure, resourceStream with
    | some (.opening directories e), _ =>
      (.thrown e.val, { w with files := w.files.makeDirectories (path.dropLast.take directories) })
    | _, none =>
      (.thrown (.plain .nullPointerException none), { w with files := w.files.write path "" h })
    | some (.copying written e), some _ =>
      (.thrown e.val, { w with files := w.files.write path written h })
    | none, some content => (.returned (), { w with files := w.files.write path content h })
  else (.thrown (openError cwd w.files configDest), w)

/-- `configDest.exists()`. -/
def destinationExists (configDest : File) : Prog FileWorld Throwable Bool := fun w =>
  (.returned (w.files.contains (configDest.resolve cwd)), w)

/-- `InitLocalStackTask.run`.
SRC: compose/InitLocalStackTask.java:30-46 -/
def run (project : Project) (resourceStream : Option String)
    (failure : Option CopyFailure) : Prog FileWorld Throwable Unit := do
  log "Initializing LocalStack"
  let configDest := configDestination cwd project
  tryCatch
    (do
      let taken ← destinationExists cwd configDest
      if taken then
        throw (.plain .fileExistsException (some s!"File {configDest.getPath} exists"))
      else copyInputStreamToFile cwd resourceStream failure configDest)
    fun e =>
      if e.isException then
        throw (.causedBy .gradleException (some "Unable to initialize LocalStack") e)
      else throw e

end InitLocalStackTask

namespace LocalStackDir

variable (cwd : Path)

/-- The working directory of the docker-compose plugin, if one is set.
SRC: core/LocalStackDir.java:44-53 -/
def dockerComposeDirectory (project : Project) : Option File :=
  match project.dockerCompose with
  | some dockerCompose =>
    match dockerCompose.dockerComposeWorkingDirectory with
    | some workingDirectory =>
      if workingDirectory ≠ "" then some (File.ofString workingDirectory) else none
    | none => none
  | none => none

/-- `LocalStackDir.getDirectory`.
SRC: core/LocalStackDir.java:42-74 -/
def getDirectory (files : FileSystem) (project : Project) : File :=
  match dockerComposeDirectory project with
  | some directory => directory
  | none =>
    match files.listDirectories (project.rootDir.resolve cwd) defaultLocalstackDirName with
    | some [_] => project.rootDir.child defaultLocalstackDirName
    | _ =>
      match project.localstack.workingDir with
      | some workingDir => workingDir
      | none => (project.rootDir.getAbsolutePath cwd).child defaultLocalstackDirName

end LocalStackDir

namespace LocalStackModule

variable (cwd : Path)

/-- The file that `configureDockerComposePlugin` probes.
SRC: compose/LocalStackModule.java:154 -/
def composeFile (files : FileSystem) (project : Project) : File :=
  ((LocalStackDir.getDirectory cwd files project).getAbsolutePath cwd).child
    InitLocalStackTask.defaultLocalstackDockerComposeFileName

/-- `LocalStackModule.configureDockerComposePlugin`.
SRC: compose/LocalStackModule.java:147-162 -/
def configureDockerComposePlugin (files : FileSystem) (project : Project) : Project :=
  match project.dockerCompose with
  | none => project
  | some composeExt =>
    if composeExt.useComposeFiles = some [] ∧
        files.contains ((composeFile cwd files project).resolve cwd) = true then
      let composeFiles := [((composeFile cwd files project).getAbsolutePath cwd).getPath]
      { project with dockerCompose := some { composeExt with useComposeFiles := composeFiles } }
    else project

end LocalStackModule

end GradleLocalstack.Program
