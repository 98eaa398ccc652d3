import GradleLocalstack.Program.ComposeFile

/-!
# The data directory

`cleanLocalStack` deletes `.localstack` in the LocalStack directory, which
`LocalStackDir.getDirectory` finds anew at each run.
-/

set_option autoImplicit false

namespace GradleLocalstack.Program

open Foundation GradleLocalstack.Model

/-- What keeps a directory from being deleted: the entries that stay, and the `IOException`
that is thrown if there are any. -/
structure Refusal where
  held : List Path
  error : JavaException

namespace LocalStackDir

variable (cwd : Path)

/-- `LocalStackDir.DATA_SUBDIRECTORY_NAME`. -/
def dataSubdirectoryName : String := ".localstack"

/-- `FileUtils.deleteDirectory`: everything is deleted that can be; what stays is an
`IOException`. -/
def deleteDirectory (refusal : Refusal) (directory : Path) : Prog FileWorld Throwable Unit :=
  fun w =>
    let files := w.files.deleteDirectory directory refusal.held
    if files.contains directory then (.thrown refusal.error.val, { w with files := files })
    else (.returned (), { w with files := files })

/-- The directories that `deleteData` finds, none if there is nothing to list.
SRC: core/LocalStackDir.java:92-94 -/
def dataDirectories (project : Project) : Prog FileWorld Throwable (Option (List Path)) := fun w =>
  (.returned (w.files.listDirectories
    ((getDirectory cwd w.files project).resolve cwd) dataSubdirectoryName), w)

/-- What `deleteData` does with the directories that it found.
SRC: core/LocalStackDir.java:96-102 -/
def deleteFound (refusal : Refusal) : Option (List Path) → Prog FileWorld Throwable Unit
  | some [dir] =>
    -- what `deleteDirectory` throws is the `IOException` that is caught here
    tryCatch (deleteDirectory refusal dir) fun e =>
      throw (.causedBy .gradleException
        (some "Error deleting the LocalStack data sub-directory") e)
  | _ => pure ()

/-- `LocalStackDir.deleteData`.
SRC: core/LocalStackDir.java:91-103 -/
def deleteData (project : Project) (refusal : Refusal) : Prog FileWorld Throwable Unit := do
  let dirs ← dataDirectories cwd project
  deleteFound refusal dirs

end LocalStackDir

namespace LocalStackModule

/-- The action of `cleanLocalStack`.
SRC: compose/LocalStackModule.java:101-104 -/
def cleanLocalStack (cwd : Path) (project : Project) (refusal : Refusal) :
    Prog FileWorld Throwable Unit := do
  log "Cleaning the LocalStack data directory"
  LocalStackDir.deleteData cwd project refusal

end LocalStackModule

/-- The tasks that work on files, each with what the operating system makes of it. -/
inductive FileTask where
  | initLocalStack (resourceStream : Option String) (failure : Option CopyFailure)
  | cleanLocalStack (refusal : Refusal)

/-- The action of the task. -/
def FileTask.run (cwd : Path) (project : Project) : FileTask → Prog FileWorld Throwable Unit
  | initLocalStack resourceStream failure =>
    InitLocalStackTask.run cwd project resourceStream failure
  | cleanLocalStack refusal => LocalStackModule.cleanLocalStack cwd project refusal

end GradleLocalstack.Program
