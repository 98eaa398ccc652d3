import GradleLocalstack.Analysis.ComposeFile
import GradleLocalstack.Program.LocalStackData

/-!
# What `initLocalStack` and `cleanLocalStack` do to the disk over time

A session is any number of runs of the two tasks, however they end, and LocalStack itself
storing what it likes in the data directories meanwhile.  Where `LocalStackDir.getDirectory`
looks can change on the way, as `initLocalStack` makes directories.  Outside the data
directories a session only ever adds the compose file, so a project that was initialized stays
so.
-/

set_option autoImplicit false

namespace GradleLocalstack.Analysis

open Foundation GradleLocalstack.Model GradleLocalstack.Program

variable {cwd : Path} {project : Project} {files files' : FileSystem} {w : FileWorld}

/-! ## Where the data can be -/

/-- The directories that `LocalStackDir.getDirectory` may find. -/
def workingDirectories (cwd : Path) (project : Project) : List Path :=
  match LocalStackDir.dockerComposeDirectory project with
  | some directory => [directory.resolve cwd]
  | none => rootLocalstack cwd project ::
      (project.localstack.workingDir.map fun workingDir => workingDir.resolve cwd).toList

/-- The data directory that `deleteData` finds. -/
def dataDirectory (cwd : Path) (files : FileSystem) (project : Project) : Path :=
  (LocalStackDir.getDirectory cwd files project).resolve cwd ++
    [LocalStackDir.dataSubdirectoryName]

/-- The path lies in no data directory. -/
def OutsideData (cwd : Path) (project : Project) (q : Path) : Prop :=
  ∀ d ∈ workingDirectories cwd project, ¬ d ++ [LocalStackDir.dataSubdirectoryName] <+: q

/-- Whether a path lies outside is decided by the two or fewer directories. -/
instance (q : Path) : Decidable (OutsideData cwd project q) :=
  inferInstanceAs (Decidable (∀ d ∈ workingDirectories cwd project, _))

/-- What `getDirectory` finds is one of the working directories. -/
theorem getDirectory_mem (files : FileSystem) :
    (LocalStackDir.getDirectory cwd files project).resolve cwd ∈
      workingDirectories cwd project := by
  rw [resolve_getDirectory]
  unfold workingDirectories
  cases LocalStackDir.dockerComposeDirectory project with
  | some directory => exact List.mem_singleton_self _
  | none =>
    cases project.localstack.workingDir with
    | none => simp
    | some workingDir => by_cases h : files.isDirectory (rootLocalstack cwd project) <;> simp [h]

/-- What lies outside is not in the data directory that is found. -/
theorem OutsideData.not_in_dataDirectory {q : Path} (h : OutsideData cwd project q)
    (files : FileSystem) : ¬ dataDirectory cwd files project <+: q :=
  h _ (getDirectory_mem files)

/-- The reader's directory depends on whether there is `localstack` in the root. -/
theorem resolve_getDirectory_congr
    (h : files'.isDirectory (rootLocalstack cwd project) =
      files.isDirectory (rootLocalstack cwd project)) :
    (LocalStackDir.getDirectory cwd files' project).resolve cwd =
      (LocalStackDir.getDirectory cwd files project).resolve cwd := by
  rw [resolve_getDirectory, resolve_getDirectory, h]

/-! ## The runs of the two tasks -/

/-- **Deleting**: everything is gone, or what the operating system did not give up stays. -/
theorem wp_deleteDirectory (refusal : Refusal) (dir : Path) :
    (LocalStackDir.deleteDirectory refusal dir).wp
      (fun _ w' => w'.files = w.files.deleteDirectory dir refusal.held ∧
        w'.files.contains dir = false)
      (fun _ w' => w'.files = w.files.deleteDirectory dir refusal.held) w := by
  unfold LocalStackDir.deleteDirectory Prog.wp
  cases hcontains : (w.files.deleteDirectory dir refusal.held).contains dir with
  | true =>
    simp only [hcontains, if_true]
  | false =>
    simp only [hcontains, Bool.false_eq_true, if_false]
    exact ⟨trivial, trivial⟩

/-- Where there is nothing there is no directory. -/
theorem isDirectory_of_not_contains {q : Path} (h : files.contains q = false) :
    files.isDirectory q = false := by
  have hnone : files.node q = none := by simpa [FileSystem.contains] using h
  simp [FileSystem.isDirectory, hnone]

/-- **The run of `cleanLocalStack`**: when it returns there is no data directory where it
looked, and however it ends it has done nothing but delete in there. -/
theorem wp_cleanLocalStack (refusal : Refusal) :
    (LocalStackModule.cleanLocalStack cwd project refusal).wp
      (fun _ w' => (w'.files = w.files ∨
          w'.files = w.files.deleteDirectory (dataDirectory cwd w.files project) refusal.held) ∧
        w'.files.isDirectory (dataDirectory cwd w.files project) = false)
      (fun _ w' => w'.files =
        w.files.deleteDirectory (dataDirectory cwd w.files project) refusal.held) w := by
  unfold LocalStackModule.cleanLocalStack LocalStackDir.deleteData
  simp only [Prog.wp_bind, wp_log]
  change Prog.wp (LocalStackDir.deleteFound refusal (w.files.listDirectories
    ((LocalStackDir.getDirectory cwd w.files project).resolve cwd)
    LocalStackDir.dataSubdirectoryName)) _ _ _
  cases hdir : w.files.isDirectory (dataDirectory cwd w.files project) with
  | true =>
    rw [listDirectories_of_isDirectory hdir, LocalStackDir.deleteFound, Prog.wp_tryCatch]
    refine Prog.wp_mono (wp_deleteDirectory refusal _) ?_ (fun _ _ hfiles => hfiles)
    rintro _ w' ⟨hfiles, hgone⟩
    exact ⟨.inr hfiles, isDirectory_of_not_contains hgone⟩
  | false =>
    unfold LocalStackDir.deleteFound
    split
    · rename_i dir hlist
      exact absurd hlist (listDirectories_of_not_isDirectory hdir dir)
    · exact ⟨.inl rfl, hdir⟩

/-! ## What a session keeps -/

/-- Outside the data directories, everything that was there is as it was, and what is new is
the compose file or a directory above it. -/
structure FilesKept (cwd : Path) (project : Project) (files files' : FileSystem) : Prop where
  kept : ∀ q, OutsideData cwd project q → ∀ n, files.node q = some n → files'.node q = some n
  made : ∀ q, OutsideData cwd project q → files.node q = none →
    files'.node q = none ∨ q <+: composePath cwd project

namespace FilesKept

/-- A disk that has not changed. -/
theorem refl (files : FileSystem) : FilesKept cwd project files files :=
  ⟨fun _ _ _ h => h, fun _ _ h => .inl h⟩

/-- Two parts of a session. -/
theorem trans {files₁ files₂ files₃ : FileSystem} (h : FilesKept cwd project files₁ files₂)
    (h' : FilesKept cwd project files₂ files₃) : FilesKept cwd project files₁ files₃ where
  kept q hq n hn := h'.kept q hq n (h.kept q hq n hn)
  made q hq hnone := by
    rcases h.made q hq hnone with hstill | hprefix
    · exact h'.made q hq hstill
    · exact .inr hprefix

/-- A write to a free place adds the file and the directories above it. -/
theorem of_initialized {content : String} (h : FilesInitialized cwd project content files files') :
    FilesKept cwd project files files' := by
  obtain ⟨hfree, hwritable, rfl⟩ := h
  constructor
  · intro q _ n hn
    rw [FileSystem.node_write]
    have hne : q ≠ composePath cwd project := by
      rintro rfl
      rw [hfree] at hn
      cases hn
    rw [if_neg hne]
    split
    · rename_i hprefix
      rcases hwritable.2 q ((List.mem_inits _ _).mpr hprefix) hne with hnone | hdirectory
      · rw [hnone] at hn
        cases hn
      · rw [← hn, hdirectory]
    · exact hn
  · intro q _ hnone
    by_cases hprefix : q <+: composePath cwd project
    · exact .inr hprefix
    · left
      have hne : q ≠ composePath cwd project := by
        rintro rfl
        exact hprefix List.prefix_rfl
      rw [FileSystem.node_write, if_neg hne, if_neg hprefix, hnone]

/-- A write that was abandoned adds no more than that. -/
theorem of_abandoned (h : FilesAbandoned cwd project files files') :
    FilesKept cwd project files files' := by
  cases h with
  | unchanged h =>
    rw [h]
    exact .refl files
  | opening directories hwritable h =>
    subst h
    constructor
    · intro q _ n hn
      exact hwritable.makeDirectories_kept directories hn
    · intro q _ hnone
      rw [FileSystem.node_makeDirectories]
      split
      · rename_i hprefix
        right
        exact hprefix.trans ((List.take_prefix _ _).trans (List.dropLast_prefix _))
      · exact .inl hnone
  | copying written h => exact .of_initialized h

/-- What only happens in data directories keeps what lies outside. -/
theorem of_outside_eq (h : ∀ q, OutsideData cwd project q → files'.node q = files.node q) :
    FilesKept cwd project files files' where
  kept q hq _ hn := (h q hq).trans hn
  made q hq hnone := .inl ((h q hq).trans hnone)

/-- Each of the two tasks keeps what lies outside the data directories. -/
theorem of_run (task : FileTask) (w : FileWorld) :
    FilesKept cwd project w.files (task.run cwd project w).2.files := by
  refine (Prog.wp_ended (P := fun w' : FileWorld => FilesKept cwd project w.files w'.files) ?_).2
  cases task with
  | initLocalStack resourceStream failure =>
    refine Prog.wp_mono (wp_initLocalStack resourceStream failure) ?_ ?_
    · rintro _ w' ⟨content, -, hinitialized⟩
      exact .of_initialized hinitialized
    · intro e w' habandoned
      exact .of_abandoned habandoned
  | cleanLocalStack refusal =>
    have hdeleted : FilesKept cwd project w.files
        (w.files.deleteDirectory (dataDirectory cwd w.files project) refusal.held) :=
      .of_outside_eq fun q hq =>
        FileSystem.node_deleteDirectory _ (hq.not_in_dataDirectory w.files)
    refine Prog.wp_mono (wp_cleanLocalStack refusal) ?_ ?_
    · rintro _ w' ⟨hfiles | hfiles, -⟩
      · rw [hfiles]
        exact .refl w.files
      · rw [hfiles]
        exact hdeleted
    · intro e w' hfiles
      rw [hfiles]
      exact hdeleted

end FilesKept

/-- One step of a session: a task runs, or LocalStack stores in the data directories. -/
inductive FileStep (cwd : Path) (project : Project) : FileSystem → FileSystem → Prop
  | task (task : FileTask) (w : FileWorld) :
      FileStep cwd project w.files (task.run cwd project w).2.files
  | stored {files files' : FileSystem}
      (h : ∀ q, OutsideData cwd project q → files'.node q = files.node q) :
      FileStep cwd project files files'

/-- **A session keeps what lies outside the data directories**, and adds nothing but the
compose file with the directories above it, however its runs end and wherever they are cut short.
SRC: compose/InitLocalStackTask.java:30-57, core/LocalStackDir.java:42-103,
compose/LocalStackModule.java:95-107 -/
theorem session_files_kept (cwd : Path) (project : Project) (files files' : FileSystem)
    (hsession : Relation.ReflTransGen (FileStep cwd project) files files') :
    FilesKept cwd project files files' := by
  induction hsession with
  | refl => exact .refl files
  | tail _ hstep ih =>
    apply ih.trans
    cases hstep with
    | task task w => exact .of_run task w
    | stored h => exact .of_outside_eq h

/-- Nothing resists to be deleted. -/
def noRefusal : Refusal := ⟨[], ⟨.plain .ioException none, rfl⟩⟩

/-- A disk on which LocalStack has stored something. -/
def usedDisk : FileSystem :=
  sampleDisk.write ["work", "app", "localstack", ".localstack", "data"] "" (by decide)

/-- `build.gradle` outlives `cleanLocalStack`. -/
theorem session_files_kept_clean :
    FilesKept [] rootProject usedDisk
      ((FileTask.cleanLocalStack noRefusal).run [] rootProject ⟨usedDisk, []⟩).2.files :=
  session_files_kept [] rootProject usedDisk _
    (.single (.task (.cleanLocalStack noRefusal) ⟨usedDisk, []⟩))

/-- Without the template on the class path an empty compose file is left. -/
example : (InitLocalStackTask.run [] rootProject none none ⟨sampleDisk, []⟩).2.files.node
    ["work", "app", "localstack", "localstack-docker-compose.yml"] = some (.file "") := by decide

/-- **A project that was initialized stays configured.**  After `initLocalStack` returned, with
settings that agree and neither the compose file nor the root's `localstack` in a data
directory, every session leaves the file as it was written, and the docker-compose plugin is
configured with it.
SRC: compose/InitLocalStackTask.java:30-57, core/LocalStackDir.java:42-103,
compose/LocalStackModule.java:95-107, 147-162 -/
theorem initialized_project_stays_configured (cwd : Path) (project : Project)
    (resourceStream : Option String) (failure : Option CopyFailure) (w w' : FileWorld)
    (hrun : InitLocalStackTask.run cwd project resourceStream failure w = (.returned (), w'))
    (hagree : SettingsAgree cwd w.files project)
    (hcompose : OutsideData cwd project (composePath cwd project))
    (hroot : OutsideData cwd project (rootLocalstack cwd project))
    (composeExt : ComposeExtension) (hext : project.dockerCompose = some composeExt)
    (hunset : composeExt.useComposeFiles = some []) (files : FileSystem)
    (hsession : Relation.ReflTransGen (FileStep cwd project) w'.files files) :
    files.node (composePath cwd project) = resourceStream.map FileNode.file ∧
      ∃ f : File, f.resolve cwd = composePath cwd project ∧
        (LocalStackModule.configureDockerComposePlugin cwd files project).dockerCompose =
          some { composeExt with useComposeFiles := some [f.getPath] } := by
  obtain ⟨content, hstream, hinitialized⟩ :=
    Prog.wp_returned (wp_initLocalStack resourceStream failure) hrun
  obtain ⟨-, hwritable, hfiles⟩ := hinitialized
  have hkept := session_files_kept cwd project w'.files files hsession
  have hwritten : w'.files.node (composePath cwd project) = some (.file content) := by
    rw [hfiles, FileSystem.node_write, if_pos rfl]
  have hthere := hkept.kept _ hcompose _ hwritten
  -- nothing makes or removes `localstack` in the root any more
  have hdirectory : files.isDirectory (rootLocalstack cwd project) =
      w'.files.isDirectory (rootLocalstack cwd project) := by
    unfold FileSystem.isDirectory
    cases hnode : w'.files.node (rootLocalstack cwd project) with
    | some n => rw [hkept.kept _ hroot n hnode]
    | none =>
      rcases hkept.made _ hroot hnode with hstill | hprefix
      · rw [hstill]
      · rw [hfiles, FileSystem.node_write] at hnode
        split at hnode
        · cases hnode
        · cases hnode
  have hprobe : (LocalStackModule.composeFile cwd files project).resolve cwd =
      composePath cwd project := by
    have hbefore := (resolve_composeFile_eq_iff hfiles).mpr hagree
    have hsame := resolve_getDirectory_congr hdirectory
    unfold LocalStackModule.composeFile at hbefore ⊢
    rw [resolve_child_composeFile, File.resolve_getAbsolutePath] at hbefore ⊢
    rw [hsame, hbefore]
    rfl
  have hcontains : files.contains ((LocalStackModule.composeFile cwd files project).resolve cwd) =
      true := by
    unfold FileSystem.contains
    rw [hprobe, hthere]
    rfl
  refine ⟨by rw [hthere, hstream]; rfl, ?_⟩
  refine ⟨(LocalStackModule.composeFile cwd files project).getAbsolutePath cwd, ?_, ?_⟩
  · rw [File.resolve_getAbsolutePath, hprobe]
  · unfold LocalStackModule.configureDockerComposePlugin
    rw [hext]
    dsimp only
    rw [if_pos ⟨hunset, hcontains⟩]

/-- The root project, initialized and cleaned. -/
theorem initialized_project_stays_configured_clean : ∃ files : FileSystem,
    files.node (composePath [] rootProject) = some (.file "version: '3'") ∧
      ∃ f : File, f.resolve [] = composePath [] rootProject ∧
        (LocalStackModule.configureDockerComposePlugin [] files rootProject).dockerCompose =
          some { useComposeFiles := some [f.getPath] } :=
  ⟨_, initialized_project_stays_configured [] rootProject (some "version: '3'") none
    ⟨sampleDisk, []⟩ _ (Prod.ext (by decide) rfl) rfl (by decide) (by decide) {} rfl rfl _
    (.single (.task (.cleanLocalStack noRefusal) ⟨_, []⟩))⟩

end GradleLocalstack.Analysis
