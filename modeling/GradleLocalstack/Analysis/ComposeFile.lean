import GradleLocalstack.Program.ComposeFile

/-!
# Where the compose file is written and where it is looked for

The writer takes the configured working directory, or `localstack` in the project
directory.  The reader takes the working directory of the docker-compose plugin, or
`localstack` in the root directory if that is a directory, or the configured working
directory, or `localstack` in the root directory.  What the writer does can decide where
the reader looks: it makes the directories above the file.
-/

set_option autoImplicit false

namespace GradleLocalstack.Analysis

open Foundation GradleLocalstack.Model GradleLocalstack.Program

variable {cwd : Path} {project : Project} {files : FileSystem} {w : FileWorld}

/-- `localstack` in the root directory. -/
def rootLocalstack (cwd : Path) (project : Project) : Path :=
  project.rootDir.resolve cwd ++ [LocalStackDir.defaultLocalstackDirName]

/-- The directory `localstack` in a directory. -/
theorem resolve_child_localstack (f : File) :
    (f.child LocalStackDir.defaultLocalstackDirName).resolve cwd =
      f.resolve cwd ++ [LocalStackDir.defaultLocalstackDirName] :=
  File.resolve_child cwd f (by decide) (by decide)

/-- The compose file in a directory. -/
theorem resolve_child_composeFile (f : File) :
    (f.child InitLocalStackTask.defaultLocalstackDockerComposeFileName).resolve cwd =
      f.resolve cwd ++ [InitLocalStackTask.defaultLocalstackDockerComposeFileName] :=
  File.resolve_child cwd f (by decide) (by decide)

/-- **The writer's directory.** -/
theorem resolve_configDirectory :
    (InitLocalStackTask.configDirectory cwd project).resolve cwd =
      match project.localstack.workingDir with
      | some workingDir => workingDir.resolve cwd
      | none => project.projectDir.resolve cwd ++ [LocalStackDir.defaultLocalstackDirName] := by
  unfold InitLocalStackTask.configDirectory
  cases project.localstack.workingDir with
  | some workingDir => exact File.resolve_getAbsolutePath cwd workingDir
  | none => exact resolve_child_localstack _

/-- The filtered listing has one entry exactly if there is such a directory. -/
theorem listDirectories_of_isDirectory {p : Path} {name : String}
    (h : files.isDirectory (p ++ [name]) = true) :
    files.listDirectories p name = some [p ++ [name]] := by
  have hnode : files.node (p ++ [name]) = some .directory := of_decide_eq_true h
  have hparent : files.isDirectory p = true := by
    apply decide_eq_true
    apply files.parent p name
    rw [hnode]
    simp
  unfold FileSystem.listDirectories
  rw [if_pos hparent, if_pos h]

/-- The filtered listing has not one entry if there is no such directory. -/
theorem listDirectories_of_not_isDirectory {p : Path} {name : String}
    (h : files.isDirectory (p ++ [name]) = false) (d : Path) :
    files.listDirectories p name ≠ some [d] := by
  unfold FileSystem.listDirectories
  rw [h]
  split
  · simp
  · simp

/-- **The reader's directory.** -/
theorem resolve_getDirectory (files : FileSystem) :
    (LocalStackDir.getDirectory cwd files project).resolve cwd =
      match LocalStackDir.dockerComposeDirectory project with
      | some directory => directory.resolve cwd
      | none =>
        if files.isDirectory (rootLocalstack cwd project) then rootLocalstack cwd project
        else
          match project.localstack.workingDir with
          | some workingDir => workingDir.resolve cwd
          | none => rootLocalstack cwd project := by
  unfold LocalStackDir.getDirectory
  cases LocalStackDir.dockerComposeDirectory project with
  | some directory => rfl
  | none =>
    dsimp only
    cases hdir : files.isDirectory (rootLocalstack cwd project) with
    | true =>
      rw [listDirectories_of_isDirectory hdir, if_pos rfl]
      exact resolve_child_localstack project.rootDir
    | false =>
      rw [if_neg Bool.false_ne_true]
      split
      · rename_i d hlist
        exact absurd hlist (listDirectories_of_not_isDirectory hdir d)
      · cases project.localstack.workingDir with
        | some workingDir => rfl
        | none =>
          show ((project.rootDir.getAbsolutePath cwd).child _).resolve cwd = _
          rw [resolve_child_localstack, File.resolve_getAbsolutePath]
          rfl

/-- The path of the compose file. -/
def composePath (cwd : Path) (project : Project) : Path :=
  (InitLocalStackTask.configDestination cwd project).resolve cwd

/-- The compose file was written where nothing was. -/
def FilesInitialized (cwd : Path) (project : Project) (content : String)
    (files files' : FileSystem) : Prop :=
  files.node (composePath cwd project) = none ∧
    ∃ h, files' = files.write (composePath cwd project) content h

/-- What a run of `initLocalStack` leaves that throws. -/
inductive FilesAbandoned (cwd : Path) (project : Project) (files files' : FileSystem) : Prop
  /-- Nothing has been made. -/
  | unchanged (h : files' = files)
  /-- Some of the directories above the compose file have been made. -/
  | opening (directories : ℕ) (hwritable : files.Writable (composePath cwd project))
      (h : files' = files.makeDirectories ((composePath cwd project).dropLast.take directories))
  /-- The compose file is there, with what has been written by then. -/
  | copying (written : String) (h : FilesInitialized cwd project written files files')

/-- **The copy**, to a place where nothing is. -/
theorem wp_copyInputStreamToFile (resourceStream : Option String) (failure : Option CopyFailure)
    (hfree : w.files.contains (composePath cwd project) = false) :
    (InitLocalStackTask.copyInputStreamToFile cwd resourceStream failure
      (InitLocalStackTask.configDestination cwd project)).wp
      (fun _ w' => ∃ content, resourceStream = some content ∧
        FilesInitialized cwd project content w.files w'.files)
      (fun _ w' => FilesAbandoned cwd project w.files w'.files) w := by
  have hnone : w.files.node (composePath cwd project) = none := by
    simpa [FileSystem.contains] using hfree
  unfold InitLocalStackTask.copyInputStreamToFile Prog.wp
  by_cases h : w.files.Writable ((InitLocalStackTask.configDestination cwd project).resolve cwd)
  · simp only [dif_pos h]
    -- what is left depends on how far the copy gets
    match failure, resourceStream with
    | some (.opening directories e), none => exact .opening directories h rfl
    | some (.opening directories e), some _ => exact .opening directories h rfl
    | none, none => exact .copying "" ⟨hnone, h, rfl⟩
    | some (.copying _ _), none => exact .copying "" ⟨hnone, h, rfl⟩
    | some (.copying written e), some _ => exact .copying written ⟨hnone, h, rfl⟩
    | none, some content => exact ⟨content, rfl, hnone, h, rfl⟩
  · simp only [dif_neg h]
    exact .unchanged rfl

/-- **The run of `initLocalStack`**: when it returns it has written the file where nothing was,
and when it throws it has left what it had made by then. -/
theorem wp_initLocalStack (resourceStream : Option String) (failure : Option CopyFailure) :
    (InitLocalStackTask.run cwd project resourceStream failure).wp
      (fun _ w' => ∃ content, resourceStream = some content ∧
        FilesInitialized cwd project content w.files w'.files)
      (fun _ w' => FilesAbandoned cwd project w.files w'.files) w := by
  unfold InitLocalStackTask.run
  simp only [Prog.wp_bind, wp_log, Prog.wp_tryCatch]
  have hcatch : ∀ (e : Throwable) (w' : FileWorld), FilesAbandoned cwd project w.files w'.files →
      (if e.isException = true then
        throw (.causedBy .gradleException (some "Unable to initialize LocalStack") e)
        else throw e : Prog FileWorld Throwable Unit).wp
        (fun _ w' => ∃ content, resourceStream = some content ∧
          FilesInitialized cwd project content w.files w'.files)
        (fun _ w' => FilesAbandoned cwd project w.files w'.files) w' := by
    intro e w' hfiles
    split
    · exact hfiles
    · exact hfiles
  change Prog.wp (if w.files.contains (composePath cwd project) = true then _ else _) _ _ _
  split
  · rw [Prog.wp_throw]
    exact hcatch _ _ (.unchanged rfl)
  · rename_i htaken
    rw [Bool.not_eq_true] at htaken
    exact Prog.wp_mono (wp_copyInputStreamToFile resourceStream failure htaken)
      (fun _ _ hq => hq) hcatch

/-- After the file has been written below `p`, the root's `localstack` is a directory if it
was one before or lies above `p`. -/
theorem isDirectory_rootLocalstack_write {p : Path} {content : String}
    {h : files.Writable (p ++ [InitLocalStackTask.defaultLocalstackDockerComposeFileName])} :
    (files.write (p ++ [InitLocalStackTask.defaultLocalstackDockerComposeFileName])
        content h).isDirectory (rootLocalstack cwd project) = true ↔
      rootLocalstack cwd project <+: p ∨
        files.isDirectory (rootLocalstack cwd project) = true := by
  have hne : rootLocalstack cwd project ≠
      p ++ [InitLocalStackTask.defaultLocalstackDockerComposeFileName] := by
    intro heq
    have hlast := (List.append_inj_right' heq rfl)
    exact absurd hlast (by decide)
  rw [FileSystem.isDirectory_write, List.prefix_concat_iff]
  simp [hne]

/-- The settings for which the reader looks where the writer writes, given what lies on the
disk before. -/
def SettingsAgree (cwd : Path) (files : FileSystem) (project : Project) : Prop :=
  match LocalStackDir.dockerComposeDirectory project, project.localstack.workingDir with
  | some directory, some workingDir => directory.resolve cwd = workingDir.resolve cwd
  | some directory, none => directory.resolve cwd =
      project.projectDir.resolve cwd ++ [LocalStackDir.defaultLocalstackDirName]
  | none, some workingDir => workingDir.resolve cwd = rootLocalstack cwd project ∨
      (files.isDirectory (rootLocalstack cwd project) = false ∧
        ¬ rootLocalstack cwd project <+: workingDir.resolve cwd)
  | none, none => project.projectDir.resolve cwd = project.rootDir.resolve cwd

/-- After the file has been written, the reader looks for it where it is if the settings
agreed before. -/
theorem resolve_composeFile_eq_iff {content : String} {files' : FileSystem}
    {h : files.Writable ((InitLocalStackTask.configDestination cwd project).resolve cwd)}
    (hfiles : files' = files.write
      ((InitLocalStackTask.configDestination cwd project).resolve cwd) content h) :
    (LocalStackModule.composeFile cwd files' project).resolve cwd =
        (InitLocalStackTask.configDestination cwd project).resolve cwd ↔
      SettingsAgree cwd files project := by
  have hdest : (InitLocalStackTask.configDestination cwd project).resolve cwd =
      (InitLocalStackTask.configDirectory cwd project).resolve cwd ++
        [InitLocalStackTask.defaultLocalstackDockerComposeFileName] :=
    resolve_child_composeFile _
  have hprobe : (LocalStackModule.composeFile cwd files' project).resolve cwd =
      (LocalStackDir.getDirectory cwd files' project).resolve cwd ++
        [InitLocalStackTask.defaultLocalstackDockerComposeFileName] := by
    unfold LocalStackModule.composeFile
    rw [resolve_child_composeFile, File.resolve_getAbsolutePath]
  rw [hdest, hprobe, List.append_left_inj, resolve_getDirectory, resolve_configDirectory]
  unfold SettingsAgree
  cases hdocker : LocalStackDir.dockerComposeDirectory project with
  | some directory =>
    cases hworking : project.localstack.workingDir with
    | some workingDir => rfl
    | none => rfl
  | none =>
    cases hworking : project.localstack.workingDir with
    | none =>
      have hroot : (if files'.isDirectory (rootLocalstack cwd project) = true then
          rootLocalstack cwd project else rootLocalstack cwd project) =
          rootLocalstack cwd project := ite_self _
      dsimp only
      rw [hroot]
      unfold rootLocalstack
      rw [List.append_left_inj]
      exact eq_comm
    | some workingDir =>
      -- the write may have made `localstack` in the root directory
      have hafter : files'.isDirectory (rootLocalstack cwd project) = true ↔
          rootLocalstack cwd project <+: workingDir.resolve cwd ∨
            files.isDirectory (rootLocalstack cwd project) = true := by
        rw [hfiles]
        simp only [hdest, resolve_configDirectory, hworking]
        exact isDirectory_rootLocalstack_write
      dsimp only
      cases hdir : files'.isDirectory (rootLocalstack cwd project) with
      | true =>
        rw [if_pos rfl]
        have hmade := hafter.mp hdir
        constructor
        · intro heq
          exact .inl heq.symm
        · rintro (heq | ⟨hbefore, hprefix⟩)
          · exact heq.symm
          · rcases hmade with hmade | hmade
            · exact absurd hmade hprefix
            · rw [hbefore] at hmade
              cases hmade
      | false =>
        rw [if_neg Bool.false_ne_true]
        have hnot : ¬ (rootLocalstack cwd project <+: workingDir.resolve cwd ∨
            files.isDirectory (rootLocalstack cwd project) = true) := by
          intro hmade
          rw [hafter.mpr hmade] at hdir
          cases hdir
        rw [not_or, Bool.not_eq_true] at hnot
        exact iff_of_true rfl (.inr ⟨hnot.2, hnot.1⟩)

/-- With settings that agree, the docker-compose plugin is configured, after
`initLocalStack` has returned, with the file it wrote.
SRC: compose/LocalStackModule.java:147-162 -/
theorem written_file_is_used (cwd : Path) (project : Project) (resourceStream : Option String)
    (failure : Option CopyFailure) (w w' : FileWorld)
    (hrun : InitLocalStackTask.run cwd project resourceStream failure w = (.returned (), w'))
    (hagree : SettingsAgree cwd w.files project) (composeExt : ComposeExtension)
    (hext : project.dockerCompose = some composeExt)
    (hunset : composeExt.useComposeFiles = some []) :
    ∃ f : File, f.resolve cwd = (InitLocalStackTask.configDestination cwd project).resolve cwd ∧
      (LocalStackModule.configureDockerComposePlugin cwd w'.files project).dockerCompose =
        some { composeExt with useComposeFiles := some [f.getPath] } := by
  obtain ⟨content, -, -, h, hfiles⟩ :=
    Prog.wp_returned (wp_initLocalStack resourceStream failure) hrun
  have hprobe : (LocalStackModule.composeFile cwd w'.files project).resolve cwd =
      composePath cwd project := (resolve_composeFile_eq_iff hfiles).mpr hagree
  have hcontains : w'.files.contains
      ((LocalStackModule.composeFile cwd w'.files project).resolve cwd) = true := by
    unfold FileSystem.contains
    rw [hprobe, hfiles, FileSystem.node_write, if_pos rfl]
    rfl
  refine ⟨(LocalStackModule.composeFile cwd w'.files project).getAbsolutePath cwd, ?_, ?_⟩
  · rw [File.resolve_getAbsolutePath]
    exact hprobe
  · unfold LocalStackModule.configureDockerComposePlugin
    rw [hext]
    dsimp only
    rw [if_pos ⟨hunset, hcontains⟩]

/-- A disk with nothing on it but the directory of the root project. -/
def sampleDisk : FileSystem :=
  FileSystem.blank.write ["work", "app", "build.gradle"] "" (by decide)

/-- A root project. -/
def rootProject : Project where
  rootDir := ⟨true, ["work", "app"]⟩
  projectDir := ⟨true, ["work", "app"]⟩

/-- A project in a directory of the root project. -/
def subProject : Project where
  rootDir := ⟨true, ["work", "app"]⟩
  projectDir := ⟨true, ["work", "app", "service"]⟩

/-- **When the reader finds what the writer wrote.**
SRC: compose/InitLocalStackTask.java:30-57, core/LocalStackDir.java:42-74,
compose/LocalStackModule.java:147-162 -/
theorem probed_file_is_written_iff (cwd : Path) (project : Project)
    (resourceStream : Option String) (failure : Option CopyFailure) (w w' : FileWorld)
    (hrun : InitLocalStackTask.run cwd project resourceStream failure w = (.returned (), w')) :
    (LocalStackModule.composeFile cwd w'.files project).resolve cwd =
        (InitLocalStackTask.configDestination cwd project).resolve cwd ↔
      SettingsAgree cwd w.files project := by
  obtain ⟨content, -, -, h, hfiles⟩ :=
    Prog.wp_returned (wp_initLocalStack resourceStream failure) hrun
  exact resolve_composeFile_eq_iff hfiles

/-- In the root project, with the default settings, the reader finds the file. -/
theorem probed_file_is_written_in_root :
    (LocalStackModule.composeFile []
        (InitLocalStackTask.run [] rootProject (some "version: '3'") none
          ⟨sampleDisk, []⟩).2.files rootProject).resolve [] =
      (InitLocalStackTask.configDestination [] rootProject).resolve [] :=
  (probed_file_is_written_iff [] rootProject (some "version: '3'") none ⟨sampleDisk, []⟩ _
    (Prod.ext (by decide) rfl)).mpr rfl

/-- In a sub-project, with the default settings, the reader looks elsewhere. -/
theorem probed_file_is_not_written_in_sub_project :
    ¬ ∀ (cwd : Path) (project : Project) (resourceStream : Option String)
      (failure : Option CopyFailure) (w w' : FileWorld),
      project.rootDir.resolve cwd <+: project.projectDir.resolve cwd →
      (project.dockerCompose.bind ComposeExtension.useComposeFiles) = some [] →
      InitLocalStackTask.run cwd project resourceStream failure w = (.returned (), w') →
      (LocalStackModule.composeFile cwd w'.files project).resolve cwd =
        (InitLocalStackTask.configDestination cwd project).resolve cwd := by
  intro h
  have hsame := h [] subProject (some "version: '3'") none ⟨sampleDisk, []⟩ _ (by decide) rfl
    (Prod.ext (by decide) rfl)
  exact absurd hsame (by decide)

end GradleLocalstack.Analysis
