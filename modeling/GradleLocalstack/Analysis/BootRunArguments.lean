import GradleLocalstack.Model.Strings
import GradleLocalstack.Program.SpringBoot

/-!
# The JVM arguments of `bootRunLocal` and `bootRunLocalDebug`

A build script configures the `springboot` block with a closure or with an action, or it
omits the block.  What an action configures is lost, so it counts as if the block had been
omitted; and then the module writes the default profiles as a list.
-/

set_option autoImplicit false

namespace GradleLocalstack.Analysis

open GradleLocalstack.Model GradleLocalstack.Program

/-! ## Settings and arguments -/

/-- How a build script configures the `springboot` block. -/
inductive SpringBootBlock where
  | closure (c : SpringBootExtension → SpringBootExtension)
  | action (c : SpringBootExtension → SpringBootExtension)
  | omitted

namespace SpringBootBlock

/-- The settings that the block stands for; what it leaves unset has its default. -/
def settings : SpringBootBlock → SpringBootExtension
  | closure c => c {}
  | action c => c {}
  | omitted => {}

/-- The project with the block evaluated, on an extension that had none before. -/
def configure (block : SpringBootBlock) (project : Project) : Project :=
  let ext := { project.localstack with springboot := none }
  { project with
    localstack :=
      match block with
      | closure c => ext.springbootClosure c
      | action c => ext.springbootAction c
      | omitted => ext }

end SpringBootBlock

/-- The argument for the profiles, if there are any. -/
def profilesArguments (profiles : List String) : List String :=
  if profiles = [] then [] else ["-Dspring.profiles.active=" ++ ",".intercalate profiles]

/-- The argument for the debugger. -/
def debugArgument (port : ℤ) : String :=
  "-agentlib:jdwp=transport=dt_socket,server=y,suspend=y,address=" ++ toString port

/-- The arguments that settings call for, behind those of `bootRun`. -/
def settingsArguments (settings : SpringBootExtension) : List String :=
  profilesArguments (settings.profiles.getD []) ++ settings.jvmArgs.getD []

/-- The arguments that the tasks should get. -/
def expectedArguments (appliedBootRun : BootRun) (settings : SpringBootExtension)
    (name : String) : List String :=
  appliedBootRun.jvmArgs.getD [] ++ settingsArguments settings ++
    if name = "bootRunLocalDebug" then [debugArgument settings.debugPort] else []

/-- The tasks that the module adds get the arguments that the settings call for, and both are
added if the settings enable them. -/
def ArgumentsFollowSettings (appliedBootRun : BootRun) (project : Project)
    (block : SpringBootBlock) : Prop :=
  ∃ bootRuns, SpringBootModule.load (some appliedBootRun) (block.configure project) =
    .ok bootRuns ∧
    (block.settings.enabled = true →
      bootRuns.map BootRun.name = ["bootRunLocal", "bootRunLocalDebug"]) ∧
    ∀ bootRun ∈ bootRuns,
      bootRun.jvmArgs = some (expectedArguments appliedBootRun block.settings bootRun.name)

/-- The settings that call for what the module writes when there is no block. -/
def LooksOmitted (settings : SpringBootExtension) : Prop :=
  settings.debugPort = 5005 ∧
    (settings.profiles = some ["[local]"] ∧ settings.jvmArgs = some [] ∨
      settings.profiles = some [] ∧
        settings.jvmArgs = some ["-Dspring.profiles.active=[local]"])

/-- Only one profile joins to a text without a comma. -/
theorem intercalate_eq_iff {profiles : List String} {text : String} (hne : text ≠ "")
    (hcomma : ',' ∉ text.toList) : ",".intercalate profiles = text ↔ profiles = [text] := by
  constructor
  · intro h
    cases profiles with
    | nil => exact absurd h.symm hne
    | cons p rest =>
      cases rest with
      | nil =>
        rw [String.intercalate_singleton] at h
        rw [h]
      | cons q rest =>
        exfalso
        apply hcomma
        rw [← h, String.intercalate_cons_cons]
        simp
  · intro h
    rw [h, String.intercalate_singleton]

/-- What settings call for, if they call for the one argument that the module writes when
there is no block. -/
theorem settingsArguments_eq_iff {settings : SpringBootExtension} {profiles jvmArgs : List String}
    (hprofiles : settings.profiles = some profiles) (hjvmArgs : settings.jvmArgs = some jvmArgs) :
    settingsArguments settings = ["-Dspring.profiles.active=[local]"] ↔
      profiles = ["[local]"] ∧ jvmArgs = [] ∨
        profiles = [] ∧ jvmArgs = ["-Dspring.profiles.active=[local]"] := by
  have hjoined : "-Dspring.profiles.active=" ++ ",".intercalate profiles =
      "-Dspring.profiles.active=[local]" ↔ profiles = ["[local]"] := by
    have hsplit : "-Dspring.profiles.active=[local]" = "-Dspring.profiles.active=" ++ "[local]" :=
      rfl
    rw [hsplit, String.append_right_inj]
    exact intercalate_eq_iff (by decide) (by decide)
  unfold settingsArguments profilesArguments
  rw [hprofiles, hjvmArgs, Option.getD_some, Option.getD_some]
  by_cases hnone : profiles = []
  · rw [if_pos hnone, List.nil_append, hnone]
    simp
  · rw [if_neg hnone, List.singleton_append, List.cons.injEq, hjoined]
    simp [hnone]

/-- What `bootRunLocal` should be given. -/
theorem expectedArguments_run (appliedBootRun : BootRun) (settings : SpringBootExtension) :
    expectedArguments appliedBootRun settings "bootRunLocal" =
      appliedBootRun.jvmArgs.getD [] ++ settingsArguments settings := List.append_nil _

/-- What `bootRunLocalDebug` should be given: the debug argument comes last. -/
theorem expectedArguments_debug (appliedBootRun : BootRun) (settings : SpringBootExtension) :
    expectedArguments appliedBootRun settings "bootRunLocalDebug" =
      appliedBootRun.jvmArgs.getD [] ++ settingsArguments settings ++
        [debugArgument settings.debugPort] := rfl

/-- The debug argument tells the port. -/
theorem debugArgument_injective {port port' : ℤ} (h : debugArgument port = debugArgument port') :
    port = port' := toString_injective ((String.append_right_inj _).mp h)

/-! ## What the module writes -/

section Load

variable {appliedBootRun : BootRun} {project : Project} {settings : SpringBootExtension}

/-- The tasks, from their arguments. -/
theorem load_eq {runArgs debugArgs : List String}
    (henabled : SpringBootModule.isAutoConfigureEnabled project = true)
    (hrun : SpringBootModule.bootRunLocalJvmArgs project.localstack appliedBootRun = .ok runArgs)
    (hdebug : SpringBootModule.bootRunLocalDebugJvmArgs project.localstack appliedBootRun =
      .ok debugArgs) :
    SpringBootModule.load (some appliedBootRun) project =
      .ok [SpringBootModule.bootRunLocal runArgs,
        SpringBootModule.bootRunLocalDebug debugArgs] := by
  unfold SpringBootModule.load SpringBootModule.configureBootRunLocal
    SpringBootModule.configureBootRunLocalDebug
  dsimp only
  rw [if_pos henabled, hrun, hdebug]
  rfl

/-- The tasks, if no block is stored. -/
theorem load_of_none (appliedBootRun : BootRun)
    (hnone : project.localstack.springboot = none) :
    SpringBootModule.load (some appliedBootRun) project =
      .ok [SpringBootModule.bootRunLocal (appliedBootRun.jvmArgs.getD [] ++
          ["-Dspring.profiles.active=[local]"]),
        SpringBootModule.bootRunLocalDebug (appliedBootRun.jvmArgs.getD [] ++
          ["-Dspring.profiles.active=[local]"] ++ [debugArgument 5005])] := by
  apply load_eq
  · rw [SpringBootModule.isAutoConfigureEnabled, hnone]
    rfl
  · rw [SpringBootModule.bootRunLocalJvmArgs,
      SpringBootModule.applySpringBootProfilesJvmArgument, hnone]
    rfl
  · rw [SpringBootModule.bootRunLocalDebugJvmArgs,
      SpringBootModule.applySpringBootProfilesJvmArgument, hnone]
    rfl

/-- With a block, the profiles of its settings are added. -/
theorem applySpringBootProfilesJvmArgument_eq {ext : LocalStackExtension} {profiles : List String}
    (hstored : ext.springboot = some settings) (hprofiles : settings.profiles = some profiles)
    (arguments : List String) :
    SpringBootModule.applySpringBootProfilesJvmArgument ext arguments =
      arguments ++ profilesArguments profiles := by
  unfold SpringBootModule.applySpringBootProfilesJvmArgument profilesArguments
  rw [hstored]
  dsimp only
  rw [hprofiles]
  by_cases hnone : profiles = []
  · simp [hnone]
  · simp only [ne_eq, hnone, not_false_eq_true, if_true, if_false]
    rfl

/-- The tasks, if a block is stored that enables them. -/
theorem load_of_some {profiles jvmArgs : List String}
    (hstored : project.localstack.springboot = some settings) (henabled : settings.enabled = true)
    (hprofiles : settings.profiles = some profiles) (hjvmArgs : settings.jvmArgs = some jvmArgs) :
    SpringBootModule.load (some appliedBootRun) project =
      .ok [SpringBootModule.bootRunLocal (appliedBootRun.jvmArgs.getD [] ++
          settingsArguments settings),
        SpringBootModule.bootRunLocalDebug (appliedBootRun.jvmArgs.getD [] ++
          settingsArguments settings ++ [debugArgument settings.debugPort])] := by
  have happlied := applySpringBootProfilesJvmArgument_eq hstored hprofiles
    (appliedBootRun.jvmArgs.getD [])
  have hsettings : appliedBootRun.jvmArgs.getD [] ++ settingsArguments settings =
      appliedBootRun.jvmArgs.getD [] ++ profilesArguments profiles ++ jvmArgs := by
    rw [settingsArguments, hprofiles, hjvmArgs, List.append_assoc]
    rfl
  rw [hsettings]
  apply load_eq
  · rw [SpringBootModule.isAutoConfigureEnabled, hstored]
    exact henabled
  · rw [SpringBootModule.bootRunLocalJvmArgs, happlied, hstored]
    dsimp only
    rw [hjvmArgs]
    rfl
  · rw [SpringBootModule.bootRunLocalDebugJvmArgs, happlied, hstored]
    dsimp only
    rw [hjvmArgs]
    rfl

/-- A block that is stored and disables the tasks. -/
theorem load_of_disabled (hstored : project.localstack.springboot = some settings)
    (hdisabled : settings.enabled = false) :
    SpringBootModule.load (some appliedBootRun) project = .ok [] := by
  have hnot : SpringBootModule.isAutoConfigureEnabled project = false := by
    rw [SpringBootModule.isAutoConfigureEnabled, hstored]
    exact hdisabled
  rw [SpringBootModule.load, hnot]
  rfl

/-- Tasks with the arguments that the settings call for. -/
theorem argumentsFollowSettings_of_load {block : SpringBootBlock}
    (hload : SpringBootModule.load (some appliedBootRun) (block.configure project) =
      .ok [SpringBootModule.bootRunLocal (appliedBootRun.jvmArgs.getD [] ++
          settingsArguments block.settings),
        SpringBootModule.bootRunLocalDebug (appliedBootRun.jvmArgs.getD [] ++
          settingsArguments block.settings ++ [debugArgument block.settings.debugPort])]) :
    ArgumentsFollowSettings appliedBootRun project block := by
  refine ⟨_, hload, fun _ => rfl, ?_⟩
  intro bootRun hmem
  simp only [List.mem_cons, List.not_mem_nil, or_false] at hmem
  cases hmem with
  | inl hrun =>
    rw [hrun]
    exact congrArg some (expectedArguments_run ..).symm
  | inr hdebug =>
    rw [hdebug]
    exact congrArg some (expectedArguments_debug ..).symm

/-- The arguments follow the settings of a block that is stored. -/
theorem argumentsFollowSettings_closure (appliedBootRun : BootRun) (project : Project)
    (c : SpringBootExtension → SpringBootExtension)
    (hprofiles : (c {}).profiles ≠ none) (hjvmArgs : (c {}).jvmArgs ≠ none) :
    ArgumentsFollowSettings appliedBootRun project (.closure c) := by
  obtain ⟨profiles, hprofiles⟩ := Option.ne_none_iff_exists'.mp hprofiles
  obtain ⟨jvmArgs, hjvmArgs⟩ := Option.ne_none_iff_exists'.mp hjvmArgs
  have hstored : ((SpringBootBlock.closure c).configure project).localstack.springboot =
      some (c {}) := rfl
  cases henabled : (c {}).enabled with
  | false =>
    have hnot : (c {}).enabled = true → ([] : List BootRun).map BootRun.name =
        ["bootRunLocal", "bootRunLocalDebug"] :=
      fun hset => absurd (henabled.symm.trans hset) Bool.false_ne_true
    exact ⟨[], load_of_disabled hstored henabled, hnot, fun _ h => absurd h List.not_mem_nil⟩
  | true => exact argumentsFollowSettings_of_load (load_of_some hstored henabled hprofiles hjvmArgs)

/-- **A block that is not stored** stands for settings that look as if there were none. -/
theorem argumentsFollowSettings_iff_of_none {block : SpringBootBlock}
    (hnone : (block.configure project).localstack.springboot = none)
    (hprofiles : block.settings.profiles ≠ none) (hjvmArgs : block.settings.jvmArgs ≠ none) :
    ArgumentsFollowSettings appliedBootRun project block ↔ LooksOmitted block.settings := by
  obtain ⟨profiles, hprofiles⟩ := Option.ne_none_iff_exists'.mp hprofiles
  obtain ⟨jvmArgs, hjvmArgs⟩ := Option.ne_none_iff_exists'.mp hjvmArgs
  have hload := load_of_none appliedBootRun hnone
  have hlooks : LooksOmitted block.settings ↔
      block.settings.debugPort = 5005 ∧
        settingsArguments block.settings = ["-Dspring.profiles.active=[local]"] := by
    rw [LooksOmitted, settingsArguments_eq_iff hprofiles hjvmArgs, hprofiles, hjvmArgs]
    simp only [Option.some.injEq]
  rw [hlooks]
  constructor
  · intro h
    obtain ⟨bootRuns, hloaded, -, hfollows⟩ := h
    rw [hload] at hloaded
    cases hloaded
    have hrun : appliedBootRun.jvmArgs.getD [] ++ ["-Dspring.profiles.active=[local]"] =
        expectedArguments appliedBootRun block.settings "bootRunLocal" :=
      Option.some.inj (hfollows _ List.mem_cons_self)
    have hdebug : appliedBootRun.jvmArgs.getD [] ++ ["-Dspring.profiles.active=[local]"] ++
        [debugArgument 5005] =
        expectedArguments appliedBootRun block.settings "bootRunLocalDebug" :=
      Option.some.inj (hfollows _ (List.mem_cons_of_mem _ List.mem_cons_self))
    rw [expectedArguments_run] at hrun
    have harguments := (List.append_cancel_left hrun).symm
    rw [expectedArguments_debug, harguments] at hdebug
    have hport : debugArgument 5005 = debugArgument block.settings.debugPort :=
      List.singleton_inj.mp (List.append_cancel_left hdebug)
    exact ⟨(debugArgument_injective hport).symm, harguments⟩
  · intro h
    obtain ⟨hport, harguments⟩ := h
    apply argumentsFollowSettings_of_load
    rw [hload, hport, harguments]

end Load

/-- **The arguments follow the settings** exactly when the block is configured by a closure,
or stands for settings that call for what is written without a block.
SRC: boot/SpringBootModule.java:69-141, compose/LocalStackExtension.java:111-125 -/
theorem boot_run_arguments_follow_settings_iff (appliedBootRun : BootRun) (project : Project)
    (block : SpringBootBlock) (hprofiles : block.settings.profiles ≠ none)
    (hjvmArgs : block.settings.jvmArgs ≠ none) :
    ArgumentsFollowSettings appliedBootRun project block ↔
      (∃ c, block = .closure c) ∨ LooksOmitted block.settings := by
  cases block with
  | closure c =>
    have hfollows := argumentsFollowSettings_closure appliedBootRun project c hprofiles
      hjvmArgs
    exact ⟨fun _ => .inl ⟨c, rfl⟩, fun _ => hfollows⟩
  | action c =>
    rw [argumentsFollowSettings_iff_of_none rfl hprofiles hjvmArgs]
    simp
  | omitted =>
    rw [argumentsFollowSettings_iff_of_none rfl hprofiles hjvmArgs]
    simp

/-- A project with the extension as the plugin registers it. -/
def plainProject : Project where
  rootDir := ⟨true, ["work", "app"]⟩
  projectDir := ⟨true, ["work", "app"]⟩
  tasks := ⟨[], List.nodup_nil⟩

/-- The `bootRun` task of the Spring Boot plugin, with one argument. -/
def plainBootRun : BootRun := { name := "bootRun", jvmArgs := some ["-Xmx1g"] }

/-- A closure that sets two profiles is followed. -/
theorem boot_run_arguments_follow_closure :
    ArgumentsFollowSettings plainBootRun plainProject
      (.closure fun ext => { ext with profiles := some ["dev", "local"] }) :=
  (boot_run_arguments_follow_settings_iff plainBootRun plainProject
    (.closure fun ext => { ext with profiles := some ["dev", "local"] })
    (by decide) (by decide)).mpr (.inl ⟨_, rfl⟩)

/-- Without a block the default profile is not written as a profile, and a profile that an
action sets is not written. -/
theorem boot_run_arguments_differ :
    (¬ ArgumentsFollowSettings plainBootRun plainProject .omitted) ∧
    ¬ ArgumentsFollowSettings plainBootRun plainProject
      (.action fun ext => { ext with profiles := some ["dev"] }) := by
  constructor
  · intro h
    obtain ⟨bootRuns, hloaded, -, hfollows⟩ := h
    cases hloaded
    exact absurd (hfollows _ List.mem_cons_self) (by decide)
  · intro h
    obtain ⟨bootRuns, hloaded, -, hfollows⟩ := h
    cases hloaded
    exact absurd (hfollows _ List.mem_cons_self) (by decide)

end GradleLocalstack.Analysis
