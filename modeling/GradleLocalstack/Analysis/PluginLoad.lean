import GradleLocalstack.Analysis.SetupOrder
import GradleLocalstack.Program.LocalStackPlugin

/-!
# Loading the plugin into a project

A load fails if and only if the project has a task of a name that the plugin uses, or has not
what the Spring Boot tasks are made of: the tasks of the Spring Boot plugin, a class path, and
arguments that are not `null`.  The order in which the maps of tasks are gone through decides
nothing that a build can see.  And the tasks of the plugin that work on a running environment run
after it has been started and set up, in every build that starts it.
-/

set_option autoImplicit false

namespace GradleLocalstack.Analysis

open Foundation GradleLocalstack.Model GradleLocalstack.Program

variable {cwd : Path} {files : FileSystem} {order order' : IterationOrder}
  {springBoot : Option SpringBootPlugin} {project loaded : Project} {l l' : List GradleTask}

/-! ## Creating tasks -/

/-- The second project is the first with further tasks. -/
structure Extended (project loaded : Project) (l : List GradleTask) : Prop where
  tasks : loaded.tasks.tasks = project.tasks.tasks ++ l
  localstack : loaded.localstack = project.localstack

/-- The names that are taken and those of the tasks are pairwise different. -/
def FreshNames (project : Project) (l : List GradleTask) : Prop :=
  (project.tasks.names ++ l.map GradleTask.name).Nodup

/-- The names of the further tasks come after those before. -/
theorem Extended.names (h : Extended project loaded l) :
    loaded.tasks.names = project.tasks.names ++ l.map GradleTask.name := by
  rw [TaskContainer.names, h.tasks, List.map_append, TaskContainer.names]

/-- What was created had fresh names: no container has two tasks of one name. -/
theorem Extended.freshNames (h : Extended project loaded l) : FreshNames project l := by
  rw [FreshNames, ← h.names]
  exact loaded.tasks.nodup

/-- No further task. -/
theorem Extended.refl : Extended project project [] := ⟨(List.append_nil _).symm, rfl⟩

/-- Further tasks may be added in two steps. -/
theorem Extended.trans {final : Project} (h : Extended project loaded l)
    (h' : Extended loaded final l') : Extended project final (l ++ l') :=
  ⟨by rw [h'.tasks, h.tasks, List.append_assoc], h'.localstack.trans h.localstack⟩

/-- Creating a task adds it at the end. -/
theorem createTask_extended {task : GradleTask}
    (h : LocalStackModule.createTask task project = .ok loaded) :
    Extended project loaded [task] := by
  refine ⟨(createTask_ok h).2, ?_⟩
  obtain ⟨tasks, -, hloaded⟩ := exists_of_bind_ok h
  cases hloaded
  rfl

/-- A task of a fresh name is created. -/
theorem createTask_of_fresh {task : GradleTask} (h : task.name ∉ project.tasks.names) :
    ∃ loaded, LocalStackModule.createTask task project = .ok loaded := by
  unfold LocalStackModule.createTask TaskContainer.create
  rw [dif_neg h]
  exact ⟨_, rfl⟩

/-- Creating tasks adds them at the end, in order. -/
theorem createTasks_extended (h : createTasks l project = .ok loaded) :
    Extended project loaded l := by
  unfold createTasks at h
  induction l generalizing project with
  | nil =>
    cases h
    exact .refl
  | cons task l ih =>
    rw [List.foldlM_cons] at h
    obtain ⟨p₁, hone, hrest⟩ := exists_of_bind_ok h
    exact (createTask_extended hone).trans (ih hrest)

/-- Tasks of fresh names are created. -/
theorem createTasks_of_fresh (h : FreshNames project l) :
    ∃ loaded, createTasks l project = .ok loaded := by
  unfold createTasks
  induction l generalizing project with
  | nil => exact ⟨project, rfl⟩
  | cons task l ih =>
    have hmiddle := List.nodup_middle.mp h
    have hfresh : task.name ∉ project.tasks.names :=
      fun hmem => (List.nodup_cons.mp hmiddle).1 (List.mem_append_left _ hmem)
    obtain ⟨p₁, hone⟩ := createTask_of_fresh hfresh
    have hrest : FreshNames p₁ l := by
      rw [FreshNames, (createTask_extended hone).names, List.append_assoc]
      exact h
    obtain ⟨loaded, hloaded⟩ := ih hrest
    refine ⟨loaded, ?_⟩
    rw [List.foldlM_cons, hone]
    exact hloaded

/-- Creating two lists of tasks. -/
theorem createTasks_append : createTasks (l ++ l') project = (do
    let project ← createTasks l project
    createTasks l' project) := List.foldlM_append

/-! ## The modules -/

/-- `LocalStackModule.load`, with its six tasks as a list. -/
theorem localStackModule_load_eq : LocalStackModule.load cwd files project = (do
    let project ← createTasks (moduleTasks []) project
    let project ← LocalStackModule.configureLocalStackSetupTasks project
    return LocalStackModule.configureDockerComposePlugin cwd files project) := by
  simp only [createTasks, moduleTasks, List.foldlM_cons, List.foldlM_nil, bind_assoc, pure_bind]
  rfl

/-- `AwsModule` creates its tasks one after the other. -/
theorem awsModule_load_eq :
    AwsModule.load order project = createTasks (AwsModule.tasks order) project := by
  simp only [AwsModule.load, AwsModule.tasks, createTasks_append, bind_assoc]

/-- What the scan and the docker-compose plugin change is not the extension. -/
theorem load_extended (hload : LocalStackModule.load cwd files project = .ok loaded) :
    Extended project loaded (moduleTasks (LocalStackModule.setupTasks project)) := by
  refine ⟨load_tasks hload, ?_⟩
  rw [localStackModule_load_eq] at hload
  obtain ⟨p₁, hcreate, hload⟩ := exists_of_bind_ok hload
  obtain ⟨p₂, hsetup, hload⟩ := exists_of_bind_ok hload
  cases hload
  rw [← (createTasks_extended hcreate).localstack]
  have hscan : p₂.localstack = p₁.localstack := by
    unfold LocalStackModule.configureLocalStackSetupTasks at hsetup
    split at hsetup
    · obtain ⟨tasks, -, hp₂⟩ := exists_of_bind_ok hsetup
      cases hp₂
      rfl
    · cases hsetup
      rfl
  rw [← hscan]
  unfold LocalStackModule.configureDockerComposePlugin
  split
  · rfl
  · split <;> rfl

/-- The module loads where its six names are free. -/
theorem load_of_fresh (h : FreshNames project (moduleTasks [])) :
    ∃ loaded, LocalStackModule.load cwd files project = .ok loaded := by
  obtain ⟨p₁, hcreate⟩ := createTasks_of_fresh h
  have hstart : "startLocalStack" ∈ p₁.tasks.names := by
    rw [(createTasks_extended hcreate).names]
    apply List.mem_append_right
    simp [moduleTasks]
  have hscan : ∃ p₂, LocalStackModule.configureLocalStackSetupTasks p₁ = .ok p₂ := by
    unfold LocalStackModule.configureLocalStackSetupTasks
    split
    · have hadd : ∃ tasks, p₁.tasks.addDependsOn LocalStackModule.startLocalstackTaskName
          (LocalStackModule.setupTasks p₁) = .ok tasks := by
        unfold TaskContainer.addDependsOn
        rw [if_pos (show LocalStackModule.startLocalstackTaskName ∈ p₁.tasks.names from hstart)]
        exact ⟨_, rfl⟩
      obtain ⟨tasks, htasks⟩ := hadd
      rw [htasks]
      exact ⟨_, rfl⟩
    · exact ⟨_, rfl⟩
  obtain ⟨p₂, hp₂⟩ := hscan
  refine ⟨LocalStackModule.configureDockerComposePlugin cwd files p₂, ?_⟩
  rw [localStackModule_load_eq, hcreate]
  show (do
    let project ← LocalStackModule.configureLocalStackSetupTasks p₁
    return LocalStackModule.configureDockerComposePlugin cwd files project) = _
  rw [hp₂]
  rfl

/-- A task of `SpringBootModule`, whatever its arguments. -/
def bootTask (name : String) : GradleTask where
  name := name
  dependsOn := ["startLocalStack"]
  mustRunAfter := ["startLocalStack"]

/-- The module has something to configure. -/
def BootTasksWanted (springBoot : Option SpringBootPlugin) (project : Project) : Prop :=
  springBoot.isSome ∧ SpringBootModule.isAutoConfigureEnabled project = true

/-- Both parts are decided by evaluation. -/
instance : Decidable (BootTasksWanted springBoot project) :=
  inferInstanceAs (Decidable (_ ∧ _))

/-- The tasks that `SpringBootModule` adds. -/
def bootTasks (springBoot : Option SpringBootPlugin) (project : Project) : List GradleTask :=
  if BootTasksWanted springBoot project then
    [bootTask "bootRunLocal", bootTask "bootRunLocalDebug"]
  else []

/-- What the tasks of the module are made of: the two tasks of the Spring Boot plugin, each of its
class, a class path, and lists of arguments that are not `null`. -/
structure BootTasksPossible (springBoot : SpringBootPlugin) (project : Project) : Prop where
  bootRun : "bootRun" ∈ project.tasks.names ∧ ∃ applied, springBoot.bootRun = .ok applied
  bootJar : "bootJar" ∈ project.tasks.names ∧ springBoot.bootJar = .ok ()
  runtimeClasspath : springBoot.runtimeClasspath = .ok ()
  jvmArgs : ∀ springboot ∈ project.localstack.springboot, springboot.jvmArgs.isSome

/-- The module can configure its tasks, if there are to be any. -/
def BootTasksConfigurable (springBoot : Option SpringBootPlugin) (project : Project) : Prop :=
  BootTasksWanted springBoot project →
    ∀ plugin ∈ springBoot, BootTasksPossible plugin project

section Congruence

variable (hlocalstack : loaded.localstack = project.localstack)

include hlocalstack

/-- Whether the module has something to configure depends on the extension only. -/
theorem bootTasksWanted_congr :
    BootTasksWanted springBoot loaded ↔ BootTasksWanted springBoot project := by
  unfold BootTasksWanted SpringBootModule.isAutoConfigureEnabled
  rw [hlocalstack]

/-- What the module adds depends on the extension only. -/
theorem bootTasks_congr : bootTasks springBoot loaded = bootTasks springBoot project := by
  simp only [bootTasks, bootTasksWanted_congr hlocalstack]

/-- Whether the module can configure its tasks depends on the extension and on whether the tasks
of the Spring Boot plugin are there. -/
theorem bootTasksConfigurable_congr
    (hnames : ∀ name ∈ ["bootRun", "bootJar"],
      name ∈ loaded.tasks.names ↔ name ∈ project.tasks.names) :
    BootTasksConfigurable springBoot loaded ↔ BootTasksConfigurable springBoot project := by
  have hrun := hnames "bootRun" (by decide)
  have hjar := hnames "bootJar" (by decide)
  have hpossible : ∀ plugin : SpringBootPlugin,
      BootTasksPossible plugin loaded ↔ BootTasksPossible plugin project := by
    intro plugin
    constructor
    · rintro ⟨h₁, h₂, h₃, h₄⟩
      exact ⟨⟨hrun.mp h₁.1, h₁.2⟩, ⟨hjar.mp h₂.1, h₂.2⟩, h₃, hlocalstack ▸ h₄⟩
    · rintro ⟨h₁, h₂, h₃, h₄⟩
      exact ⟨⟨hrun.mpr h₁.1, h₁.2⟩, ⟨hjar.mpr h₂.1, h₂.2⟩, h₃, hlocalstack ▸ h₄⟩
  simp only [BootTasksConfigurable, bootTasksWanted_congr hlocalstack, hpossible]

/-- The configurations read nothing else of the project. -/
theorem configureBootRunLocalDebug_congr (applied : BootRun) :
    SpringBootModule.configureBootRunLocalDebug loaded applied =
      SpringBootModule.configureBootRunLocalDebug project applied := by
  unfold SpringBootModule.configureBootRunLocalDebug
  rw [hlocalstack]

end Congruence

/-- What a map gives was made of something. -/
theorem exists_of_map_ok {ε α β : Type} {x : Except ε α} {f : α → β} {b : β}
    (h : x.map f = .ok b) : ∃ a, f a = b := by
  cases x with
  | error e => cases h
  | ok a => exact ⟨a, Except.ok.inj h⟩

/-- A changed error is no success. -/
theorem exists_of_mapError_ok {ε ε' α : Type} {x : Except ε α} {f : ε → ε'} {a : α}
    (h : x.mapError f = .ok a) : x = .ok a := by
  cases x with
  | error e => cases h
  | ok b =>
    cases h
    rfl

/-- The task `bootRunLocal` that is configured. -/
theorem configureBootRunLocal_ok {bootRun applied : BootRun}
    (h : SpringBootModule.configureBootRunLocal project applied = .ok bootRun) :
    bootRun.toTask = bootTask "bootRunLocal" := by
  obtain ⟨jvmArgs, rfl⟩ := exists_of_map_ok h
  rfl

/-- The task `bootRunLocalDebug` that is configured. -/
theorem configureBootRunLocalDebug_ok {bootRun applied : BootRun}
    (h : SpringBootModule.configureBootRunLocalDebug project applied = .ok bootRun) :
    bootRun.toTask = bootTask "bootRunLocalDebug" := by
  obtain ⟨jvmArgs, rfl⟩ := exists_of_map_ok h
  rfl

/-- Both tasks are configured exactly where the arguments are given. -/
theorem configureBootRuns_ok_iff {applied : BootRun} :
    ((∃ bootRun, SpringBootModule.configureBootRunLocal project applied = .ok bootRun) ↔
      ∀ springboot ∈ project.localstack.springboot, springboot.jvmArgs.isSome) ∧
    ((∃ bootRun, SpringBootModule.configureBootRunLocalDebug project applied = .ok bootRun) ↔
      ∀ springboot ∈ project.localstack.springboot, springboot.jvmArgs.isSome) := by
  unfold SpringBootModule.configureBootRunLocal SpringBootModule.configureBootRunLocalDebug
    SpringBootModule.bootRunLocalJvmArgs SpringBootModule.bootRunLocalDebugJvmArgs
  cases project.localstack.springboot with
  | none => simp [Except.map]
  | some springboot =>
    cases hargs : springboot.jvmArgs with
    | none => simp [SpringBootModule.addAll, Except.map, hargs]
    | some jvmArgs => simp [SpringBootModule.addAll, Except.map, hargs]

/-- A task that was found is there, and of its class. -/
theorem getByName_ok_iff {α : Type} {name : String} {task : Except Throwable α} {a : α} :
    SpringBootModule.getByName name task project = .ok a ↔
      name ∈ project.tasks.names ∧ task = .ok a := by
  unfold SpringBootModule.getByName
  constructor
  · intro h
    split at h
    · rename_i hmem
      exact ⟨hmem, exists_of_mapError_ok h⟩
    · cases h
  · rintro ⟨hmem, rfl⟩
    rw [if_pos hmem]
    rfl

/-- A task that was created had a configuration that did not throw. -/
theorem createBootRun_ok {name : String} {configuration : Except Throwable BootRun}
    (h : SpringBootModule.createBootRun name configuration project = .ok loaded) :
    ∃ bootRun, configuration = .ok bootRun ∧ Extended project loaded [bootRun.toTask] := by
  unfold SpringBootModule.createBootRun at h
  split at h
  · cases h
  · split at h
    · cases h
    · rename_i bootRun
      exact ⟨bootRun, rfl, createTask_extended (exists_of_mapError_ok h)⟩

/-- A task of a fresh name whose configuration does not throw is created. -/
theorem createBootRun_of_fresh {name : String} {configuration : Except Throwable BootRun}
    {bootRun : BootRun} (hconfigured : configuration = .ok bootRun)
    (hname : bootRun.toTask.name = name) (h : name ∉ project.tasks.names) :
    ∃ loaded, SpringBootModule.createBootRun name configuration project = .ok loaded := by
  subst hconfigured
  unfold SpringBootModule.createBootRun
  rw [if_neg h]
  rw [← hname] at h
  obtain ⟨loaded, hloaded⟩ := createTask_of_fresh h
  refine ⟨loaded, ?_⟩
  show (LocalStackModule.createTask bootRun.toTask project).mapError LoadError.task = _
  rw [hloaded]
  rfl

/-- **The two readings of `SpringBootModule.load` agree**: what is put into the project are the
tasks that `load` gives for the `bootRun` task that was found. -/
theorem loadInto_load {plugin : SpringBootPlugin}
    (henabled : SpringBootModule.isAutoConfigureEnabled project = true)
    (h : SpringBootModule.loadInto (some plugin) project = .ok loaded) :
    BootTasksPossible plugin project ∧ ∃ applied bootRuns, plugin.bootRun = .ok applied ∧
      SpringBootModule.load (some applied) project = .ok bootRuns ∧
      Extended project loaded (bootRuns.map BootRun.toTask) := by
  unfold SpringBootModule.loadInto at h
  dsimp only at h
  rw [if_pos henabled] at h
  obtain ⟨applied, hbootRun, h⟩ := exists_of_bind_ok h
  obtain ⟨_, hbootJar, h⟩ := exists_of_bind_ok h
  obtain ⟨p₁, hrun, hdebug⟩ := exists_of_bind_ok h
  rw [getByName_ok_iff] at hbootRun hbootJar
  obtain ⟨run, hconfiguration, hextended⟩ := createBootRun_ok hrun
  obtain ⟨_, hclasspath, hconfigured⟩ := exists_of_bind_ok hconfiguration
  obtain ⟨debugRun, hconfiguration', hextended'⟩ := createBootRun_ok hdebug
  obtain ⟨_, -, hconfigured'⟩ := exists_of_bind_ok hconfiguration'
  rw [configureBootRunLocalDebug_congr hextended.localstack] at hconfigured'
  have hload : SpringBootModule.load (some applied) project = .ok [run, debugRun] := by
    unfold SpringBootModule.load
    dsimp only
    rw [if_pos henabled, hconfigured, hconfigured']
    rfl
  have hpossible : BootTasksPossible plugin project :=
    { bootRun := ⟨hbootRun.1, applied, hbootRun.2⟩
      bootJar := hbootJar
      runtimeClasspath := hclasspath
      jvmArgs := configureBootRuns_ok_iff.1.mp ⟨run, hconfigured⟩ }
  exact ⟨hpossible, applied, _, hbootRun.2, hload, hextended.trans hextended'⟩

/-- The tasks that `load` gives, whatever their arguments. -/
theorem load_toTask {applied : BootRun} {bootRuns : List BootRun}
    (henabled : SpringBootModule.isAutoConfigureEnabled project = true)
    (h : SpringBootModule.load (some applied) project = .ok bootRuns) :
    bootRuns.map BootRun.toTask = [bootTask "bootRunLocal", bootTask "bootRunLocalDebug"] := by
  unfold SpringBootModule.load at h
  dsimp only at h
  rw [if_pos henabled] at h
  obtain ⟨run, hrun, h⟩ := exists_of_bind_ok h
  obtain ⟨debugRun, hdebug, h⟩ := exists_of_bind_ok h
  cases h
  rw [List.map_cons, List.map_singleton, configureBootRunLocal_ok hrun,
    configureBootRunLocalDebug_ok hdebug]

/-- What the module has put into the project, and what it was made of. -/
theorem loadInto_extended (h : SpringBootModule.loadInto springBoot project = .ok loaded) :
    Extended project loaded (bootTasks springBoot project) ∧
      BootTasksConfigurable springBoot project := by
  by_cases hwanted : BootTasksWanted springBoot project
  · obtain ⟨hsome, henabled⟩ := hwanted
    obtain ⟨plugin, rfl⟩ := Option.isSome_iff_exists.mp hsome
    obtain ⟨hpossible, applied, bootRuns, -, hload, hextended⟩ := loadInto_load henabled h
    rw [load_toTask henabled hload] at hextended
    rw [bootTasks, if_pos ⟨hsome, henabled⟩]
    refine ⟨hextended, fun _ plugin' hplugin => ?_⟩
    rw [← Option.some.inj hplugin]
    exact hpossible
  · have hsame : loaded = project := by
      unfold SpringBootModule.loadInto at h
      cases springBoot with
      | none =>
        cases h
        rfl
      | some plugin =>
        dsimp only at h
        rw [if_neg fun henabled => hwanted ⟨rfl, henabled⟩] at h
        cases h
        rfl
    rw [hsame, bootTasks, if_neg hwanted]
    exact ⟨.refl, fun h => absurd h hwanted⟩

/-- The module loads where its names are free and its tasks can be configured. -/
theorem loadInto_of_fresh (h : FreshNames project (bootTasks springBoot project))
    (hconfigurable : BootTasksConfigurable springBoot project) :
    ∃ loaded, SpringBootModule.loadInto springBoot project = .ok loaded := by
  unfold SpringBootModule.loadInto
  cases springBoot with
  | none => exact ⟨project, rfl⟩
  | some plugin =>
    by_cases henabled : SpringBootModule.isAutoConfigureEnabled project = true
    · have hwanted : BootTasksWanted (some plugin) project := ⟨rfl, henabled⟩
      obtain ⟨hbootRun, hbootJar, hclasspath, harguments⟩ := hconfigurable hwanted plugin rfl
      obtain ⟨hthere, applied, happlied⟩ := hbootRun
      dsimp only
      rw [if_pos henabled, getByName_ok_iff.mpr ⟨hthere, happlied⟩, getByName_ok_iff.mpr hbootJar,
        hclasspath]
      rw [bootTasks, if_pos hwanted] at h
      obtain ⟨run, hrun⟩ := (@configureBootRuns_ok_iff project applied).1.mpr harguments
      obtain ⟨debugRun, hdebug⟩ := (@configureBootRuns_ok_iff project applied).2.mpr harguments
      have hfirst : "bootRunLocal" ∉ project.tasks.names :=
        fun hmem => List.disjoint_of_nodup_append h hmem List.mem_cons_self
      have hrunTask := configureBootRunLocal_ok hrun
      obtain ⟨p₁, hp₁⟩ : ∃ p₁, SpringBootModule.createBootRun "bootRunLocal"
          (SpringBootModule.configureBootRunLocal project applied) project = .ok p₁ :=
        createBootRun_of_fresh hrun (congrArg GradleTask.name hrunTask) hfirst
      obtain ⟨_, hsame, hextended⟩ := createBootRun_ok hp₁
      rw [hrun] at hsame
      cases hsame
      rw [hrunTask] at hextended
      have hsecond : "bootRunLocalDebug" ∉ p₁.tasks.names := by
        rw [hextended.names]
        intro hmem
        rcases List.mem_append.mp hmem with hmem | hmem
        · exact List.disjoint_of_nodup_append h hmem (List.mem_cons_of_mem _ List.mem_cons_self)
        · simp [bootTask] at hmem
      rw [← configureBootRunLocalDebug_congr hextended.localstack] at hdebug
      obtain ⟨p₂, hp₂⟩ := createBootRun_of_fresh hdebug
        (congrArg GradleTask.name (configureBootRunLocalDebug_ok hdebug)) hsecond
      refine ⟨p₂, ?_⟩
      show ((SpringBootModule.createBootRun "bootRunLocal"
        (SpringBootModule.configureBootRunLocal project applied) project) >>= _) = _
      rw [hp₁]
      exact hp₂
    · dsimp only
      rw [if_neg henabled]
      exact ⟨project, rfl⟩

/-! ## The plugin -/

/-- All tasks of the plugin, in the order in which they are created. -/
def pluginTasks (order : IterationOrder) (springBoot : Option SpringBootPlugin)
    (project : Project) : List GradleTask :=
  moduleTasks (LocalStackModule.setupTasks project) ++ AwsModule.tasks order ++
    bootTasks springBoot project

/-- The names that the plugin uses. -/
def pluginTaskNames (springBoot : Option SpringBootPlugin) (project : Project) : List String :=
  ["initLocalStack", "startLocalStack", "stopLocalStack", "killLocalStack", "cleanLocalStack",
    "restartLocalStack", "deleteCFStack", "listCFStacks", "deleteDynamoDbTable",
    "listDynamoDbTables", "purgeS3Buckets", "deleteS3Buckets", "listS3Buckets", "purgeSqsQueues",
    "listSqsQueues", "publishSqs", "listSnsTopics", "listSnsTopicSubscriptions",
    "deleteSnsTopic"] ++
    if BootTasksWanted springBoot project then ["bootRunLocal", "bootRunLocalDebug"] else []

/-- The tasks of the plugin have different names. -/
theorem nodup_pluginTaskNames : (pluginTaskNames springBoot project).Nodup := by
  unfold pluginTaskNames
  split
  · simp
  · simp

/-- The tasks of the AWS modules, in the order in which the modules name them. -/
def awsTasks : List GradleTask :=
  CloudFormationModule.tasks ++ DynamoDbModule.tasks ++ S3Module.tasks ++ SqsModule.tasks ++
    SnsModule.tasks

/-- The iteration order only permutes the tasks of `AwsModule`. -/
theorem awsModule_tasks_perm (order : IterationOrder) :
    (AwsModule.tasks order).Perm awsTasks :=
  ((((order.perm _).append (order.perm _)).append (order.perm _)).append (order.perm _)).append
    (order.perm _)

/-- The iteration order only permutes the names of the plugin's tasks. -/
theorem pluginTasks_names_perm :
    ((pluginTasks order springBoot project).map GradleTask.name).Perm
      (pluginTaskNames springBoot project) := by
  have hboot : (bootTasks springBoot project).map GradleTask.name =
      if BootTasksWanted springBoot project then ["bootRunLocal", "bootRunLocalDebug"]
      else [] := by
    unfold bootTasks
    split <;> rfl
  have haws := (awsModule_tasks_perm order).map GradleTask.name
  rw [pluginTasks, List.map_append, List.map_append, hboot]
  exact (haws.append_left _).append_right _

/-- The plugin's tasks can be created exactly if none of their names is taken. -/
theorem freshNames_pluginTasks_iff :
    FreshNames project (pluginTasks order springBoot project) ↔
      ∀ name ∈ pluginTaskNames springBoot project, name ∉ project.tasks.names := by
  have hperm := @pluginTasks_names_perm order springBoot project
  rw [FreshNames, (hperm.append_left _).nodup_iff, List.nodup_append']
  constructor
  · rintro ⟨-, -, hdisjoint⟩ name hname hmem
    exact hdisjoint hmem hname
  · intro h
    exact ⟨project.tasks.nodup, nodup_pluginTaskNames, fun name hmem hname => h name hname hmem⟩

/-- The tasks that the other modules add are no tasks of the Spring Boot plugin. -/
theorem Extended.bootTask_iff {dependencies : List String}
    (h : Extended project loaded (moduleTasks dependencies ++ AwsModule.tasks order)) :
    ∀ name ∈ ["bootRun", "bootJar"],
      name ∈ loaded.tasks.names ↔ name ∈ project.tasks.names := by
  have hperm := ((awsModule_tasks_perm order).append_left (moduleTasks [])).map GradleTask.name
  have hother : ∀ name ∈ ["bootRun", "bootJar"],
      name ∉ (moduleTasks [] ++ awsTasks).map GradleTask.name := by decide
  intro name hname
  have hnew : name ∉ (moduleTasks dependencies ++ AwsModule.tasks order).map GradleTask.name :=
    fun hmem => hother name hname (hperm.subset hmem)
  rw [h.names, List.mem_append, or_iff_left hnew]

/-- What the plugin has put into the project, and what it was made of. -/
theorem loadModules_extended
    (h : LocalStackPlugin.loadModules cwd files order springBoot project = .ok loaded) :
    Extended project loaded (pluginTasks order springBoot project) ∧
      BootTasksConfigurable springBoot project := by
  obtain ⟨p₁, hmodule, h⟩ := exists_of_bind_ok h
  obtain ⟨p₂, haws, h⟩ := exists_of_bind_ok h
  have hextended₁ := load_extended (exists_of_mapError_ok hmodule)
  have haws' := exists_of_mapError_ok haws
  rw [awsModule_load_eq] at haws'
  have hextended₂ := hextended₁.trans (createTasks_extended haws')
  obtain ⟨hextended₃, hgiven⟩ := loadInto_extended h
  rw [bootTasks_congr hextended₂.localstack] at hextended₃
  exact ⟨hextended₂.trans hextended₃, 
    (bootTasksConfigurable_congr hextended₂.localstack hextended₂.bootTask_iff).mp hgiven⟩

/-- A load that goes through, for one order of the maps. -/
theorem loads_iff_fresh :
    (∃ loaded, LocalStackPlugin.loadModules cwd files order springBoot project = .ok loaded) ↔
      (∀ name ∈ pluginTaskNames springBoot project, name ∉ project.tasks.names) ∧
        BootTasksConfigurable springBoot project := by
  rw [← @freshNames_pluginTasks_iff order]
  constructor
  · rintro ⟨loaded, hload⟩
    obtain ⟨hextended, hgiven⟩ := loadModules_extended hload
    exact ⟨hextended.freshNames, hgiven⟩
  · rintro ⟨hfresh, hgiven⟩
    rw [FreshNames, pluginTasks, List.map_append, List.map_append, ← List.append_assoc,
      ← List.append_assoc] at hfresh
    have hfresh₂ := (List.nodup_append'.mp hfresh).1
    have hfresh₁ : FreshNames project (moduleTasks []) := (List.nodup_append'.mp hfresh₂).1
    obtain ⟨p₁, hp₁⟩ := @load_of_fresh cwd files project hfresh₁
    have hextended₁ := load_extended hp₁
    have haws : FreshNames p₁ (AwsModule.tasks order) := by
      rw [FreshNames, hextended₁.names]
      exact hfresh₂
    obtain ⟨p₂, hp₂⟩ := createTasks_of_fresh haws
    have hextended₂ := hextended₁.trans (createTasks_extended hp₂)
    have hboot : FreshNames p₂ (bootTasks springBoot p₂) := by
      rw [FreshNames, hextended₂.names, bootTasks_congr hextended₂.localstack, List.map_append,
        ← List.append_assoc]
      exact hfresh
    obtain ⟨loaded, hloaded⟩ := loadInto_of_fresh hboot
      ((bootTasksConfigurable_congr hextended₂.localstack hextended₂.bootTask_iff).mpr hgiven)
    rw [← awsModule_load_eq] at hp₂
    refine ⟨loaded, ?_⟩
    rw [LocalStackPlugin.loadModules, hp₁]
    show ((AwsModule.load order p₁).mapError LoadError.task >>= _) = _
    rw [hp₂]
    exact hloaded

/-! ## Builds -/

/-- The builds of two projects may run the same tasks in the same orders. -/
def SameBuilds (loaded loaded' : Project) : Prop :=
  ∀ target names, (taskGraph loaded.tasks.tasks).ExecutionOrder target names ↔
    (taskGraph loaded'.tasks.tasks).ExecutionOrder target names

/-- Only which tasks there are decides how they may be ordered. -/
theorem executionOrder_of_perm (h : l.Perm l') {target : String} {names : List String}
    (horder : (taskGraph l).ExecutionOrder target names) :
    (taskGraph l').ExecutionOrder target names := by
  have hdepends : ∀ a b, (taskGraph l').dependsOn a b ↔ (taskGraph l).dependsOn a b :=
    fun a b => by simp only [taskGraph, h.mem_iff]
  have hafter : ∀ a b, (taskGraph l').mustRunAfter a b ↔ (taskGraph l).mustRunAfter a b :=
    fun a b => by simp only [taskGraph, h.mem_iff]
  have hgraph : (taskGraph l').dependsOn = (taskGraph l).dependsOn := by
    funext a b
    exact propext (hdepends a b)
  have hrequired : ∀ a, (taskGraph l').Required target a ↔ (taskGraph l).Required target a := by
    intro a
    unfold TaskGraph.Required
    rw [hgraph]
  refine ⟨horder.nodup, fun a => (horder.mem_iff a).trans (hrequired a).symm, ?_, ?_⟩
  · intro a ha
    exact (h.map GradleTask.name).subset (horder.known a ha)
  · rintro a b ⟨ha, hb, hedge⟩
    refine horder.respects a b ⟨(hrequired a).mp ha, (hrequired b).mp hb, ?_⟩
    rw [← hdepends, ← hafter]
    exact hedge

/-- **When the plugin loads**: if and only if none of the names it uses is taken and, where the
Spring Boot tasks are wanted, all they are made of is there; the tasks of the project then stay as
they are, and those of the plugin are added.
SRC: LocalStackPlugin.java:69-73 -/
theorem plugin_loads_iff (cwd : Path) (files : FileSystem) (order : IterationOrder)
    (springBoot : Option SpringBootPlugin) (project : Project) :
    ((∃ loaded, LocalStackPlugin.loadModules cwd files order springBoot project = .ok loaded) ↔
      (∀ name ∈ pluginTaskNames springBoot project, name ∉ project.tasks.names) ∧
        BootTasksConfigurable springBoot project) ∧
    ∀ loaded, LocalStackPlugin.loadModules cwd files order springBoot project = .ok loaded →
      loaded.tasks.tasks = project.tasks.tasks ++ pluginTasks order springBoot project :=
  ⟨loads_iff_fresh, fun _ hload => (loadModules_extended hload).1.tasks⟩

/-- **The order of the hash maps decides nothing**: with any two of them the plugin loads, or
with neither, and every build may then run the same tasks in the same orders.
SRC: aws/AwsModule.java:27-35 -/
theorem load_independent_of_iteration_order (cwd : Path) (files : FileSystem)
    (order order' : IterationOrder) (springBoot : Option SpringBootPlugin) (project : Project) :
    (∀ loaded, LocalStackPlugin.loadModules cwd files order springBoot project = .ok loaded →
      ∃ loaded', LocalStackPlugin.loadModules cwd files order' springBoot project =
        .ok loaded' ∧ SameBuilds loaded loaded') ∧
    (∀ e, LocalStackPlugin.loadModules cwd files order springBoot project = .error e →
      ∃ e', LocalStackPlugin.loadModules cwd files order' springBoot project = .error e') := by
  have hloads : ∀ o o' : IterationOrder,
      (∃ loaded, LocalStackPlugin.loadModules cwd files o springBoot project = .ok loaded) →
      ∃ loaded, LocalStackPlugin.loadModules cwd files o' springBoot project = .ok loaded := by
    intro o o' hload
    rw [loads_iff_fresh] at hload ⊢
    exact hload
  constructor
  · intro loaded hloaded
    obtain ⟨loaded', hloaded'⟩ := hloads order order' ⟨loaded, hloaded⟩
    refine ⟨loaded', hloaded', ?_⟩
    have haws : (AwsModule.tasks order).Perm (AwsModule.tasks order') :=
      (awsModule_tasks_perm order).trans (awsModule_tasks_perm order').symm
    have hperm : loaded.tasks.tasks.Perm loaded'.tasks.tasks := by
      rw [(loadModules_extended hloaded).1.tasks, (loadModules_extended hloaded').1.tasks]
      exact ((haws.append_left _).append_right _).append_left _
    exact fun target names => ⟨executionOrder_of_perm hperm, executionOrder_of_perm hperm.symm⟩
  · intro e he
    cases hload' : LocalStackPlugin.loadModules cwd files order' springBoot project with
    | error e' => exact ⟨e', rfl⟩
    | ok loaded' =>
      obtain ⟨loaded, hloaded⟩ := hloads order' order ⟨loaded', hload'⟩
      rw [he] at hloaded
      cases hloaded

/-- What must run after `startLocalStack` finds it started and set up. -/
structure RunsStarted (project : Project) (names : List String) (t : GradleTask) : Prop where
  started : Before names "startLocalStack" t.name
  up : Before names "composeUp" t.name
  setUp : ∀ name ∈ LocalStackModule.setupTasks project, Before names name t.name

/-- **When the environment is used**: in every order of every build of whatever target, each
task of the AWS modules and each `bootRun` task of the plugin runs after `composeUp`, after all
setup tasks and after `startLocalStack`, if the build starts LocalStack; a `bootRun` task
always makes it do so; and no build of `startLocalStack` runs any of them.
SRC: LocalStackPlugin.java:69-73, boot/SpringBootModule.java:69-126 -/
theorem environment_started_before_use
    (hload : LocalStackPlugin.loadModules cwd files order springBoot project = .ok loaded)
    (target : String) (names : List String)
    (horder : (taskGraph loaded.tasks.tasks).ExecutionOrder target names) (t : GradleTask)
    (ht : t ∈ awsTasks ++ bootTasks springBoot project) (hmem : t.name ∈ names) :
    target ≠ "startLocalStack" ∧
      ("startLocalStack" ∈ names → RunsStarted project names t) ∧
      (t ∈ bootTasks springBoot project → "startLocalStack" ∈ names) := by
  have htasks := (loadModules_extended hload).1.tasks
  have hmine : t ∈ loaded.tasks.tasks := by
    rw [htasks, pluginTasks]
    apply List.mem_append_right
    rw [List.append_assoc]
    apply List.mem_append_right
    exact ((awsModule_tasks_perm order).symm.append_right _).subset ht
  have hafter : "startLocalStack" ∈ t.mustRunAfter := by
    cases List.mem_append.mp ht with
    | inl haws =>
      have hall : ∀ t ∈ awsTasks, "startLocalStack" ∈ t.mustRunAfter := by decide
      exact hall t haws
    | inr hboot =>
      unfold bootTasks at hboot
      split at hboot
      · have hall : ∀ t ∈ [bootTask "bootRunLocal", bootTask "bootRunLocalDebug"],
            "startLocalStack" ∈ t.mustRunAfter := by decide
        exact hall t hboot
      · cases hboot
  have hedge : (taskGraph loaded.tasks.tasks).mustRunAfter t.name "startLocalStack" :=
    ⟨t, hmine, rfl, hafter⟩
  refine ⟨?_, fun hstart => ?_, fun hboot => ?_⟩
  · rintro rfl
    exact horder.not_mem_of_after_target hedge hmem
  · have hstarted : Before names "startLocalStack" t.name :=
      horder.respects _ _ ⟨(horder.mem_iff _).mp hmem, (horder.mem_iff _).mp hstart, .inr hedge⟩
    have hneeded : ∀ name, name = "composeUp" ∨ name ∈ LocalStackModule.setupTasks project →
        Before names name t.name := by
      intro name hname
      obtain ⟨start, hstartTask, hstartName, hdepends⟩ := startLocalStack_dependsOn hname
      have hdepends' : (taskGraph loaded.tasks.tasks).dependsOn "startLocalStack" name := by
        refine ⟨start, ?_, hstartName, hdepends⟩
        rw [htasks, pluginTasks, List.append_assoc, ← List.append_assoc]
        exact List.mem_append_left _ hstartTask
      have hwaits := TaskGraph.Waits.of_dependsOn ((horder.mem_iff _).mp hstart) hdepends'
      exact (horder.respects _ _ hwaits).trans horder.nodup hstarted
    exact ⟨hstarted, hneeded _ (.inl rfl), fun name hname => hneeded name (.inr hname)⟩
  · have hdepends : "startLocalStack" ∈ t.dependsOn := by
      unfold bootTasks at hboot
      split at hboot
      · have hall : ∀ t ∈ [bootTask "bootRunLocal", bootTask "bootRunLocalDebug"],
            "startLocalStack" ∈ t.dependsOn := by decide
        exact hall t hboot
      · cases hboot
    exact (horder.mem_iff _).mpr (((horder.mem_iff _).mp hmem).tail ⟨t, hmine, rfl, hdepends⟩)

/-- Each map is gone through in the order in which it was filled. -/
def filledOrder : IterationOrder := ⟨id, fun l => List.Perm.refl l⟩

/-- A project with the tasks of the docker-compose and Spring Boot plugins and a task that creates
buckets. -/
def bootProject : Project where
  rootDir := ⟨true, ["work", "app"]⟩
  projectDir := ⟨true, ["work", "app"]⟩
  tasks :=
    { tasks := (bucketsProject []).tasks.tasks ++ [{ name := "bootRun" }, { name := "bootJar" }]
      nodup := by decide }

/-- The Spring Boot plugin with its tasks, beside the Java plugin. -/
def plainSpringBoot : SpringBootPlugin := ⟨.ok { name := "bootRun" }, .ok (), .ok ()⟩

/-- The application is run once the buckets are there. -/
theorem environment_started_before_bootRun :
    RunsStarted bootProject ["composeUp", "createBuckets", "startLocalStack", "bootRunLocal"]
      (bootTask "bootRunLocal") := by
  have hload : ∃ loaded, LocalStackPlugin.loadModules [] FileSystem.blank filledOrder
      (some plainSpringBoot) bootProject = .ok loaded := ⟨_, rfl⟩
  obtain ⟨loaded, hload⟩ := hload
  have htasks := (loadModules_extended hload).1.tasks
  have horder : (taskGraph loaded.tasks.tasks).ExecutionOrder "bootRunLocal"
      ["composeUp", "createBuckets", "startLocalStack", "bootRunLocal"] := by
    rw [htasks]
    have hstart : (taskGraph (bootProject.tasks.tasks ++ pluginTasks filledOrder
        (some plainSpringBoot) bootProject)).Required "bootRunLocal" "startLocalStack" :=
      TaskGraph.Required.refl.tail (by decide)
    have hrequired : ∀ a ∈ ["composeUp", "createBuckets", "startLocalStack", "bootRunLocal"],
        (taskGraph (bootProject.tasks.tasks ++ pluginTasks filledOrder
          (some plainSpringBoot) bootProject)).Required "bootRunLocal" a := by
      intro a ha
      simp only [List.mem_cons, List.not_mem_nil, or_false] at ha
      obtain rfl | rfl | rfl | rfl := ha
      · exact hstart.tail (by decide)
      · exact hstart.tail (by decide)
      · exact hstart
      · exact TaskGraph.Required.refl
    exact executionOrder_of_tasks (by decide) (by decide) (by decide) hrequired (by decide)
      (by decide)
  have hboot : bootTask "bootRunLocal" ∈ bootTasks (some plainSpringBoot) bootProject :=
    List.mem_cons_self
  exact (environment_started_before_use hload "bootRunLocal" _ horder (bootTask "bootRunLocal")
    (List.mem_append_right _ hboot) (by decide)).2.1 (by decide)

end GradleLocalstack.Analysis
