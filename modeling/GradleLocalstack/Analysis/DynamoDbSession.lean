import GradleLocalstack.Analysis.S3Session

/-!
# Tables over a whole session

A table goes only where a deletion names it, and a table that comes is the one that some task
of the session was configured to create, down to its defaults.  An initializer, which is code of
the project, is taken to leave the set of tables alone.
-/

set_option autoImplicit false

namespace GradleLocalstack.Analysis

open Foundation GradleLocalstack.Model GradleLocalstack.Program

/-- Which tables may be created, each as it is asked for, and which may be deleted. -/
structure TableRights where
  create : Set CreateTableRequest
  delete : Set String

namespace TableRights

/-- The call keeps to the rights. -/
def Allows (rights : TableRights) : DynamoDbCall → Prop
  | .createTable request => request ∈ rights.create
  | .deleteTable tableName => tableName ∈ rights.delete
  | _ => True

/-- Rights are compared by what they allow. -/
instance : LE TableRights where
  le r r' := r.create ⊆ r'.create ∧ r.delete ⊆ r'.delete

/-- More rights allow what fewer do. -/
theorem Allows.mono {rights rights' : TableRights} {call : DynamoDbCall} (h : rights.Allows call)
    (hle : rights ≤ rights') : rights'.Allows call := by
  cases call with
  | createTable request => exact hle.1 h
  | deleteTable tableName => exact hle.2 h
  | _ => trivial

end TableRights

end GradleLocalstack.Analysis

namespace GradleLocalstack.Program.AwsTask

open GradleLocalstack.Analysis

/-- The rights of a task, from its configuration. -/
def tableRights : AwsTask → TableRights
  | createDynamoDbTable task => ⟨{CreateDynamoDbTableTask.createTableRequest task}, ∅⟩
  | deleteDynamoDbTable task => ⟨∅, {task.tableName}⟩
  | _ => ⟨∅, ∅⟩

end GradleLocalstack.Program.AwsTask

namespace GradleLocalstack.Analysis

open Foundation GradleLocalstack.Model GradleLocalstack.Program

section Calls

variable {amazonDynamoDB : AmazonDynamoDB} {rights : TableRights}

/-- The rights allow all calls of the program. -/
abbrev KeepsTables (rights : TableRights) (amazonDynamoDB : AmazonDynamoDB) {α : Type}
    (m : Prog DynamoDbWorld Throwable α) : Prop :=
  m.Within (StoreEvolves (DynamoDb.service amazonDynamoDB.pageSize) rights.Allows)
    (fun _ => True)

/-- A retried block makes the calls of its attempts. -/
theorem keepsTables_execute {fn : Prog DynamoDbWorld Throwable Unit}
    (hfn : KeepsTables rights amazonDynamoDB fn) (maxRetries : ℤ)
    (expectedErrors : List JavaClass) :
    KeepsTables rights amazonDynamoDB (Retry.execute fn maxRetries expectedErrors) :=
  within_execute (fun _ w => refl_of (Evolves _ _) w.store) hfn maxRetries expectedErrors

/-- Printing is no call. -/
theorem keepsTables_log (text : String) : KeepsTables rights amazonDynamoDB (log text) :=
  within_log text

/-- A call that the rights allow. -/
theorem keepsTables_invoke {c : DynamoDbCall} (hc : rights.Allows c) :
    KeepsTables rights amazonDynamoDB (amazonDynamoDB.invoke c) :=
  (within_call hc amazonDynamoDB.sched).mono (fun _ _ h => h) fun _ _ => trivial

/-- Looking for a table only lists. -/
theorem keepsTables_tableExists (tableName : String) :
    KeepsTables rights amazonDynamoDB (DynamoDBTaskUtil.tableExists amazonDynamoDB tableName) :=
  .searchPages fun marker => keepsTables_invoke (c := .listTables marker) trivial

/-- A handler makes no call. -/
theorem keepsTables_catching {cls : JavaClass} {handler : Throwable → Throwable}
    {step : Prog DynamoDbWorld Throwable Unit} (hstep : KeepsTables rights amazonDynamoDB step) :
    KeepsTables rights amazonDynamoDB
      (DynamoDbInitializerExecutor.catching cls handler step) := by
  unfold DynamoDbInitializerExecutor.catching
  refine .tryCatch hstep fun e => ?_
  split
  · exact .throw _
  · exact .throw _

/-- An initializer makes no call that needs a right. -/
theorem keepsTables_invokeInitializer (tableName initializerClassName : String) :
    KeepsTables rights amazonDynamoDB
      (DynamoDbInitializerExecutor.invoke amazonDynamoDB tableName initializerClassName) := by
  unfold DynamoDbInitializerExecutor.invoke
  refine .seq (keepsTables_log _) fun _ =>
    .seq (keepsTables_catching (keepsTables_invoke trivial)) fun _ =>
    .seq (keepsTables_catching (keepsTables_invoke trivial)) fun _ =>
    .seq (keepsTables_catching (keepsTables_invoke trivial)) fun _ =>
    .seq (.tryCatch (keepsTables_invoke trivial) fun e => ?_) fun _ =>
    .seq (.tryCatch (keepsTables_invoke trivial) fun e => ?_) fun _ => keepsTables_log _
  · split
    · exact .throw _
    · exact .throw _
  · split
    · exact .seq (keepsTables_log _) fun _ => .throw _
    · exact .throw _

/-- **`CreateDynamoDbTableTask`** creates the table that it is configured with. -/
theorem keepsTables_createTable {task : CreateDynamoDbTableTask}
    (hrights : CreateDynamoDbTableTask.createTableRequest task ∈ rights.create) :
    KeepsTables rights amazonDynamoDB (task.run amazonDynamoDB) := by
  apply keepsTables_execute
  unfold CreateDynamoDbTableTask.attempt
  refine .seq (keepsTables_log _) fun _ => .seq (keepsTables_tableExists _) fun tableExists => ?_
  split
  · exact keepsTables_log _
  · refine .seq (keepsTables_invoke hrights) fun _ => .seq (keepsTables_log _) fun _ => ?_
    split
    · exact keepsTables_invokeInitializer _ _
    · exact .pure trivial

/-- **`DeleteDynamoDbTableTask`** deletes the table that it names. -/
theorem keepsTables_deleteTable {task : DeleteDynamoDbTableTask}
    (hrights : task.tableName ∈ rights.delete) :
    KeepsTables rights amazonDynamoDB (task.run amazonDynamoDB) := by
  apply keepsTables_execute
  unfold DeleteDynamoDbTableTask.attempt
  refine .seq (keepsTables_log _) fun _ => .seq (keepsTables_tableExists _) fun tableExists => ?_
  have hdelete : KeepsTables rights amazonDynamoDB (do
      amazonDynamoDB.deleteTable task.tableName
      log s!"Deleted DynamoDB table: {task.tableName}") :=
    .seq (keepsTables_invoke hrights) fun _ => keepsTables_log _
  split
  · exact .seq (.throw _) fun _ => hdelete
  · exact hdelete

/-- **Each task makes only calls that its rights allow**, however its run ends. -/
theorem run_evolves_tables {env : Environment} {sched : Schedule Throwable} (task : AwsTask)
    (s : LocalStack) :
    Evolves (DynamoDb.service env.dynamoDbPageSize) task.tableRights.Allows s.tables
      (task.run env sched s).2.tables := by
  have hrefl : ∀ P, Evolves (DynamoDb.service env.dynamoDbPageSize) P s.tables s.tables :=
    fun P => refl_of (Evolves _ P) s.tables
  cases task with
  | createDynamoDbTable task =>
    have h : KeepsTables (AwsTask.createDynamoDbTable task).tableRights
        (env.amazonDynamoDB sched) (task.run (env.amazonDynamoDB sched)) :=
      keepsTables_createTable rfl
    exact (h (World.start s.tables)).1
  | deleteDynamoDbTable task =>
    have h : KeepsTables (AwsTask.deleteDynamoDbTable task).tableRights
        (env.amazonDynamoDB sched) (task.run (env.amazonDynamoDB sched)) :=
      keepsTables_deleteTable rfl
    exact (h (World.start s.tables)).1
  | createSqsQueues _ => exact hrefl _
  | createSqsQueueWithDlq _ => exact hrefl _
  | publishSqs _ => exact hrefl _
  | purgeSqsQueues _ => exact hrefl _
  | createSnsTopicWithSqsEndpoint _ => exact hrefl _
  | deleteSnsTopic _ => exact hrefl _
  | createS3Buckets _ => exact hrefl _
  | purgeS3Buckets _ => exact hrefl _
  | deleteS3Buckets _ => exact hrefl _

end Calls

/-! ## What allowed calls keep -/

/-- What the rights leave of the tables. -/
structure TablesKept (rights : TableRights) (s s' : DynamoDbStore) : Prop where
  /-- A table that is not deleted stays as it is. -/
  kept : ∀ table ∈ s.tables, table.tableName ∉ rights.delete → table ∈ s'.tables
  /-- A table that is new was asked for as it is. -/
  added : ∀ table ∈ s'.tables, table ∈ s.tables ∨ table ∈ rights.create

section Kept

variable {rights : TableRights}

/-- What is kept over two parts of a session is kept over both. -/
instance : IsPreorder DynamoDbStore (TablesKept rights) where
  refl _ := ⟨fun _ h _ => h, fun _ h => .inl h⟩
  trans _ _ _ h h' :=
    { kept := fun table htable hdelete => h'.kept table (h.kept table htable hdelete) hdelete
      added := fun table htable => by
        cases h'.added table htable with
        | inl hold => exact h.added table hold
        | inr hcreate => exact .inr hcreate }

/-- **Every call that the rights allow** leaves what the rights promise. -/
theorem tablesKept_of_allowed {call : DynamoDbCall} (h : rights.Allows call) (pageSize : ℕ)
    (s : DynamoDbStore) :
    TablesKept rights s ((DynamoDb.service pageSize).exec call s).2 := by
  have hrefl : TablesKept rights s s := refl_of (TablesKept rights) s
  cases call with
  | createTable request =>
    by_cases hmem : request.tableName ∈ s.names
    · have hsame : ((DynamoDb.service pageSize).exec (.createTable request) s).2 = s := by
        simp [DynamoDb.service, hmem]
      rw [hsame]
      exact hrefl
    · have hnew : ((DynamoDb.service pageSize).exec (.createTable request) s).2 =
          s.add request hmem := by
        simp [DynamoDb.service, hmem]
      rw [hnew]
      refine ⟨fun table htable _ => List.mem_cons_of_mem _ htable, fun table htable => ?_⟩
      cases List.mem_cons.mp htable with
      | inl heq => exact .inr (heq ▸ h)
      | inr hold => exact .inl hold
  | deleteTable tableName =>
    by_cases hmem : tableName ∈ s.names
    · have hgone : ((DynamoDb.service pageSize).exec (.deleteTable tableName) s).2 =
          s.remove tableName := by
        simp [DynamoDb.service, hmem]
      rw [hgone]
      refine ⟨fun table htable hdelete => List.mem_filter.mpr ⟨htable, ?_⟩, fun table htable =>
        .inl (List.mem_of_mem_filter htable)⟩
      rw [bne_iff_ne]
      rintro rfl
      exact hdelete h
    · have hsame : ((DynamoDb.service pageSize).exec (.deleteTable tableName) s).2 = s := by
        simp [DynamoDb.service, hmem]
      rw [hsame]
      exact hrefl
  | _ => exact hrefl

end Kept

/-! ## Sessions -/

end GradleLocalstack.Analysis
