import GradleLocalstack.Program.DynamoDbTasks
import GradleLocalstack.Analysis.RetryRule

/-!
# A table and its initializer

`CreateDynamoDbTableTask.run` creates the table and runs its initializer in one retried
block, and the block does nothing if the table exists.  A failure that strikes once the
table exists so ends the matter: the next attempt finds the table and returns, and the
initializer does not run again.  A run that returns has initialized the table exactly
when each of its failures left the table absent.
-/

set_option autoImplicit false

namespace GradleLocalstack.Analysis

open Foundation GradleLocalstack.Model GradleLocalstack.Program

/-- The initializer's `run()` has completed normally, at a moment when the table existed. -/
def Initialized (tableName : String) (w : DynamoDbWorld) : Prop :=
  ∃ r ∈ w.trace, r.call = .invokeRun ∧ r.fault = none ∧ tableName ∈ r.after.names

/-- Every failure of the run left the table absent. -/
def AbsentWhenFailed (tableName : String) (w : DynamoDbWorld) : Prop :=
  ∀ r ∈ w.struck, tableName ∉ r.after.names

section Attempts

variable {amazonDynamoDB : AmazonDynamoDB} {task : CreateDynamoDbTableTask} {tableName : String}
  {w : DynamoDbWorld} {c : DynamoDbCall}

/-- One more call initializes the table if it is a `run()` that completed. -/
theorem initialized_record (fault : Option (Fault Throwable)) (s : DynamoDbStore) :
    Initialized tableName (w.record c fault s) ↔
      Initialized tableName w ∨ (c = .invokeRun ∧ fault = none ∧ tableName ∈ s.names) := by
  unfold Initialized
  rw [World.trace_record]
  constructor
  · rintro ⟨r, hr, hcall⟩
    cases List.mem_append.mp hr with
    | inl hr => exact .inl ⟨r, hr, hcall⟩
    | inr hr =>
      rw [List.mem_singleton] at hr
      subst hr
      exact .inr hcall
  · intro h
    cases h with
    | inl h =>
      obtain ⟨r, hr, hcall⟩ := h
      exact ⟨r, List.mem_append_left _ hr, hcall⟩
    | inr h => exact ⟨_, List.mem_append_right _ (List.mem_singleton_self _), h⟩

/-- A call that no failure struck does not count. -/
theorem absentWhenFailed_record_none (s : DynamoDbStore) :
    AbsentWhenFailed tableName (w.record c none s) ↔ AbsentWhenFailed tableName w := by
  unfold AbsentWhenFailed
  rw [World.struck_record_none]

/-- A call that a failure struck must leave the table absent. -/
theorem absentWhenFailed_record_some (f : Fault Throwable) (s : DynamoDbStore) :
    AbsentWhenFailed tableName (w.record c (some f) s) ↔
      AbsentWhenFailed tableName w ∧ tableName ∉ s.names := by
  unfold AbsentWhenFailed
  rw [World.struck_record_some]
  constructor
  · intro h
    exact ⟨fun r hr => h r (List.mem_append_left _ hr),
      h _ (List.mem_append_right _ (List.mem_singleton_self _))⟩
  · rintro ⟨h, hs⟩ r hr
    cases List.mem_append.mp hr with
    | inl hr => exact h r hr
    | inr hr =>
      rw [List.mem_singleton.mp hr]
      exact hs

/-- How an attempt finds the world: not initialized, and with the table absent exactly if
every failure left it so. -/
structure Pending (tableName : String) (w : DynamoDbWorld) : Prop where
  uninitialized : ¬ Initialized tableName w
  absent_iff : tableName ∉ w.store.names ↔ AbsentWhenFailed tableName w

/-- The attempt has just created the table. -/
structure Fresh (tableName : String) (w : DynamoDbWorld) : Prop where
  uninitialized : ¬ Initialized tableName w
  present : tableName ∈ w.store.names
  absent_before : AbsentWhenFailed tableName w

/-- A failure of a call other than a completed `run()`. -/
theorem pending_of_failure (h : ¬ Initialized tableName w) (f : Fault Throwable)
    {s : DynamoDbStore} (hs : tableName ∉ s.names → AbsentWhenFailed tableName w) :
    Pending tableName (w.record c (some f) s) := by
  constructor
  · rw [initialized_record]
    simp [h]
  · rw [absentWhenFailed_record_some, World.store_record]
    exact ⟨fun hnot => ⟨hs hnot, hnot⟩, fun hall => hall.2⟩

/-- A call that only reads, answered or not. -/
theorem Pending.read (hc : c ≠ .invokeRun) (h : Pending tableName w)
    (fault : Option (Fault Throwable)) : Pending tableName (w.record c fault w.store) := by
  cases fault with
  | some f => exact pending_of_failure h.uninitialized f h.absent_iff.mp
  | none =>
    constructor
    · rw [initialized_record]
      simp [h.uninitialized, hc]
    · rw [absentWhenFailed_record_none]
      exact h.absent_iff

/-- A step of the initializer before its `run()`. -/
theorem wp_fresh_call {r : c.Response} (hc : c ≠ .invokeRun)
    (hx : (DynamoDb.service amazonDynamoDB.pageSize).exec c w.store = (.ok r, w.store))
    (h : Fresh tableName w) :
    (amazonDynamoDB.invoke c).wp (fun _ w' => Fresh tableName w')
      (fun _ w' => Pending tableName w') w := by
  refine wp_call ?_ ?_ ?_
  · intro f _
    rw [hx, ite_self]
    exact pending_of_failure h.uninitialized f fun _ => h.absent_before
  · intro r' s' _ hx'
    rw [hx] at hx'
    cases hx'
    refine ⟨?_, h.present, ?_⟩
    · rw [initialized_record]
      simp [h.uninitialized, hc]
    · rw [absentWhenFailed_record_none]
      exact h.absent_before
  · intro e s' _ hx'
    rw [hx] at hx'
    cases congrArg Prod.fst hx'

/-- The `run()` of the initializer. -/
theorem wp_invokeRun (h : Fresh tableName w) :
    amazonDynamoDB.invokeRun.wp
      (fun _ w' => tableName ∈ w'.store.names ∧ Initialized tableName w' ∧
        AbsentWhenFailed tableName w')
      (fun _ w' => Pending tableName w') w := by
  refine wp_call ?_ ?_ ?_
  · intro f _
    have hstore : (if f.tookEffect = true then ((DynamoDb.service amazonDynamoDB.pageSize).exec
        .invokeRun w.store).2 else w.store) = w.store := ite_self _
    rw [hstore]
    exact pending_of_failure h.uninitialized f fun _ => h.absent_before
  · intro r s _ hx
    have hs : s = w.store := (congrArg Prod.snd hx).symm
    subst hs
    refine ⟨h.present, ?_, ?_⟩
    · rw [initialized_record]
      exact .inr ⟨rfl, rfl, h.present⟩
    · rw [absentWhenFailed_record_none]
      exact h.absent_before
  · intro e s _ hx
    cases congrArg Prod.fst hx

/-- A handler that wraps the error leaves the world. -/
theorem wp_catching {α : Type} {step : Prog DynamoDbWorld Throwable α}
    {Q : α → DynamoDbWorld → Prop} {I : DynamoDbWorld → Prop} (cls : JavaClass)
    (handler : Throwable → Throwable) (h : step.wp Q (fun _ w' => I w') w) :
    (DynamoDbInitializerExecutor.catching cls handler step).wp Q (fun _ w' => I w') w := by
  unfold DynamoDbInitializerExecutor.catching
  rw [Prog.wp_tryCatch]
  refine Prog.wp_mono h (fun _ _ hq => hq) ?_
  intro e w' hw'
  split
  · exact hw'
  · exact hw'

/-- **The initializer** of a table that has just been created. -/
theorem wp_initializer (initializer : String) (h : Fresh tableName w) :
    (DynamoDbInitializerExecutor.invoke amazonDynamoDB tableName initializer).wp
      (fun _ w' => tableName ∈ w'.store.names ∧ Initialized tableName w' ∧
        AbsentWhenFailed tableName w')
      (fun _ w' => Pending tableName w') w := by
  unfold DynamoDbInitializerExecutor.invoke
  simp only [Prog.wp_bind, wp_log]
  have h₀ : Fresh tableName
      (Console.emit (.line s!"Initializing table: {tableName}") w) :=
    ⟨h.uninitialized, h.present, h.absent_before⟩
  apply Prog.wp_conseq (wp_catching _ _ (wp_fresh_call (by simp) rfl h₀))
  intro _ w₁ h₁
  apply Prog.wp_conseq (wp_catching _ _ (wp_fresh_call (by simp) rfl h₁))
  intro _ w₂ h₂
  apply Prog.wp_conseq (wp_catching _ _ (wp_fresh_call (by simp) rfl h₂))
  intro _ w₃ h₃
  rw [Prog.wp_tryCatch]
  refine Prog.wp_mono (wp_fresh_call (by simp) rfl h₃) ?_ ?_
  · intro _ w₄ h₄
    rw [Prog.wp_tryCatch]
    refine Prog.wp_mono (wp_invokeRun h₄) (fun _ _ hq => hq) ?_
    intro e w₅ h₅
    split
    · exact ⟨h₅.uninitialized, h₅.absent_iff⟩
    · exact h₅
  · intro e w₄ h₄
    split
    · exact h₄
    · exact h₄

/-- **Looking for a table** tells whether it is there, however the names are paged.  It
leaves the tables, and what every listing keeps, answered or not. -/
theorem wp_tableExists {I : DynamoDbWorld → Prop} (tableName : String)
    (hI : ∀ w' marker fault, I w' → I (w'.record (.listTables marker) fault w'.store))
    (h : I w) :
    (DynamoDBTaskUtil.tableExists amazonDynamoDB tableName).wp
      (fun r w' => (I w' ∧ w'.store = w.store) ∧
        r = w.store.names.any fun name => name == tableName)
      (fun _ w' => I w') w := by
  unfold DynamoDBTaskUtil.tableExists
  apply wp_searchPages (fun w' => I w' ∧ w'.store = w.store)
    amazonDynamoDB.pageSize_pos (fun a _ b _ hab => hab)
  · intro marker w' hw'
    obtain ⟨hw', hstore⟩ := hw'
    apply Prog.wp_conseq (wp_call_keeps (hI w' marker · hw') (hI w' marker · hw'))
    intro p w'' hp
    obtain ⟨hx, hw''⟩ := hp
    have hx' : (DynamoDb.service amazonDynamoDB.pageSize).exec (.listTables marker) w'.store =
        (.ok (Page.of id amazonDynamoDB.pageSize marker w.store.names), w'.store) := by
      rw [hstore]
      rfl
    obtain ⟨hpage, hsame⟩ := Prod.mk.inj (hx'.symm.trans hx)
    exact ⟨⟨hw'', hsame.symm.trans hstore⟩, (Except.ok.inj hpage).symm⟩
  · exact ⟨h, rfl⟩
  · exact Nat.lt_succ_self _

/-- **One attempt.**  When it returns the table is there, and it has been initialized if no
failure ever left it there. -/
theorem wp_createTable_attempt {initializer : String} (hinit : task.initializer = some initializer)
    (h : Pending task.tableName w) :
    (task.attempt amazonDynamoDB).wp
      (fun _ w' => task.tableName ∈ w'.store.names ∧
        (Initialized task.tableName w' ↔ AbsentWhenFailed task.tableName w'))
      (fun _ w' => Pending task.tableName w') w := by
  unfold CreateDynamoDbTableTask.attempt
  simp only [Prog.wp_bind, wp_log]
  have h₀ : Pending task.tableName
      (Console.emit (.line s!"Creating DynamoDB table: {task.tableName}") w) :=
    ⟨h.uninitialized, h.absent_iff⟩
  apply Prog.wp_conseq
    (wp_tableExists task.tableName (fun _ _ fault h => h.read (by simp) fault) h₀)
  rintro tableExists w₁ ⟨⟨h₁, hstore⟩, hexists⟩
  by_cases hmem : task.tableName ∈ w.store.names
  · have htrue : tableExists = true := by
      rw [hexists]
      exact List.any_eq_true.mpr ⟨_, hmem, beq_self_eq_true _⟩
    rw [if_pos htrue]
    have hpresent : task.tableName ∈ w₁.store.names := by
      rw [hstore]
      exact hmem
    have hfailed : ¬ AbsentWhenFailed task.tableName w₁ := by
      intro hall
      exact h₁.absent_iff.mpr hall hpresent
    exact ⟨hpresent, iff_of_false h₁.uninitialized hfailed⟩
  · have hfalse : tableExists = false := by
      rw [hexists, Bool.eq_false_iff]
      intro hany
      obtain ⟨name, hname, heq⟩ := List.any_eq_true.mp hany
      exact hmem (beq_iff_eq.mp heq ▸ hname)
    rw [hfalse, if_neg Bool.false_ne_true]
    simp only [Prog.wp_bind, wp_log, hinit]
    have habsent : (CreateDynamoDbTableTask.createTableRequest task).tableName ∉
        w₁.store.names := by
      rw [hstore]
      exact hmem
    have hclean : AbsentWhenFailed task.tableName w₁ := h₁.absent_iff.mp habsent
    have hx : (DynamoDb.service amazonDynamoDB.pageSize).exec
        (.createTable (CreateDynamoDbTableTask.createTableRequest task)) w₁.store =
        (.ok (), w₁.store.add _ habsent) := by
      simp [DynamoDb.service, habsent]
    refine wp_call ?_ ?_ ?_
    · intro f _
      exact pending_of_failure h₁.uninitialized f fun _ => hclean
    · intro r s' _ hx'
      rw [hx] at hx'
      cases hx'
      have hfresh : Fresh task.tableName (Console.emit
          (.line s!"Created DynamoDB table: {task.tableName}") (w₁.record
            (.createTable (CreateDynamoDbTableTask.createTableRequest task)) none
            (w₁.store.add _ habsent))) := by
        refine ⟨?_, ?_, ?_⟩
        · show ¬ Initialized task.tableName (w₁.record _ _ _)
          rw [initialized_record]
          simp [h₁.uninitialized]
        · exact List.mem_cons_self
        · show AbsentWhenFailed task.tableName (w₁.record _ _ _)
          rw [absentWhenFailed_record_none]
          exact hclean
      apply Prog.wp_conseq (wp_initializer initializer hfresh)
      rintro _ w₂ ⟨hpresent, hinitialized, hall⟩
      exact ⟨hpresent, iff_of_true hinitialized hall⟩
    · intro e s' _ hx'
      rw [hx] at hx'
      cases congrArg Prod.fst hx'

/-- **The run.** -/
theorem wp_createTable_run {initializer : String} (hinit : task.initializer = some initializer)
    {s : DynamoDbStore} (habsent : task.tableName ∉ s.names) :
    (task.run amazonDynamoDB).wp
      (fun _ w' => task.tableName ∈ w'.store.names ∧
        (Initialized task.tableName w' ↔ AbsentWhenFailed task.tableName w'))
      (fun _ w' => Pending task.tableName w') (World.start s) := by
  apply wp_execute_keeps (Pending task.tableName)
  · intro o w h
    exact ⟨h.uninitialized, h.absent_iff⟩
  · intro w h
    exact wp_createTable_attempt hinit h
  · constructor
    · rintro ⟨r, hr, -⟩
      cases hr
    · refine iff_of_true habsent ?_
      intro r hr
      cases hr

end Attempts

/-- **When a table that was created has been initialized**: exactly when every failure of
the run, of a service call or of a step of the initializer, left the table absent.
SRC: aws/dynamodb/CreateDynamoDbTableTask.java:77-130,
aws/dynamodb/DynamoDbInitializerExecutor.java:35-79 -/
theorem created_table_initialized_iff (amazonDynamoDB : AmazonDynamoDB)
    (task : CreateDynamoDbTableTask) (s : DynamoDbStore) (hinit : task.initializer.isSome)
    (habsent : task.tableName ∉ s.names) (w' : DynamoDbWorld)
    (hrun : task.run amazonDynamoDB (World.start s) = (.returned (), w')) :
    (task.tableName ∈ w'.store.names ∧ Initialized task.tableName w') ↔
      AbsentWhenFailed task.tableName w' := by
  obtain ⟨initializer, hsome⟩ := Option.isSome_iff_exists.mp hinit
  obtain ⟨hpresent, hiff⟩ := Prog.wp_returned (wp_createTable_run hsome habsent) hrun
  constructor
  · rintro ⟨-, hinitialized⟩
    exact hiff.mp hinitialized
  · intro hall
    exact ⟨hpresent, hiff.mpr hall⟩

/-- A table with an initializer, in an environment with two other tables. -/
def productTask : CreateDynamoDbTableTask where
  tableName := "product"
  keySchema := [⟨"id", "HASH"⟩]
  attributeDefinitions := [⟨"id", "S"⟩]
  initializer := some "example.ProductTableInitializer"

/-- Two tables of other names. -/
def otherTables : DynamoDbStore :=
  ⟨[⟨"orders", [], [], [], [], none, none, none⟩, ⟨"audit", [], [], [], [], none, none, none⟩],
    by decide⟩

/-- The initializer's class is not found. -/
def classNotFoundFault : Fault Throwable :=
  ⟨.plain .classNotFoundException (some "example.ProductTableInitializer"), false⟩

/-- The service limits the rate of the calls. -/
def throttled : Fault Throwable :=
  ⟨.plain ⟨"com.amazonaws.services.dynamodbv2.model.LimitExceededException", true⟩ none, false⟩

/-- A failure while the names are listed costs an attempt, and the table is initialized in
the next. -/
theorem created_table_initialized_after_retry :
    Initialized "product" (productTask.run ⟨1, Nat.one_pos, .only 1 throttled⟩
      (World.start otherTables)).2 := by
  refine ((created_table_initialized_iff ⟨1, Nat.one_pos, .only 1 throttled⟩ productTask
    otherTables (by decide) (by decide) _ (Prod.ext (by decide) rfl)).mpr ?_).2
  unfold AbsentWhenFailed
  decide

/-- The class of the initializer is missing at the first attempt: the run returns, and the
table was never initialized. -/
theorem created_table_not_initialized :
    ¬ ∀ (amazonDynamoDB : AmazonDynamoDB) (task : CreateDynamoDbTableTask) (s : DynamoDbStore),
      task.initializer.isSome → task.tableName ∉ s.names → ∀ w' : DynamoDbWorld,
      task.run amazonDynamoDB (World.start s) = (.returned (), w') →
      task.tableName ∈ w'.store.names ∧ Initialized task.tableName w' := by
  intro h
  obtain ⟨-, hinitialized⟩ := h ⟨1, Nat.one_pos, .only 3 classNotFoundFault⟩ productTask
    otherTables (by decide) (by decide) _ (Prod.ext (by decide) rfl)
  unfold Initialized at hinitialized
  exact absurd hinitialized (by decide)

end GradleLocalstack.Analysis
