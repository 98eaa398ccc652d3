import GradleLocalstack.Analysis.TableReport

/-!
# Listing queues

`SqsTaskUtil.getQueueAttribute` asks for an attribute of a queue and looks for the text
`"attributeName"` in the answer, which is never there.  So `ListSqsQueuesTask` shows the
number 0 for every queue: the names and the URLs are right, the numbers only where there
are no messages.
-/

set_option autoImplicit false

namespace GradleLocalstack.Analysis

open Foundation GradleLocalstack.Model GradleLocalstack.Program

section QueueListing

variable {renderer : Renderer} {task : ListSqsQueuesTask} {catalog : Sqs.Catalog}
  {w : Sqs.World} {name : String} {q : Queue}

/-- The names of the queues that the service lists for the task. -/
def listedQueues (task : ListSqsQueuesTask) (catalog : Sqs.Catalog) : List String :=
  (catalog.listed (ListSqsQueuesTask.listQueuesRequest task)).getD []

/-- The row that the task should show for a queue: its name, its URL and the number of its
messages, as the service reports it. -/
def reportedRow (catalog : Sqs.Catalog) (name : String) : List (Option String) :=
  [some name, some (catalog.queueUrls.address name),
    (catalog.queues name).bind fun q => Sqs.queueAttribute q "ApproximateNumberOfMessages"]

/-- The row that the task shows for a queue. -/
def zeroRow (catalog : Sqs.Catalog) (name : String) : List (Option String) :=
  [some name, some (catalog.queueUrls.address name), some "0"]

/-- A run without failures shows what the service reports, however tables are drawn. -/
def ReportsQueues (task : ListSqsQueuesTask) (catalog : Sqs.Catalog) : Prop :=
  ∀ renderer : Renderer, (ListSqsQueuesTask.run ⟨.clear⟩ renderer task).wp
    (fun _ w => Shows renderer
      [some "QueueName", some "QueueUrl", some "ApproximateNumberOfMessages"]
      ((listedQueues task catalog).map (reportedRow catalog)) "No Queues Found!" w.console)
    (fun _ _ => False) (World.start catalog)

/-! ## What is shown -/

/-- A queue that is listed exists. -/
theorem isSome_of_listed (h : name ∈ listedQueues task catalog) :
    (catalog.queues name).isSome := by
  unfold listedQueues at h
  cases hlisted : catalog.listed (ListSqsQueuesTask.listQueuesRequest task) with
  | none =>
    rw [hlisted] at h
    cases h
  | some names =>
    rw [hlisted] at h
    exact catalog.queue_of_listed _ names hlisted name h

/-- The name is what follows the last slash of the URL. -/
theorem getQueueNameFromUrl_address (catalog : Sqs.Catalog) (hname : '/' ∉ name.toList) :
    SqsTaskUtil.getQueueNameFromUrl (some (catalog.queueUrls.address name)) = name := by
  obtain ⟨base, hbase⟩ := catalog.url_ends name
  have hslash : (base ++ "/").toList.getLast? = some '/' := by
    rw [String.toList_append, List.getLast?_append]
    rfl
  have hne : base ++ "/" ++ name ≠ "" := by
    intro hempty
    rw [String.append_eq_empty_iff, String.append_eq_empty_iff] at hempty
    exact absurd hempty.1.2 (by decide)
  unfold SqsTaskUtil.getQueueNameFromUrl
  dsimp only
  rw [hbase, if_pos hne]
  exact afterLast_append hslash hname

/-- The answer holds the number under the name that was asked for, and nothing else. -/
theorem get_numberOfMessages (q : Queue) (key : String) :
    (Sqs.queueAttributes q ["ApproximateNumberOfMessages"]).get key =
      if key = "ApproximateNumberOfMessages" then some (toString q.messages.length) else none :=
  AttributeMap.get_put

/-- **The number that is read** is 0 for every queue. -/
theorem wp_getApproximateNumberOfMessages (hq : w.store.queues name = some q) :
    (SqsTaskUtil.getApproximateNumberOfMessages ⟨.clear⟩ (w.store.queueUrls.address name)).wp
      (fun n w' => n = 0 ∧ w'.store = w.store ∧ w'.console = w.console)
      (fun _ _ => False) w := by
  have hanswer : Sqs.getQueueAttributes w.store (w.store.queueUrls.address name)
      ["ApproximateNumberOfMessages"] =
      .ok (Sqs.queueAttributes q ["ApproximateNumberOfMessages"]) := by
    simp only [Sqs.getQueueAttributes, w.store.queueUrls.resolve_address, hq]
  have hx : Sqs.service.exec (.getQueueAttributes (w.store.queueUrls.address name)
      ["ApproximateNumberOfMessages"]) w.store =
      (.ok (Sqs.queueAttributes q ["ApproximateNumberOfMessages"]), w.store) :=
    Prod.ext hanswer rfl
  have hnone : (Sqs.queueAttributes q ["ApproximateNumberOfMessages"]).get "attributeName" =
      none := by
    rw [get_numberOfMessages, if_neg (by decide)]
  unfold SqsTaskUtil.getApproximateNumberOfMessages SqsTaskUtil.getQueueAttribute
  simp only [Prog.wp_bind]
  apply Prog.wp_conseq (wp_call_clear hx)
  intro _ w' hw'
  obtain ⟨rfl, rfl⟩ := hw'
  rw [Prog.wp_pure, hnone]
  exact ⟨rfl, rfl, rfl⟩

/-- **The loop over the URLs** adds a row for each queue. -/
theorem wp_addQueues (names : List String) (hnames : ∀ name ∈ names, '/' ∉ name.toList)
    (hexist : ∀ name ∈ names, (catalog.queues name).isSome) (table : AsciiTable)
    (hstore : w.store = catalog) :
    ((names.map catalog.queueUrls.address).foldlM (ListSqsQueuesTask.addQueue ⟨.clear⟩) table).wp
      (fun table' w' => table' = table.addRows (zeroRow catalog) names ∧
        w'.console = w.console)
      (fun _ _ => False) w := by
  rw [List.foldlM_map]
  -- the queues in `rest` have no row yet
  let I : List String → AsciiTable → Sqs.World → Prop := fun rest table' w' =>
    ∃ done, names = done ++ rest ∧ table' = table.addRows (zeroRow catalog) done ∧
      w'.store = catalog ∧ w'.console = w.console
  refine Prog.wp_conseq (Prog.wp_foldlM I ?_ names table w ⟨[], rfl, rfl, hstore, rfl⟩) ?_
  · intro name rest table₁ w₁ hI
    obtain ⟨done, hsplit, rfl, hstore₁, hconsole₁⟩ := hI
    have hmem : name ∈ names := by
      rw [hsplit]
      exact List.mem_append_right _ List.mem_cons_self
    obtain ⟨q, hq⟩ := Option.isSome_iff_exists.mp (hexist name hmem)
    unfold ListSqsQueuesTask.addQueue
    rw [Prog.wp_bind, ← hstore₁]
    rw [← hstore₁] at hq
    apply Prog.wp_conseq (wp_getApproximateNumberOfMessages hq)
    intro _ w₂ hw₂
    obtain ⟨rfl, hstore₂, hconsole₂⟩ := hw₂
    refine ⟨done ++ [name], ?_, ?_, hstore₂.trans hstore₁, hconsole₂.trans hconsole₁⟩
    · rw [hsplit, List.append_assoc, List.singleton_append]
    · rw [AsciiTable.addRows_append, getQueueNameFromUrl_address _ (hnames name hmem), hstore₁]
      rfl
  · intro table' w' hI
    obtain ⟨done, hsplit, htable, -, hconsole⟩ := hI
    rw [List.append_nil] at hsplit
    rw [hsplit]
    exact ⟨htable, hconsole⟩

/-- The table that the task shows. -/
def zeroTable (task : ListSqsQueuesTask) (catalog : Sqs.Catalog) : AsciiTable :=
  ListSqsQueuesTask.emptyTable.addRows (zeroRow catalog) (listedQueues task catalog)

/-- The rows of the table with the number 0 for every queue. -/
theorem rows_zeroTable :
    (zeroTable task catalog).rows =
      [some "QueueName", some "QueueUrl", some "ApproximateNumberOfMessages"] ::
        (listedQueues task catalog).map (zeroRow catalog) := by
  unfold zeroTable
  rw [AsciiTable.rows_addRows]
  rfl

/-- **The run**: it shows 0 for every queue that is listed. -/
theorem wp_listSqsQueues_run (renderer : Renderer)
    (hnames : ∀ name ∈ listedQueues task catalog, '/' ∉ name.toList) :
    (ListSqsQueuesTask.run ⟨.clear⟩ renderer task).wp
      (fun _ w => w.console = [.line (if listedQueues task catalog = [] then "No Queues Found!"
        else renderer.render (zeroTable task catalog))])
      (fun _ _ => False) (World.start catalog) := by
  have hx : Sqs.service.exec (.listQueues (ListSqsQueuesTask.listQueuesRequest task)) catalog =
      (.ok ((catalog.listed (ListSqsQueuesTask.listQueuesRequest task)).map
        (List.map catalog.queueUrls.address)), catalog) := rfl
  apply wp_execute_first defaultMaxRetries_pos
  simp only [Prog.wp_bind]
  apply Prog.wp_conseq (wp_call_clear hx)
  intro _ w₁ hw₁
  obtain ⟨rfl, rfl⟩ := hw₁
  unfold zeroTable listedQueues at *
  have hexist := catalog.queue_of_listed (ListSqsQueuesTask.listQueuesRequest task)
  cases hlisted : catalog.listed (ListSqsQueuesTask.listQueuesRequest task) with
  | none => exact rfl
  | some names =>
    cases names with
    | nil => exact rfl
    | cons name names =>
      rw [hlisted] at hnames
      have hloop := wp_addQueues (w := World.record (World.start catalog)
        (.listQueues (ListSqsQueuesTask.listQueuesRequest task)) none catalog) (name :: names)
        hnames (hexist _ hlisted) ListSqsQueuesTask.emptyTable rfl
      simp only [Option.map_some, List.map_cons, Prog.wp_bind, wp_log]
      apply Prog.wp_conseq hloop
      intro _ w₂ hw₂
      obtain ⟨rfl, hconsole⟩ := hw₂
      rw [World.console_emit, hconsole]
      rfl

/-! ## What should be shown -/

/-- A renderer that tells the rows of one table from all others. -/
def Telling (rows : List (List (Option String))) : Renderer where
  render table := if table.rows = rows then "this\n" else "another\n"
  newline_mem_render table _ := by
    split <;> decide

/-- What a run shows of two tables with different rows is not the same for every renderer. -/
theorem rows_eq_of_reportsQueues (h : ReportsQueues task catalog)
    (hnames : ∀ name ∈ listedQueues task catalog, '/' ∉ name.toList) :
    (listedQueues task catalog).map (reportedRow catalog) =
      (listedQueues task catalog).map (zeroRow catalog) := by
  by_cases hempty : listedQueues task catalog = []
  · rw [hempty]
    rfl
  · let renderer := Telling (zeroTable task catalog).rows
    obtain ⟨hreturned, hconsole⟩ := Prog.wp_returns (wp_listSqsQueues_run renderer hnames)
    have hshows := Prog.wp_returned (h renderer) (Prod.ext hreturned rfl)
    have hne : (listedQueues task catalog).map (reportedRow catalog) ≠ [] := by
      simpa using hempty
    obtain ⟨-, table, hrows, htable⟩ := hshows.1 hne
    rw [hconsole, if_neg hempty, List.cons.injEq, Output.line.injEq] at htable
    have hsame : table.rows = (zeroTable task catalog).rows := by
      by_contra hother
      have hthis : renderer.render (zeroTable task catalog) = "this\n" := if_pos rfl
      have hanother : renderer.render table = "another\n" := if_neg hother
      rw [hthis, hanother] at htable
      exact absurd htable.1 (by decide)
    rw [hrows, rows_zeroTable, List.cons.injEq] at hsame
    exact hsame.2

/-- The row of a queue is the reported one exactly if it holds no messages. -/
theorem reportedRow_eq_iff (hq : catalog.queues name = some q) :
    reportedRow catalog name = zeroRow catalog name ↔ q.messages = [] := by
  have hvalue : (catalog.queues name).bind
      (fun q => Sqs.queueAttribute q "ApproximateNumberOfMessages") =
        some (toString q.messages.length) := by
    rw [hq]
    rfl
  unfold reportedRow zeroRow
  rw [hvalue]
  constructor
  · intro hrow
    rw [List.cons.injEq, List.cons.injEq, List.cons.injEq] at hrow
    have hcell : toString q.messages.length = toString 0 := Option.some.inj hrow.2.2.1
    have hlength : (q.messages.length : ℤ) = 0 := toString_injective hcell
    exact List.length_eq_zero_iff.mp (Int.ofNat_eq_zero.mp hlength)
  · intro hnil
    rw [hnil]
    rfl

/-- **The queue listing reports the truth** exactly when no queue that is listed holds a
message.
SRC: aws/sqs/ListSqsQueuesTask.java:43-74, aws/sqs/SqsTaskUtil.java:122-157 -/
theorem queue_listing_truthful_iff (task : ListSqsQueuesTask) (catalog : Sqs.Catalog)
    (hnames : ∀ name ∈ listedQueues task catalog, '/' ∉ name.toList) :
    ReportsQueues task catalog ↔
      ∀ name ∈ listedQueues task catalog, ∀ q, catalog.queues name = some q →
        q.messages = [] := by
  constructor
  · intro h name hname q hq
    have hrows := rows_eq_of_reportsQueues h hnames
    exact (reportedRow_eq_iff hq).mp (List.map_eq_map_iff.mp hrows name hname)
  · intro hempty renderer
    have hrows : (listedQueues task catalog).map (reportedRow catalog) =
        (listedQueues task catalog).map (zeroRow catalog) := by
      apply List.map_congr_left
      intro name hname
      obtain ⟨q, hq⟩ := Option.isSome_iff_exists.mp (isSome_of_listed hname)
      exact (reportedRow_eq_iff hq).mpr (hempty name hname q hq)
    apply Prog.wp_conseq (wp_listSqsQueues_run renderer hnames)
    intro _ w hconsole
    rw [hconsole, hrows]
    by_cases hnone : listedQueues task catalog = []
    · rw [if_pos hnone, hnone]
      exact shows_message
    · rw [if_neg hnone]
      have hne : (listedQueues task catalog).map (zeroRow catalog) ≠ [] := by simpa using hnone
      exact shows_table (by decide) hne rows_zeroTable

end QueueListing

/-- A catalog with one queue that holds the given messages. -/
def oneQueueCatalog (messages : List String) : Sqs.Catalog where
  queueUrls := .prefixed "http://localhost:4566/000000000000/"
  queues name := if name = "orders" then some ⟨.empty, messages⟩ else none
  listed _ := some ["orders"]
  url_ends name := ⟨"http://localhost:4566/000000000000", rfl⟩
  queue_of_listed := by
    intro _ names hnames name hname
    cases hnames
    rw [List.mem_singleton.mp hname]
    rfl

/-- An empty queue is listed as it is. -/
theorem empty_queue_listed : ReportsQueues {} (oneQueueCatalog []) := by
  apply (queue_listing_truthful_iff {} (oneQueueCatalog []) (by decide)).mpr
  intro name hname q hq
  rw [List.mem_singleton.mp hname] at hq
  cases hq
  rfl

/-- A queue with a message is listed as an empty one. -/
theorem queue_listing_hides_messages :
    ¬ ∀ (task : ListSqsQueuesTask) (catalog : Sqs.Catalog),
      (∀ name ∈ listedQueues task catalog, '/' ∉ name.toList) → ReportsQueues task catalog := by
  intro h
  have hnames : ∀ name ∈ listedQueues {} (oneQueueCatalog ["1"]), '/' ∉ name.toList := by decide
  have hrows := rows_eq_of_reportsQueues (h {} (oneQueueCatalog ["1"]) hnames) hnames
  exact absurd hrows (by decide)

end GradleLocalstack.Analysis
