import GradleLocalstack.Analysis.RetryRule
import GradleLocalstack.Program.ListTasks

/-!
# Tables of what was listed

A task that walks through a listing should print one table of all items, or one message if
there are none (`Shows`).  `ListCFStacksTask` and `ListDynamoDBTablesTask` decide from page
to page instead: every page without items is reported, and only a last page with items
brings the table.  What they print is worked out for every division into pages
(`wp_listPages`); it is what it should be if no page is empty, and if there is one page.
-/

set_option autoImplicit false

namespace GradleLocalstack.Analysis

open Foundation GradleLocalstack.Model GradleLocalstack.Program

/-! ## What should be printed -/

/-- The console shows one table with the given rows below its heading and no message, or,
without rows, the message and no table. -/
def Shows (renderer : Renderer) (heading : List (Option String))
    (rows : List (List (Option String))) (notFound : String) (console : List Output) : Prop :=
  (rows ≠ [] → .line notFound ∉ console ∧ ∃ table : AsciiTable,
    table.rows = heading :: rows ∧ console = [.line (renderer.render table)]) ∧
  (rows = [] → console = [.line notFound])

/-- The walk through a feed, with enough rounds and without failures, ends with all its
items shown. -/
def NothingHidden {σ κ α : Type} (renderer : Renderer)
    (run : ℕ → Prog (World σ κ Throwable) Throwable Unit) (s : σ)
    (heading : List (Option String)) (row : α → List (Option String)) (notFound : String)
    (F : Feed α String) : Prop :=
  Prog.ReturnsWith run (fun _ w => Shows renderer heading (F.items.map row) notFound w.console)
    (World.start s)

section Shown

variable {renderer : Renderer} {heading : List (Option String)} {notFound : String}
  {table : AsciiTable} {rows : List (List (Option String))}

/-- A table with rows has at least two lines. -/
theorem two_le_length_lines (hrows : rows ≠ []) (h : table.rows = heading :: rows) :
    2 ≤ table.lines.length := by
  have hle : table.rows.length ≤ table.lines.length := List.length_filterMap_le ..
  have hpos : 0 < rows.length := List.length_pos_iff.mpr hrows
  rw [h, List.length_cons] at hle
  omega

/-- A table of something is not taken for a message on one line. -/
theorem line_render_ne (hmessage : '\n' ∉ notFound.toList) (hrows : rows ≠ [])
    (h : table.rows = heading :: rows) :
    Output.line (renderer.render table) ≠ .line notFound := by
  intro heq
  exact renderer.render_ne (two_le_length_lines hrows h) hmessage (Output.line.inj heq)

/-- With rows, the table alone is what should be shown. -/
theorem shows_table (hmessage : '\n' ∉ notFound.toList) (hrows : rows ≠ [])
    (h : table.rows = heading :: rows) :
    Shows renderer heading rows notFound [.line (renderer.render table)] := by
  refine ⟨fun _ => ⟨?_, table, h, rfl⟩, fun hnil => absurd hnil hrows⟩
  rw [List.mem_singleton]
  exact (line_render_ne hmessage hrows h).symm

/-- Without rows, the message alone is what should be shown. -/
theorem shows_message : Shows renderer heading [] notFound [.line notFound] :=
  ⟨fun hne => absurd rfl hne, fun _ => rfl⟩

end Shown

/-! ## What is printed -/

section Printed

variable {σ κ α : Type} {renderer : Renderer}
  {fetch : Option String → Prog (World σ κ Throwable) Throwable (Listing α String)}
  {row : α → List (Option String)} {notFound : String} {F : Feed α String} {s : σ}

/-- What the pages before page number `n` have brought to the console. -/
def printed (renderer : Renderer) (row : α → List (Option String)) (notFound : String)
    (table : AsciiTable) (F : Feed α String) (n : ℕ) : List Output :=
  List.replicate ((F.pages.take n).countP List.isEmpty) (.line notFound) ++
    if n = F.pages.length ∧ F.last ≠ [] then
      [.line (renderer.render (table.addRows row F.items))]
    else []

/-- One more page is one more empty page if it has no items. -/
theorem countP_take_succ {n : ℕ} (h : n < F.pages.length) :
    (F.pages.take (n + 1)).countP List.isEmpty =
      (F.pages.take n).countP List.isEmpty + if (F.page n).items = [] then 1 else 0 := by
  rw [Feed.page_items h, List.take_succ_eq_append_getElem h, List.countP_append]
  simp [List.countP_cons]

/-- What page number `n` brings to the console. -/
theorem printed_succ (table : AsciiTable) {n : ℕ} (hn : n < F.pages.length) :
    printed renderer row notFound table F (n + 1) =
      printed renderer row notFound table F n ++
        (if (F.page n).items = [] then [.line notFound] else []) ++
        if (F.page n).nextToken = none ∧ (F.page n).items ≠ [] then
          [.line (renderer.render (table.addRows row (F.before (n + 1))))]
        else [] := by
  have hbefore : printed renderer row notFound table F n =
      List.replicate ((F.pages.take n).countP List.isEmpty) (.line notFound) := by
    unfold printed
    rw [if_neg (fun h => Nat.ne_of_lt hn h.1), List.append_nil]
  have hmessages : List.replicate ((F.pages.take (n + 1)).countP List.isEmpty)
      (Output.line notFound) = printed renderer row notFound table F n ++
        if (F.page n).items = [] then [.line notFound] else [] := by
    rw [hbefore, countP_take_succ hn]
    split
    · exact List.replicate_succ'
    · exact (List.append_nil _).symm
  rw [← hmessages]
  unfold printed
  by_cases hlast : n + 1 = F.pages.length
  · rw [Feed.nextToken_of_last hlast, Feed.page_items_of_last hlast, hlast, Feed.before_length]
    simp only [true_and]
  · have hnext : (F.page n).nextToken ≠ none :=
      fun hnone => hlast ((Feed.nextToken_eq_none_iff hn).mp hnone)
    rw [if_neg (fun h => hlast h.1), if_neg (fun h => hnext h.1)]

/-- **One page**: its items go into the table, and it may bring a line to the console. -/
theorem wp_listPage (table : AsciiTable) {n : ℕ} (hn : n < F.pages.length)
    {w : World σ κ Throwable}
    (hfetch : (fetch (F.token n)).wp (fun l w' => l = F.page n ∧ w'.store = w.store ∧
      w'.console = w.console) (fun _ _ => False) w)
    (hconsole : w.console = printed renderer row notFound table F n) :
    (listPage renderer fetch row notFound (table.addRows row (F.before n)) (F.token n)).wp
      (fun r w' => r.2 = (F.page n).nextToken ∧ r.1 = table.addRows row (F.before (n + 1)) ∧
        w'.store = w.store ∧ w'.console = printed renderer row notFound table F (n + 1))
      (fun _ _ => False) w := by
  unfold listPage
  rw [Prog.wp_bind]
  apply Prog.wp_conseq hfetch
  intro _ w₁ hw₁
  obtain ⟨rfl, hstore₁, hconsole₁⟩ := hw₁
  have htable : (table.addRows row (F.before n)).addRows row (F.page n).items =
      table.addRows row (F.before (n + 1)) := by
    rw [Feed.before_succ hn, AsciiTable.addRows_append]
  rw [htable, printed_succ table hn, ← hconsole, ← hconsole₁, ← hstore₁]
  by_cases hempty : (F.page n).items = []
  · simp [hempty]
  · by_cases hnext : (F.page n).nextToken = none
    · simp [hempty, hnext]
    · simp [hempty, hnext]

/-- **The walk**: what is printed in the end. -/
theorem wp_listPages (table : AsciiTable)
    (hfetch : ∀ n w, n < F.pages.length → w.store = s → (fetch (F.token n)).wp
      (fun l w' => l = F.page n ∧ w'.store = w.store ∧ w'.console = w.console)
      (fun _ _ => False) w)
    {rounds : ℕ} (hrounds : F.pages.length ≤ rounds) :
    (Retry.executeDefault do
      let _ ← tokenLoop (listPage renderer fetch row notFound) rounds table
      pure ()).wp
      (fun _ w' => w'.console = printed renderer row notFound table F F.pages.length)
      (fun _ _ => False) (World.start s) := by
  apply wp_execute_first defaultMaxRetries_pos
  rw [Prog.wp_bind]
  let I : ℕ → AsciiTable → World σ κ Throwable → Prop := fun n table' w =>
    w.store = s ∧ table' = table.addRows row (F.before n) ∧
      w.console = printed renderer row notFound table F n
  have hstart : I 0 table (World.start s) := by
    refine ⟨rfl, rfl, ?_⟩
    have hpos : 0 ≠ F.pages.length := Nat.ne_of_lt F.length_pos
    unfold printed
    rw [if_neg (fun h => hpos h.1)]
    rfl
  refine Prog.wp_conseq (wp_tokenLoop F I ?_ rounds hrounds table (World.start s) hstart) ?_
  · intro n _ w hn hhn
    obtain ⟨hstore, rfl, hconsole⟩ := hhn
    apply Prog.wp_conseq (wp_listPage table hn (hfetch n w hn hstore) hconsole)
    intro r w' hw'
    obtain ⟨hnext, htable, hstore', hconsole'⟩ := hw'
    exact ⟨hnext, hstore'.trans hstore, htable, hconsole'⟩
  · intro _ w' hw'
    obtain ⟨-, -, hconsole⟩ := hw'
    exact hconsole

/-! ## When that is what should be printed -/

/-- The table is there and nothing else is said if no page is empty; a listing of one page
is shown either way; and otherwise an empty page is reported beside other items or twice. -/
theorem shows_printed_iff {table : AsciiTable} {heading : List (Option String)}
    (htable : table.rows = [heading]) (hmessage : '\n' ∉ notFound.toList) :
    Shows renderer heading (F.items.map row) notFound
        (printed renderer row notFound table F F.pages.length) ↔
      (∀ page ∈ F.pages, page ≠ []) ∨ F.pages.length = 1 := by
  have hall : printed renderer row notFound table F F.pages.length =
      List.replicate (F.pages.countP List.isEmpty) (.line notFound) ++
        if F.last ≠ [] then [.line (renderer.render (table.addRows row F.items))] else [] := by
    unfold printed
    rw [List.take_length]
    simp only [true_and]
  have hrows : (table.addRows row F.items).rows = heading :: F.items.map row := by
    rw [AsciiTable.rows_addRows, htable, List.singleton_append]
  have hlast_mem : F.last ∈ F.pages := List.getLast_mem F.pages_ne_nil
  rw [hall]
  constructor
  · rintro ⟨hsome, hnone⟩
    by_cases hitems : F.items = []
    · -- every page is empty, and each was reported
      right
      have hempty : ∀ page ∈ F.pages, page = [] := List.flatten_eq_nil_iff.mp hitems
      have hcount : F.pages.countP List.isEmpty = F.pages.length := by
        rw [List.countP_eq_length]
        intro page hpage
        rw [hempty page hpage]
        rfl
      have honly := hnone (by rw [hitems, List.map_nil])
      rw [hcount, if_neg (not_not.mpr (hempty F.last hlast_mem)), List.append_nil] at honly
      simpa using congrArg List.length honly
    · -- an empty page would have been reported
      left
      intro page hpage hpage_nil
      have hmapped : F.items.map row ≠ [] := fun h => hitems (List.map_eq_nil_iff.mp h)
      apply (hsome hmapped).1
      apply List.mem_append_left
      rw [List.mem_replicate]
      refine ⟨?_, rfl⟩
      have hpos : 0 < F.pages.countP List.isEmpty := by
        rw [List.countP_pos_iff]
        exact ⟨page, hpage, by rw [hpage_nil]; rfl⟩
      omega
  · intro hcases
    have hfull (hne : ∀ page ∈ F.pages, page ≠ []) :
        F.pages.countP List.isEmpty = 0 ∧ F.last ≠ [] ∧ F.items.map row ≠ [] := by
      have hlast : F.last ≠ [] := hne F.last hlast_mem
      refine ⟨?_, hlast, ?_⟩
      · rw [List.countP_eq_zero]
        intro page hpage hempty
        exact hne page hpage (List.isEmpty_iff.mp hempty)
      · intro hmapped
        have hitems : F.pages.flatten = [] := List.map_eq_nil_iff.mp hmapped
        exact hlast (List.flatten_eq_nil_iff.mp hitems F.last hlast_mem)
    by_cases hne : ∀ page ∈ F.pages, page ≠ []
    · obtain ⟨hcount, hlast, hmapped⟩ := hfull hne
      rw [hcount, if_pos hlast]
      exact shows_table hmessage hmapped hrows
    · -- the only page is empty
      obtain ⟨page, hpages⟩ := List.length_eq_one_iff.mp (hcases.resolve_left hne)
      have hpage : page = [] := by
        by_contra hpage
        apply hne
        intro page' hpage'
        rw [hpages, List.mem_singleton] at hpage'
        rwa [hpage']
      have hlast : F.last = [] := by
        rw [hpages, List.mem_singleton] at hlast_mem
        rw [hlast_mem, hpage]
      have hitems : F.items = [] := by
        unfold Feed.items
        rw [hpages, hpage]
        rfl
      rw [hpages, hpage, hlast, hitems]
      exact shows_message

/-- Whether a run shows everything is a matter of what it prints. -/
theorem nothingHidden_iff {run : ℕ → Prog (World σ κ Throwable) Throwable Unit}
    {table : AsciiTable} {heading : List (Option String)} (htable : table.rows = [heading])
    (hmessage : '\n' ∉ notFound.toList)
    (hrun : ∀ rounds, F.pages.length ≤ rounds → (run rounds).wp
      (fun _ w' => w'.console = printed renderer row notFound table F F.pages.length)
      (fun _ _ => False) (World.start s)) :
    NothingHidden renderer run s heading row notFound F ↔
      (∀ page ∈ F.pages, page ≠ []) ∨ F.pages.length = 1 := by
  rw [← shows_printed_iff htable hmessage]
  constructor
  · intro h
    obtain ⟨_, w', hshows, hconsole⟩ := h.exists_and hrun
    rwa [hconsole] at hshows
  · intro hshows
    apply Prog.returnsWith_of_wp F.pages.length
    intro rounds hrounds
    apply Prog.wp_conseq (hrun rounds hrounds)
    intro _ w' hconsole
    rwa [hconsole]

end Printed

/-! ## The two tasks -/

section Tasks

variable {w : CloudFormation.World} {v : DynamoDb.ListingWorld} {n : ℕ}

/-- Without failures, a page of stacks is answered. -/
theorem wp_listStacks (task : ListCFStacksTask)
    (hn : n < (w.store (ListCFStacksTask.parseStatusFilter task.statusFilter)).pages.length) :
    (ListCFStacksTask.listStacks ⟨.clear⟩ task
      ((w.store (ListCFStacksTask.parseStatusFilter task.statusFilter)).token n)).wp
      (fun l w' => l = (w.store (ListCFStacksTask.parseStatusFilter task.statusFilter)).page n ∧
        w'.store = w.store ∧ w'.console = w.console)
      (fun _ _ => False) w := by
  have hfind : CloudFormation.find (ListCFStacksTask.parseStatusFilter task.statusFilter)
      w.store = .ok (w.store (ListCFStacksTask.parseStatusFilter task.statusFilter)) := rfl
  exact wp_page_clear hfind hn

/-- Without failures, a page of tables is answered. -/
theorem wp_listTables (hn : n < v.store.pages.length) :
    ((⟨.clear⟩ : ListingClient).listTables (v.store.token n)).wp
      (fun l v' => l = v.store.page n ∧ v'.store = v.store ∧ v'.console = v.console)
      (fun _ _ => False) v := by
  have hfind : DynamoDb.find () v.store = .ok v.store := rfl
  exact wp_page_clear hfind hn

end Tasks

/-- `ListCFStacksTask` shows every stack exactly when no page is empty or there is only
one. -/
theorem stacks_shown_iff (renderer : Renderer) (task : ListCFStacksTask)
    (catalog : CloudFormation.Catalog) :
    let F := catalog (ListCFStacksTask.parseStatusFilter task.statusFilter)
    NothingHidden renderer (ListCFStacksTask.run ⟨.clear⟩ renderer task) catalog
        [some "StackId", some "StackName", some "StackStatus", some "CreationTime"]
        ListCFStacksTask.row "No Stacks Found!" F ↔
      (∀ page ∈ F.pages, page ≠ []) ∨ F.pages.length = 1 := by
  have htable : ListCFStacksTask.emptyTable.rows = [_] := rfl
  apply nothingHidden_iff htable (by decide)
  intro rounds hrounds
  apply wp_listPages ListCFStacksTask.emptyTable _ hrounds
  intro n w hn hstore
  subst hstore
  exact wp_listStacks task hn

/-- `ListDynamoDBTablesTask` shows every table exactly when no page is empty or there is
only one. -/
theorem tables_shown_iff (renderer : Renderer) (F : Feed String String) :
    NothingHidden renderer (ListDynamoDBTablesTask.run ⟨.clear⟩ renderer) F
        [some "TableName"] ListDynamoDBTablesTask.row "No Tables Found!" F ↔
      (∀ page ∈ F.pages, page ≠ []) ∨ F.pages.length = 1 := by
  have htable : ListDynamoDBTablesTask.emptyTable.rows = [_] := rfl
  apply nothingHidden_iff htable (by decide)
  intro rounds hrounds
  apply wp_listPages ListDynamoDBTablesTask.emptyTable _ hrounds
  intro n w hn hstore
  subst hstore
  exact wp_listTables hn

/-- **The stacks and the tables are shown as they should be** exactly when no page is empty
or there is only one.
SRC: aws/cloudformation/ListCFStacksTask.java:45-92,
aws/dynamodb/ListDynamoDBTablesTask.java:34-67 -/
theorem nothing_hidden_iff (renderer : Renderer) :
    (∀ (task : ListCFStacksTask) (catalog : CloudFormation.Catalog),
      let F := catalog (ListCFStacksTask.parseStatusFilter task.statusFilter)
      NothingHidden renderer (ListCFStacksTask.run ⟨.clear⟩ renderer task) catalog
          [some "StackId", some "StackName", some "StackStatus", some "CreationTime"]
          (fun stack => [some stack.stackId, some stack.stackName, some stack.stackStatus,
            some stack.creationTime]) "No Stacks Found!" F ↔
        (∀ page ∈ F.pages, page ≠ []) ∨ F.pages.length = 1) ∧
    (∀ F : Feed String String,
      NothingHidden renderer (ListDynamoDBTablesTask.run ⟨.clear⟩ renderer) F
          [some "TableName"] (fun tableName => [some tableName]) "No Tables Found!" F ↔
        (∀ page ∈ F.pages, page ≠ []) ∨ F.pages.length = 1) :=
  ⟨stacks_shown_iff renderer, tables_shown_iff renderer⟩

/-- A page with one item, and a last page on which nothing is left. -/
def nothingLeft {α : Type} (a : α) : Feed α String := ⟨[[a], []], List.cons_ne_nil _ _, .unary⟩

/-- Its last page is empty and it has two. -/
theorem not_shown_nothingLeft {α : Type} (a : α) :
    ¬ ((∀ page ∈ (nothingLeft a).pages, page ≠ []) ∨ (nothingLeft a).pages.length = 1) := by
  simp [nothingLeft]

/-- A last page on which nothing is left hides what was listed before. -/
theorem empty_last_page_hides :
    (¬ ∀ (renderer : Renderer) (task : ListCFStacksTask) (catalog : CloudFormation.Catalog),
      NothingHidden renderer (ListCFStacksTask.run ⟨.clear⟩ renderer task) catalog
        [some "StackId", some "StackName", some "StackStatus", some "CreationTime"]
        (fun stack => [some stack.stackId, some stack.stackName, some stack.stackStatus,
          some stack.creationTime]) "No Stacks Found!"
        (catalog (ListCFStacksTask.parseStatusFilter task.statusFilter))) ∧
    (¬ ∀ (renderer : Renderer) (F : Feed String String),
      NothingHidden renderer (ListDynamoDBTablesTask.run ⟨.clear⟩ renderer) F
        [some "TableName"] (fun tableName => [some tableName]) "No Tables Found!" F) := by
  constructor
  · intro h
    have hshown := h .plain {} fun _ =>
      nothingLeft ⟨"arn:orders", "orders", "CREATE_COMPLETE", "Wed Jan 01 00:00:00 UTC 2020"⟩
    exact not_shown_nothingLeft _ ((stacks_shown_iff ..).mp hshown)
  · intro h
    have hshown := h .plain (nothingLeft "orders")
    exact not_shown_nothingLeft _ ((tables_shown_iff ..).mp hshown)

end GradleLocalstack.Analysis
