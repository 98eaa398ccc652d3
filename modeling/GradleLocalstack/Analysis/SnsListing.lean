import Mathlib.Data.Finset.Order
import GradleLocalstack.Analysis.MessagingService
import GradleLocalstack.Analysis.TableReport

/-!
# Listing topics and subscriptions

`SnsTaskUtil.getSubscriptions` asks for each page with the token of the one before, and so
gets every subscription once and in order; `ListSnsTopicsTask` does the same with the
topics, and prints one row for each.  `ListSnsTopicSubscriptionsTask` asks for the first
page again and again: it ends, and then agrees with `getSubscriptions`, exactly if there is
only one page.
-/

set_option autoImplicit false

namespace GradleLocalstack.Analysis

open Foundation GradleLocalstack.Model GradleLocalstack.Program

/-! ## The pages -/

section Pages

variable {w : Sns.World} {n : ℕ}

/-- Without failures, a page of topics is answered. -/
theorem wp_listTopics (hn : n < w.store.topics.pages.length) :
    ((⟨.clear⟩ : ListingClient).listTopics (w.store.topics.token n)).wp
      (fun l w' => l = w.store.topics.page n ∧ w'.store = w.store ∧ w'.console = w.console)
      (fun _ _ => False) w := by
  have hfind : Sns.find .listTopics w.store = .ok w.store.topics := rfl
  exact wp_page_clear hfind hn

/-- Without failures, a page of the subscriptions of a topic is answered. -/
theorem wp_listSubscriptions {topicArn : String} {F : Feed Sns.Subscription String}
    (hF : w.store.subscriptions topicArn = some F) (hn : n < F.pages.length) :
    ((⟨.clear⟩ : ListingClient).listSubscriptionsByTopic topicArn (F.token n)).wp
      (fun l w' => l = F.page n ∧ w'.store = w.store ∧ w'.console = w.console)
      (fun _ _ => False) w := by
  have hfind : Sns.find (.listSubscriptionsByTopic topicArn) w.store = .ok F := by
    simp only [Sns.find, hF]
  exact wp_page_clear hfind hn

/-- **All subscriptions of a topic**, whatever the pages. -/
theorem wp_getSubscriptions {topicArn : String} {F : Feed Sns.Subscription String}
    (hF : w.store.subscriptions topicArn = some F) (hne : topicArn ≠ "") {rounds : ℕ}
    (hrounds : F.pages.length ≤ rounds) :
    (SnsTaskUtil.getSubscriptions ⟨.clear⟩ rounds (some topicArn)).wp
      (fun subscriptions w' => subscriptions = F.items ∧ w'.store = w.store ∧
        w'.console = w.console)
      (fun _ _ => False) w := by
  unfold SnsTaskUtil.getSubscriptions
  dsimp only
  rw [if_pos hne]
  let I : ℕ → List Sns.Subscription → Sns.World → Prop := fun n subscriptions w' =>
    subscriptions = F.before n ∧ w'.store = w.store ∧ w'.console = w.console
  refine Prog.wp_conseq (wp_tokenLoop F I ?_ rounds hrounds [] w ⟨rfl, rfl, rfl⟩) ?_
  · intro n _ w₁ hn hhn
    obtain ⟨rfl, hstore₁, hconsole₁⟩ := hhn
    rw [Prog.wp_bind]
    have hF₁ : w₁.store.subscriptions topicArn = some F := by rw [hstore₁, hF]
    apply Prog.wp_conseq (wp_listSubscriptions hF₁ hn)
    intro _ w₂ hw₂
    obtain ⟨rfl, hstore₂, hconsole₂⟩ := hw₂
    refine ⟨rfl, ?_, hstore₂.trans hstore₁, hconsole₂.trans hconsole₁⟩
    exact (Feed.before_succ hn).symm
  · intro _ w' hw'
    obtain ⟨rfl, hstore, hconsole⟩ := hw'
    exact ⟨Feed.before_length, hstore, hconsole⟩

end Pages

/-! ## ARNs of topics -/

/-- The ARN of a topic is not empty. -/
theorem getTopicArn_ne_empty (project : Project) (topicName : String) :
    SnsTaskUtil.getTopicArn project topicName ≠ "" := by
  intro h
  have hparts := h
  simp only [SnsTaskUtil.getTopicArn, String.append_eq_empty_iff] at hparts
  exact absurd hparts.1.1.1 (by decide)

/-- **`getTopicName` undoes `getTopicArn`** on names without colons, whatever the signing
region. -/
theorem getTopicName_getTopicArn (project : Project) {topicName : String}
    (hname : ':' ∉ topicName.toList) :
    SnsTaskUtil.getTopicName (some (SnsTaskUtil.getTopicArn project topicName)) =
      some topicName := by
  unfold SnsTaskUtil.getTopicName
  dsimp only
  rw [if_pos (getTopicArn_ne_empty project topicName)]
  unfold SnsTaskUtil.getTopicArn
  have hcolon : ("arn:aws:sns:" ++ nullable project.localstack.signingRegion ++
      ":000000000000:").toList.getLast? = some ':' := by
    rw [String.toList_append, List.getLast?_append]
    rfl
  exact congrArg some (afterLast_append hcolon hname)

/-! ## The subscriptions of one topic -/

/-- The listing of the task agrees with `getSubscriptions`: with enough rounds both end, the
rows of the table are the subscriptions, and the message is there if there are none. -/
def ListingsAgree (project : Project) (renderer : Renderer) (task : ListSnsTopicSubscriptionsTask)
    (catalog : Sns.Catalog) : Prop :=
  Prog.ReturnsWith (ListSnsTopicSubscriptionsTask.listPages ⟨.clear⟩ project renderer task)
    (fun table w => Prog.ReturnsWith
      (fun rounds => SnsTaskUtil.getSubscriptions ⟨.clear⟩ rounds
        (some (SnsTaskUtil.getTopicArn project task.topicName)))
      (fun subscriptions _ =>
        (table.rows = [some "Arn", some "Protocol", some "Endpoint"] ::
          subscriptions.map fun subscription =>
            [some subscription.subscriptionArn, some subscription.protocol,
              some subscription.endpoint]) ∧
        (.line "No Subscriptions Found!" ∈ w.console ↔ subscriptions = []))
      (World.start catalog))
    (World.start catalog)

section Subscriptions

variable {project : Project} {renderer : Renderer} {task : ListSnsTopicSubscriptionsTask}
  {catalog : Sns.Catalog} {F : Feed Sns.Subscription String} {w : Sns.World}

/-- The table of all subscriptions. -/
def subscriptionsTable (F : Feed Sns.Subscription String) : AsciiTable :=
  ListSnsTopicSubscriptionsTask.emptyTable.addRows ListSnsTopicSubscriptionsTask.row F.items

/-- The rows of the table of all subscriptions. -/
theorem rows_subscriptionsTable :
    (subscriptionsTable F).rows = [some "Arn", some "Protocol", some "Endpoint"] ::
      F.items.map ListSnsTopicSubscriptionsTask.row := by
  unfold subscriptionsTable
  rw [AsciiTable.rows_addRows]
  rfl

/-- **A round** gets the first page, whatever the token. -/
theorem wp_listPage_first (hF : w.store.subscriptions
      (SnsTaskUtil.getTopicArn project task.topicName) = some F)
    (p : AsciiTable × ℕ) (token : Option String) :
    (ListSnsTopicSubscriptionsTask.listPage ⟨.clear⟩ project renderer task p token).wp
      (fun r w' =>
        let table := p.1.addRows ListSnsTopicSubscriptionsTask.row (F.page 0).items
        r.1.1 = table ∧ r.2 = (F.page 0).nextToken ∧ w'.store = w.store ∧
          w'.console = w.console ++
            [if (F.page 0).nextToken = none ∧ 0 < p.2 + (F.page 0).items.length then
              .line (renderer.render table)
            else .line "No Subscriptions Found!"])
      (fun _ _ => False) w := by
  unfold ListSnsTopicSubscriptionsTask.listPage
  rw [Prog.wp_tryCatch, Prog.wp_bind]
  refine Prog.wp_mono (wp_listSubscriptions hF F.length_pos) ?_ (fun _ _ he => he.elim)
  intro _ w₁ hw₁
  obtain ⟨rfl, hstore₁, hconsole₁⟩ := hw₁
  rw [← hstore₁, ← hconsole₁]
  by_cases hlast : (F.page 0).nextToken = none ∧ 0 < p.2 + (F.page 0).items.length
  · rw [if_pos hlast]
    refine ⟨rfl, rfl, rfl, ?_⟩
    rw [if_pos hlast]
    rfl
  · rw [if_neg hlast]
    refine ⟨rfl, rfl, rfl, ?_⟩
    rw [if_neg hlast]
    rfl

/-- **One page**: the table has all subscriptions, and is printed if there are any. -/
theorem wp_listPages_once
    (hF : catalog.subscriptions (SnsTaskUtil.getTopicArn project task.topicName) = some F)
    (hone : F.pages.length = 1) {rounds : ℕ} (hrounds : F.pages.length ≤ rounds) :
    (ListSnsTopicSubscriptionsTask.listPages ⟨.clear⟩ project renderer task rounds).wp
      (fun table w' => table = subscriptionsTable F ∧ w'.console =
        [if F.items = [] then .line "No Subscriptions Found!"
          else .line (renderer.render (subscriptionsTable F))])
      (fun _ _ => False) (World.start catalog) := by
  have hitems : (F.page 0).items = F.items := by
    rw [← Feed.before_length, hone, Feed.before_succ F.length_pos]
    rfl
  have hnext : (F.page 0).nextToken = none := Feed.nextToken_of_last hone.symm
  unfold ListSnsTopicSubscriptionsTask.listPages
  rw [Prog.wp_bind]
  let I : ℕ → AsciiTable × ℕ → Sns.World → Prop := fun n p w' =>
    (n = 0 → p = (ListSnsTopicSubscriptionsTask.emptyTable, 0) ∧ w' = World.start catalog) ∧
    (n = 1 → p.1 = subscriptionsTable F ∧ w'.console =
      [if F.items = [] then .line "No Subscriptions Found!"
        else .line (renderer.render (subscriptionsTable F))])
  have hstart : I 0 (ListSnsTopicSubscriptionsTask.emptyTable, 0) (World.start catalog) :=
    ⟨fun _ => ⟨rfl, rfl⟩, fun h => absurd h Nat.zero_ne_one⟩
  refine Prog.wp_conseq (wp_tokenLoop F I ?_ rounds hrounds _ _ hstart) ?_
  · intro n p w hn hhn
    obtain ⟨hfirst, -⟩ := hhn
    have hzero : n = 0 := by omega
    obtain ⟨rfl, rfl⟩ := hfirst hzero
    subst hzero
    apply Prog.wp_conseq (wp_listPage_first hF _ _)
    intro r w' hw'
    obtain ⟨htable, htoken, -, hconsole⟩ := hw'
    refine ⟨htoken, fun h => absurd h Nat.one_ne_zero, fun _ => ⟨?_, ?_⟩⟩
    · rw [htable, hitems]
      rfl
    · rw [hconsole, hnext, hitems]
      cases hempty : F.items with
      | nil => simp [World.start]
      | cons a items => simp [World.start, subscriptionsTable, hempty]
  · intro p w' hw'
    obtain ⟨-, hdone⟩ := hw'
    exact hdone hone

/-- **Several pages**: the loop does not end. -/
theorem listPages_diverges
    (hF : catalog.subscriptions (SnsTaskUtil.getTopicArn project task.topicName) = some F)
    (hmany : 1 < F.pages.length) (rounds : ℕ) :
    ∃ w', ListSnsTopicSubscriptionsTask.listPages ⟨.clear⟩ project renderer task rounds
      (World.start catalog) = (.diverged, w') := by
  have hloop : ∃ w', tokenLoop
      (ListSnsTopicSubscriptionsTask.listPage ⟨.clear⟩ project renderer task) rounds
      (ListSnsTopicSubscriptionsTask.emptyTable, 0) (World.start catalog) = (.diverged, w') := by
    apply tokenLoop_diverges (fun _ w' => w'.store = catalog) _ rounds _ _ rfl
    intro p token w hstore
    subst hstore
    apply Prog.wp_conseq (wp_listPage_first hF p token)
    intro r w' hw'
    obtain ⟨-, htoken, hstore', -⟩ := hw'
    refine ⟨?_, hstore'⟩
    rw [htoken, Feed.nextToken_of_lt hmany]
    rfl
  obtain ⟨w', hw'⟩ := hloop
  exact ⟨w', Prog.run_bind_diverged hw' _⟩

/-- With one page the two listings agree. -/
theorem listingsAgree_of_one
    (hF : catalog.subscriptions (SnsTaskUtil.getTopicArn project task.topicName) = some F)
    (hone : F.pages.length = 1) : ListingsAgree project renderer task catalog := by
  apply Prog.returnsWith_of_wp F.pages.length
  intro rounds hrounds
  apply Prog.wp_conseq (wp_listPages_once hF hone hrounds)
  intro table w hw
  obtain ⟨rfl, hconsole⟩ := hw
  apply Prog.returnsWith_of_wp F.pages.length
  intro rounds' hrounds'
  apply Prog.wp_conseq
    (wp_getSubscriptions hF (getTopicArn_ne_empty project task.topicName) hrounds')
  intro subscriptions w' hw'
  obtain ⟨rfl, -, -⟩ := hw'
  refine ⟨rows_subscriptionsTable, ?_⟩
  rw [hconsole, List.mem_singleton]
  by_cases hempty : F.items = []
  · rw [if_pos hempty]
    exact iff_of_true rfl hempty
  · rw [if_neg hempty]
    have hrows : F.items.map ListSnsTopicSubscriptionsTask.row ≠ [] :=
      fun h => hempty (List.map_eq_nil_iff.mp h)
    exact iff_of_false (line_render_ne (by decide) hrows rows_subscriptionsTable).symm hempty

/-- **The whole task**: with one page it prints the table or the message; with more it does
not end, and `Retry` does not help. -/
theorem listSubscriptions_run_iff
    (hF : catalog.subscriptions (SnsTaskUtil.getTopicArn project task.topicName) = some F) :
    Prog.ReturnsWith (ListSnsTopicSubscriptionsTask.run ⟨.clear⟩ project renderer task)
      (fun _ w => Shows renderer [some "Arn", some "Protocol", some "Endpoint"]
        (F.items.map ListSnsTopicSubscriptionsTask.row) "No Subscriptions Found!" w.console)
      (World.start catalog) ↔ F.pages.length = 1 := by
  constructor
  · intro hreturns
    have hpos : 0 < F.pages.length := F.length_pos
    by_contra hone
    have hmany : 1 < F.pages.length := by omega
    apply Prog.not_returnsWith _ hreturns
    intro rounds
    have hloop : ∃ w', ListSnsTopicSubscriptionsTask.listPages ⟨.clear⟩ project renderer task
        rounds (World.start catalog) = (.diverged, w') := listPages_diverges hF hmany rounds
    obtain ⟨w', hw'⟩ := hloop
    exact ⟨w', execute_diverges defaultMaxRetries_pos (Prog.run_bind_diverged hw' _)⟩
  · intro hone
    apply Prog.returnsWith_of_wp F.pages.length
    intro rounds hrounds
    apply wp_execute_first defaultMaxRetries_pos
    rw [Prog.wp_bind]
    apply Prog.wp_conseq (wp_listPages_once hF hone hrounds)
    intro table w' hw'
    obtain ⟨-, hconsole⟩ := hw'
    rw [Prog.wp_pure, hconsole]
    by_cases hempty : F.items = []
    · rw [if_pos hempty, hempty]
      exact shows_message
    · rw [if_neg hempty]
      have hrows : F.items.map ListSnsTopicSubscriptionsTask.row ≠ [] :=
        fun h => hempty (List.map_eq_nil_iff.mp h)
      exact shows_table (by decide) hrows rows_subscriptionsTable

end Subscriptions

/-- **The two subscription listings agree** exactly when the service answers with one page.
SRC: aws/sns/ListSnsTopicSubscriptionsTask.java:42-90, aws/sns/SnsTaskUtil.java:64-81 -/
theorem subscription_listings_agree_iff (project : Project) (renderer : Renderer)
    (task : ListSnsTopicSubscriptionsTask) (catalog : Sns.Catalog)
    (F : Feed Sns.Subscription String)
    (hF : catalog.subscriptions (SnsTaskUtil.getTopicArn project task.topicName) = some F) :
    ListingsAgree project renderer task catalog ↔ F.pages.length = 1 := by
  constructor
  · intro hagree
    have hpos : 0 < F.pages.length := F.length_pos
    by_contra hone
    have hmany : 1 < F.pages.length := by omega
    exact Prog.not_returnsWith (listPages_diverges hF hmany) hagree
  · exact listingsAgree_of_one hF

/-! ## All topics -/

section Topics

variable {renderer : Renderer} {lineSeparator : String} {rounds : ℕ} {catalog : Sns.Catalog}
  {w : Sns.World}

/-- The row of a topic. -/
def topicRow (lineSeparator : String) (catalog : Sns.Catalog) (topic : Sns.Topic) :
    List (Option String) :=
  [SnsTaskUtil.getTopicName (some topic.topicArn), some topic.topicArn,
    some (ListSnsTopicsTask.subscriptionsCell lineSeparator
      ((catalog.subscriptions topic.topicArn).elim [] Feed.items))]

/-- The topic exists, and the bound on the rounds is enough for its subscriptions. -/
def Walkable (catalog : Sns.Catalog) (rounds : ℕ) (topic : Sns.Topic) : Prop :=
  topic.topicArn ≠ "" ∧
    ∃ F, catalog.subscriptions topic.topicArn = some F ∧ F.pages.length ≤ rounds

/-- **One topic**: its row is added. -/
theorem wp_addTopic {topic : Sns.Topic} (htopic : Walkable w.store rounds topic)
    (p : AsciiTable × ℕ) :
    (ListSnsTopicsTask.addTopic ⟨.clear⟩ lineSeparator rounds p topic).wp
      (fun r w' => r = ((p.1.addRow (topicRow lineSeparator w.store topic)).addRule, p.2 + 1) ∧
        w'.store = w.store ∧ w'.console = w.console)
      (fun _ _ => False) w := by
  obtain ⟨hne, F, hF, hrounds⟩ := htopic
  unfold ListSnsTopicsTask.addTopic
  rw [Prog.wp_bind]
  apply Prog.wp_conseq (wp_getSubscriptions hF hne hrounds)
  intro subscriptions w₁ hw₁
  obtain ⟨rfl, hstore₁, hconsole₁⟩ := hw₁
  refine ⟨?_, hstore₁, hconsole₁⟩
  unfold topicRow
  rw [hF]
  rfl

/-- **One page** of topics: their rows are added, in order. -/
theorem wp_listTopicsPage {n : ℕ} (hn : n < w.store.topics.pages.length)
    (htopics : ∀ topic ∈ w.store.topics.items, Walkable w.store rounds topic)
    (p : AsciiTable × ℕ) :
    (ListSnsTopicsTask.listPage ⟨.clear⟩ lineSeparator rounds p (w.store.topics.token n)).wp
      (fun r w' =>
        let topics := (w.store.topics.page n).items
        r = ((p.1.addRows (topicRow lineSeparator w.store) topics, p.2 + topics.length),
          (w.store.topics.page n).nextToken) ∧
        w'.store = w.store ∧ w'.console = w.console)
      (fun _ _ => False) w := by
  unfold ListSnsTopicsTask.listPage
  rw [Prog.wp_bind]
  apply Prog.wp_conseq (wp_listTopics hn)
  intro _ w₁ hw₁
  obtain ⟨rfl, hstore₁, hconsole₁⟩ := hw₁
  rw [Prog.wp_bind]
  -- `seen` are the topics of the page whose rows are in the table
  let I : List Sns.Topic → AsciiTable × ℕ → Sns.World → Prop := fun rest r w' =>
    w'.store = w.store ∧ w'.console = w.console ∧
      ∃ seen, seen ++ rest = (w.store.topics.page n).items ∧
        r = (p.1.addRows (topicRow lineSeparator w.store) seen, p.2 + seen.length)
  refine Prog.wp_conseq (Prog.wp_foldlM I ?_ _ p w₁ ⟨hstore₁, hconsole₁, [], rfl, rfl⟩) ?_
  · intro topic rest _ w₂ hw₂
    obtain ⟨hstore₂, hconsole₂, seen, hseen, rfl⟩ := hw₂
    have hmem : topic ∈ (w.store.topics.page n).items := by
      rw [← hseen]
      exact List.mem_append_right seen List.mem_cons_self
    have hwalkable : Walkable w₂.store rounds topic := by
      rw [hstore₂]
      exact htopics topic (Feed.mem_items_of_mem_page hn hmem)
    apply Prog.wp_conseq (wp_addTopic hwalkable _)
    intro _ w₃ hw₃
    obtain ⟨rfl, hstore₃, hconsole₃⟩ := hw₃
    refine ⟨hstore₃.trans hstore₂, hconsole₃.trans hconsole₂, seen ++ [topic], ?_, ?_⟩
    · rw [List.append_assoc, List.singleton_append, hseen]
    · rw [hstore₂, AsciiTable.addRows_append, List.length_append, List.length_singleton]
      rfl
  · intro _ w₂ hw₂
    obtain ⟨hstore₂, hconsole₂, seen, hseen, rfl⟩ := hw₂
    rw [List.append_nil] at hseen
    subst hseen
    exact ⟨rfl, hstore₂, hconsole₂⟩

/-- **The run**: the table of all topics, or the message. -/
theorem wp_listTopics_run
    (htopics : ∀ topic ∈ catalog.topics.items, Walkable catalog rounds topic)
    (hrounds : catalog.topics.pages.length ≤ rounds) :
    (ListSnsTopicsTask.run ⟨.clear⟩ renderer lineSeparator rounds).wp
      (fun _ w' => Shows renderer [some "TopicName", some "TopicArn", some "Subscriptions"]
        (catalog.topics.items.map (topicRow lineSeparator catalog)) "No Topics Found!" w'.console)
      (fun _ _ => False) (World.start catalog) := by
  apply wp_execute_first defaultMaxRetries_pos
  rw [Prog.wp_bind]
  let I : ℕ → AsciiTable × ℕ → Sns.World → Prop := fun n p w' =>
    w'.store = catalog ∧ w'.console = [] ∧
      p = (ListSnsTopicsTask.emptyTable.addRows (topicRow lineSeparator catalog)
        (catalog.topics.before n), (catalog.topics.before n).length)
  have hstart : I 0 (ListSnsTopicsTask.emptyTable, 0) (World.start catalog) := ⟨rfl, rfl, rfl⟩
  refine Prog.wp_conseq (wp_tokenLoop catalog.topics I ?_ rounds hrounds _ _ hstart) ?_
  · intro n _ w₁ hn hhn
    obtain ⟨hstore, hconsole, rfl⟩ := hhn
    subst hstore
    apply Prog.wp_conseq (wp_listTopicsPage hn htopics _)
    intro _ w₂ hw₂
    obtain ⟨rfl, hstore₂, hconsole₂⟩ := hw₂
    refine ⟨rfl, hstore₂, hconsole₂.trans hconsole, ?_⟩
    rw [Feed.before_succ hn, AsciiTable.addRows_append, List.length_append]
  · intro _ w₁ hw₁
    obtain ⟨-, hconsole, rfl⟩ := hw₁
    rw [Feed.before_length]
    dsimp only
    cases hitems : catalog.topics.items with
    | nil =>
      show Shows _ _ _ _ (w₁.console ++ [.line "No Topics Found!"])
      rw [hconsole]
      exact shows_message
    | cons topic topics =>
      have hpos : 0 < (topic :: topics).length := Nat.succ_pos _
      rw [if_pos hpos]
      show Shows _ _ _ _ (w₁.console ++ [.line (renderer.render _)])
      rw [hconsole]
      apply shows_table (by decide) (List.cons_ne_nil _ _)
      rw [AsciiTable.rows_addRows]
      rfl

/-- The cell of a topic has the ARNs of its subscriptions, each on a line of its own. -/
theorem subscriptionsCell_eq (lineSeparator : String) (subscriptions : List Sns.Subscription) :
    ListSnsTopicsTask.subscriptionsCell lineSeparator subscriptions =
      String.join (subscriptions.map fun s => s.subscriptionArn ++ lineSeparator) := by
  unfold ListSnsTopicsTask.subscriptionsCell String.join
  rw [List.foldl_map]
  congr 1
  funext text subscription
  exact String.append_assoc ..

end Topics

/-- **The topic listing is complete and exact**: a run without failures ends and shows one
row for each topic, in order, with its name, its ARN and the ARNs of its subscriptions; and
it prints the message if there are no topics.
SRC: aws/sns/ListSnsTopicsTask.java:37-80, aws/sns/SnsTaskUtil.java:38-81 -/
theorem topics_listed (project : Project) (renderer : Renderer) (lineSeparator : String)
    (catalog : Sns.Catalog) (topicNames : List String)
    (subscriptions : String → Feed Sns.Subscription String)
    (hnames : ∀ topicName ∈ topicNames, ':' ∉ topicName.toList)
    (htopics : catalog.topics.items =
      topicNames.map fun topicName => ⟨SnsTaskUtil.getTopicArn project topicName⟩)
    (hsubscriptions : ∀ topicName ∈ topicNames,
      catalog.subscriptions (SnsTaskUtil.getTopicArn project topicName) =
        some (subscriptions topicName)) :
    Prog.ReturnsWith (ListSnsTopicsTask.run ⟨.clear⟩ renderer lineSeparator)
      (fun _ w => Shows renderer [some "TopicName", some "TopicArn", some "Subscriptions"]
        (topicNames.map fun topicName =>
          [some topicName, some (SnsTaskUtil.getTopicArn project topicName),
            some (String.join ((subscriptions topicName).items.map fun s =>
              s.subscriptionArn ++ lineSeparator))])
        "No Topics Found!" w.console)
      (World.start catalog) := by
  -- a number of rounds that is enough for the subscriptions of every topic
  obtain ⟨bound, hbound⟩ := Finset.exists_le
    (topicNames.map fun topicName => (subscriptions topicName).pages.length).toFinset
  have hrow : catalog.topics.items.map (topicRow lineSeparator catalog) =
      topicNames.map fun topicName =>
        [some topicName, some (SnsTaskUtil.getTopicArn project topicName),
          some (String.join ((subscriptions topicName).items.map fun s =>
            s.subscriptionArn ++ lineSeparator))] := by
    rw [htopics, List.map_map]
    apply List.map_congr_left
    intro topicName hmem
    show topicRow lineSeparator catalog ⟨SnsTaskUtil.getTopicArn project topicName⟩ = _
    unfold topicRow
    rw [getTopicName_getTopicArn project (hnames topicName hmem), hsubscriptions topicName hmem,
      subscriptionsCell_eq]
    rfl
  rw [← hrow]
  apply Prog.returnsWith_of_wp (max bound catalog.topics.pages.length)
  intro rounds hrounds
  apply wp_listTopics_run _ ((le_max_right _ _).trans hrounds)
  intro topic hmem
  rw [htopics] at hmem
  obtain ⟨topicName, hname, rfl⟩ := List.mem_map.mp hmem
  have hlength : (subscriptions topicName).pages.length ≤ bound :=
    hbound _ (List.mem_toFinset.mpr (List.mem_map_of_mem hname))
  exact ⟨getTopicArn_ne_empty project topicName, subscriptions topicName,
    hsubscriptions topicName hname, hlength.trans ((le_max_left _ _).trans hrounds)⟩

/-! ## A topic to try the result on -/

/-- One topic with the subscriptions in the given pages. -/
def ordersCatalog (F : Feed Sns.Subscription String) : Sns.Catalog where
  topics := ⟨[[⟨SnsTaskUtil.getTopicArn sampleProject "orders"⟩]], List.cons_ne_nil _ _, .unary⟩
  subscriptions topicArn :=
    if topicArn = SnsTaskUtil.getTopicArn sampleProject "orders" then some F else none

/-- The subscriptions of the topic are in the given pages. -/
theorem ordersCatalog_subscriptions (F : Feed Sns.Subscription String) :
    (ordersCatalog F).subscriptions (SnsTaskUtil.getTopicArn sampleProject "orders") =
      some F := by
  show (if SnsTaskUtil.getTopicArn sampleProject "orders" =
    SnsTaskUtil.getTopicArn sampleProject "orders" then some F else none) = some F
  exact if_pos rfl

/-- One subscription of `orders`. -/
def billing : Sns.Subscription :=
  ⟨"arn:aws:sns:us-east-1:000000000000:orders:1", "sqs",
    "arn:aws:sqs:us-east-1:000000000000:billing"⟩

/-- Another subscription of `orders`. -/
def shipping : Sns.Subscription :=
  ⟨"arn:aws:sns:us-east-1:000000000000:orders:2", "sqs",
    "arn:aws:sqs:us-east-1:000000000000:shipping"⟩

/-- Both subscriptions on one page. -/
def onOnePage : Feed Sns.Subscription String :=
  ⟨[[billing, shipping]], List.cons_ne_nil _ _, .unary⟩

/-- The two subscriptions on a page each. -/
def onTwoPages : Feed Sns.Subscription String :=
  ⟨[[billing], [shipping]], List.cons_ne_nil _ _, .unary⟩

/-- Two subscriptions on one page. -/
theorem subscription_listings_agree_on_one_page :
    ListingsAgree sampleProject .plain ⟨"orders"⟩ (ordersCatalog onOnePage) :=
  (subscription_listings_agree_iff sampleProject .plain ⟨"orders"⟩ (ordersCatalog onOnePage)
    onOnePage (ordersCatalog_subscriptions onOnePage)).mpr rfl

/-- Two subscriptions on a page each: the loop of the task does not end. -/
theorem subscription_listing_repeats_first_page :
    ¬ ∀ (project : Project) (renderer : Renderer) (task : ListSnsTopicSubscriptionsTask)
      (catalog : Sns.Catalog),
      (catalog.subscriptions (SnsTaskUtil.getTopicArn project task.topicName)).isSome →
      ListingsAgree project renderer task catalog := by
  intro h
  have hF := ordersCatalog_subscriptions onTwoPages
  have hagree := h sampleProject .plain ⟨"orders"⟩ (ordersCatalog onTwoPages) (by rw [hF]; rfl)
  exact Prog.not_returnsWith (listPages_diverges hF (by decide)) hagree

/-- Two topics on a page each, one with two subscriptions on a page each, one with none. -/
def twoTopics : Sns.Catalog where
  topics := ⟨[[⟨SnsTaskUtil.getTopicArn sampleProject "orders"⟩],
    [⟨SnsTaskUtil.getTopicArn sampleProject "audit"⟩]], List.cons_ne_nil _ _, .unary⟩
  subscriptions topicArn :=
    if topicArn = SnsTaskUtil.getTopicArn sampleProject "orders" then some onTwoPages
    else some ⟨[[]], List.cons_ne_nil _ _, .unary⟩

/-- Both topics are shown, the first with both of its subscriptions. -/
theorem topics_listed_two :
    Prog.ReturnsWith (ListSnsTopicsTask.run ⟨.clear⟩ .plain "\n")
      (fun _ w => Shows .plain [some "TopicName", some "TopicArn", some "Subscriptions"]
        [[some "orders", some "arn:aws:sns:us-east-1:000000000000:orders",
            some (billing.subscriptionArn ++ "\n" ++ shipping.subscriptionArn ++ "\n")],
          [some "audit", some "arn:aws:sns:us-east-1:000000000000:audit", some ""]]
        "No Topics Found!" w.console)
      (World.start twoTopics) := by
  let subscriptions : String → Feed Sns.Subscription String := fun topicName =>
    if topicName = "orders" then onTwoPages else ⟨[[]], List.cons_ne_nil _ _, .unary⟩
  have hsubscriptions : ∀ topicName ∈ ["orders", "audit"],
      twoTopics.subscriptions (SnsTaskUtil.getTopicArn sampleProject topicName) =
        some (subscriptions topicName) := by
    intro topicName hmem
    rcases List.mem_cons.mp hmem with rfl | hmem
    · rfl
    · rw [List.mem_singleton.mp hmem]
      rfl
  have hlisted := topics_listed sampleProject .plain "\n" twoTopics ["orders", "audit"]
    subscriptions (by decide) rfl hsubscriptions
  have hrows : (["orders", "audit"].map fun topicName =>
      [some topicName, some (SnsTaskUtil.getTopicArn sampleProject topicName),
        some (String.join ((subscriptions topicName).items.map fun s =>
          s.subscriptionArn ++ "\n"))]) =
      [[some "orders", some "arn:aws:sns:us-east-1:000000000000:orders",
          some (billing.subscriptionArn ++ "\n" ++ shipping.subscriptionArn ++ "\n")],
        [some "audit", some "arn:aws:sns:us-east-1:000000000000:audit", some ""]] := by
    decide
  rwa [hrows] at hlisted

end GradleLocalstack.Analysis
