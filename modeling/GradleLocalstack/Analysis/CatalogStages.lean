import GradleLocalstack.Program.ProductCatalog

/-!
# The stages of the example application's handlers

What each handler is about to do, and what it knows of the table and of the notifications
while it waits (`Doing`).  A stage says of the handler's continuation what it becomes with the
answer and that an error ends it, so that a run is followed from stage to stage.

What a handler knows is never taken back: the table keeps its earlier states, and the queue and
the topic what they accepted.  So one lemma says what a performed call changes (`Changes`), one
says to which stage its answer leads, and the other handlers stay where they are.
-/

set_option autoImplicit false

namespace GradleLocalstack.Analysis

open Foundation GradleLocalstack.Model GradleLocalstack.Program

/-! ## The notifications that were accepted -/

namespace CatalogApplication

/-- The notifications in the queue. -/
def messages (A : CatalogApplication) (s : CatalogStore) : List ProductChangeNotification :=
  (s.queues A.notifier.queueUrl).filterMap A.notifier.mapper.readValue

/-- The notifications on the topic. -/
def published (A : CatalogApplication) (s : CatalogStore) : List ProductChangeNotification :=
  (s.topics A.notifier.topicArn).filterMap A.notifier.mapper.readValue

end CatalogApplication

/-- Jackson writes every notification of the application. -/
def WritesNotifications (A : CatalogApplication) : Prop :=
  ∀ changeType ∈ ["ADD", "DELETE"], ∀ id,
    ∃ text, A.notifier.mapper.writeValueAsString ⟨changeType, id⟩ = .ok text

open CatalogApplication

section Notifications

variable {A : CatalogApplication} {s : CatalogStore} {n : ProductChangeNotification}
  {text : String}

/-- The table is no queue. -/
@[simp] theorem messages_withProducts (t : ProductTable) :
    messages A (s.withProducts t) = messages A s := rfl

/-- The topic is no queue. -/
@[simp] theorem messages_publish (topicArn message : String) :
    messages A (s.publish topicArn message) = messages A s := rfl

/-- The table is no topic. -/
@[simp] theorem published_withProducts (t : ProductTable) :
    published A (s.withProducts t) = published A s := rfl

/-- The queue is no topic. -/
@[simp] theorem published_send (queueUrl body : String) :
    published A (s.send queueUrl body) = published A s := rfl

/-- What was written and sent is read from the queue, behind what was there. -/
theorem messages_send (h : A.notifier.mapper.writeValueAsString n = .ok text) :
    messages A (s.send A.notifier.queueUrl text) = messages A s ++ [n] := by
  have hread := A.notifier.mapper.readValue_write n text h
  simp [messages, CatalogStore.send, hread]

/-- What was written and published is read from the topic, behind what was there. -/
theorem published_publish (h : A.notifier.mapper.writeValueAsString n = .ok text) :
    published A (s.publish A.notifier.topicArn text) = published A s ++ [n] := by
  have hread := A.notifier.mapper.readValue_write n text h
  simp [published, CatalogStore.publish, hread]

/-- After the table has changed an item is what it has become, or it was that before. -/
theorem reads_withProducts {t : ProductTable} {id : String} {answer : Option Product} :
    (s.withProducts t).Reads id answer ↔ t.item id = answer ∨ s.Reads id answer := by
  unfold CatalogStore.Reads CatalogStore.withProducts
  simp only [List.mem_cons, or_and_right, exists_or, exists_eq_left]

/-- What can be read after a product was stored. -/
theorem reads_of_put {p q : Product} {id : String}
    (h : (s.withProducts (s.products.put p)).Reads id (some q)) :
    id = p.id ∧ q = p ∨ s.Reads id (some q) := by
  rcases reads_withProducts.mp h with hitem | hold
  · by_cases hid : id = p.id
    · subst hid
      rw [ProductTable.item_put_self] at hitem
      exact .inl ⟨rfl, (Option.some.inj hitem).symm⟩
    · rw [ProductTable.item_put_of_ne hid] at hitem
      exact .inr ⟨_, List.mem_cons_self, hitem⟩
  · exact .inr hold

/-- What can be read after a product was deleted could be read before. -/
theorem reads_of_remove {q : Product} {key id : String}
    (h : (s.withProducts (s.products.remove key)).Reads id (some q)) : s.Reads id (some q) := by
  rcases reads_withProducts.mp h with hitem | hold
  · exact ⟨_, List.mem_cons_self, ProductTable.item_of_item_remove hitem⟩
  · exact hold

end Notifications

/-! ## What the handlers do -/

section Handlers

variable (A : CatalogApplication)

/-- The rest of `addProduct` once the product is stored. -/
def announce (product : Product) : Handler CatalogResponse := do
  let result ← (do
    A.notifier.notifyAdd product.id
    pure (⟨product.id⟩ : AddProductResult))
  pure (.added result)

/-- The rest of `deleteProduct` once the product was found. -/
def remove (id : String) (product : Product) : Handler CatalogResponse := do
  (do
    ProductCatalogRepository.delete product
    A.notifier.notifyDelete id)
  pure .deleted

/-- The rest of `deleteProduct` once the product was deleted. -/
def tell (id : String) : Handler CatalogResponse := do
  A.notifier.notifyDelete id
  pure .deleted

/-- The rest of `deleteProduct` once the queue was told. -/
def tellTopic (id : String) : Handler CatalogResponse := do
  A.notifier.attempt ⟨"DELETE", id⟩ (.publish A.notifier.topicArn)
  pure .deleted

/-- The answer to a request for a product. -/
def shown : Option Product → CatalogResponse
  | some product => .found (ProductCatalogService.resultOf A product)
  | none => .notFound

/-- A continuation that an error of the service ends. -/
def EndsOnError {c : CatalogCall}
    (next : Except Throwable c.Response → Handler CatalogResponse) : Prop :=
  ∀ e, A.notifier.catchesProcessing e = false → next (.error e) = .thrown e

variable {A}

/-- `addProduct` stores the new product first. -/
theorem handle_addProduct (randomUUID : String) (currentTimeMillis : ℤ)
    (request : AddProductRequest) :
    let product := ProductCatalogService.newProduct randomUUID currentTimeMillis request
    ∃ next : Except Throwable Unit → Handler CatalogResponse,
      A.handle (.addProduct randomUUID currentTimeMillis request) =
        .calling (CatalogCall.save product) next ∧
      next (.ok ()) = announce A product ∧ EndsOnError A (c := .save product) next :=
  ⟨_, rfl, rfl, fun _ _ => rfl⟩

/-- `getProduct` reads, and shows what it has read. -/
theorem handle_getProduct (id : String) :
    ∃ next : Except Throwable (Option Product) → Handler CatalogResponse,
      A.handle (.getProduct id) = .calling (CatalogCall.load id) next ∧
      (∀ answer, next (.ok answer) = .returned (shown A answer)) ∧
      EndsOnError A (c := .load id) next := by
  refine ⟨_, rfl, ?_, fun _ _ => rfl⟩
  intro answer
  cases answer <;> rfl

/-- `deleteProduct` reads first. -/
theorem handle_deleteProduct (id : String) :
    ∃ next : Except Throwable (Option Product) → Handler CatalogResponse,
      A.handle (.deleteProduct id) = .calling (CatalogCall.load id) next ∧
      next (.ok none) = .returned .deleted ∧
      (∀ product, next (.ok (some product)) = remove A id product) ∧
      EndsOnError A (c := .load id) next :=
  ⟨_, rfl, rfl, fun _ => rfl, fun _ _ => rfl⟩

/-- Then it deletes what it has found. -/
theorem remove_eq (id : String) (product : Product) :
    ∃ next : Except Throwable Unit → Handler CatalogResponse,
      remove A id product = .calling (CatalogCall.delete product) next ∧
      next (.ok ()) = tell A id ∧ EndsOnError A (c := .delete product) next :=
  ⟨_, rfl, rfl, fun _ _ => rfl⟩

variable {text : String}

/-- A notification that can be written is passed on, and an error of the service goes through
the handler of processing errors. -/
theorem attempt_eq (N : ProductChangeNotifier) {n : ProductChangeNotification}
    (h : N.mapper.writeValueAsString n = .ok text) (pass : String → CatalogCall) :
    N.attempt n pass = .calling (pass text) (fun
      | .ok _ => .returned ()
      | .error e => if N.catchesProcessing e then .returned () else .thrown e) := by
  unfold ProductChangeNotifier.attempt
  rw [h]
  show Client.calling (pass text) _ = _
  congr 1
  funext answer
  cases answer <;> rfl

/-- `addProduct` then tells the queue. -/
theorem announce_eq {product : Product}
    (h : A.notifier.mapper.writeValueAsString ⟨"ADD", product.id⟩ = .ok text) :
    ∃ next : Except Throwable Unit → Handler CatalogResponse,
      announce A product = .calling (CatalogCall.sendMessage A.notifier.queueUrl text) next ∧
      next (.ok ()) = .returned (.added ⟨product.id⟩) ∧
      EndsOnError A (c := .sendMessage A.notifier.queueUrl text) next := by
  unfold announce ProductChangeNotifier.notifyAdd
  rw [attempt_eq A.notifier h]
  refine ⟨_, rfl, rfl, ?_⟩
  intro e he
  simp only [he]
  rfl

/-- `deleteProduct` then tells the queue. -/
theorem tell_eq {id : String}
    (h : A.notifier.mapper.writeValueAsString ⟨"DELETE", id⟩ = .ok text) :
    ∃ next : Except Throwable Unit → Handler CatalogResponse,
      tell A id = .calling (CatalogCall.sendMessage A.notifier.queueUrl text) next ∧
      next (.ok ()) = tellTopic A id ∧
      EndsOnError A (c := .sendMessage A.notifier.queueUrl text) next := by
  unfold tell ProductChangeNotifier.notifyDelete
  dsimp only
  rw [attempt_eq A.notifier h]
  refine ⟨_, rfl, rfl, ?_⟩
  intro e he
  simp only [he]
  rfl

/-- At last it tells the topic. -/
theorem tellTopic_eq {id : String}
    (h : A.notifier.mapper.writeValueAsString ⟨"DELETE", id⟩ = .ok text) :
    ∃ next : Except Throwable Unit → Handler CatalogResponse,
      tellTopic A id = .calling (CatalogCall.publish A.notifier.topicArn text) next ∧
      next (.ok ()) = .returned .deleted ∧
      EndsOnError A (c := .publish A.notifier.topicArn text) next := by
  unfold tellTopic
  rw [attempt_eq A.notifier h]
  refine ⟨_, rfl, rfl, ?_⟩
  intro e he
  simp only [he]
  rfl

end Handlers

/-! ## Stages -/

open ProductCatalogService (newProduct)

/-- What a handler is about to do, and what it knows while it waits or has ended. -/
inductive Doing (A : CatalogApplication) (s : CatalogStore) :
    CatalogRequest → Handler CatalogResponse → Prop
  /-- `addProduct` stores the product. -/
  | saving {u : String} {t : ℤ} {q : AddProductRequest}
      {next : Except Throwable Unit → Handler CatalogResponse}
      (hok : next (.ok ()) = announce A (newProduct u t q))
      (herror : EndsOnError A (c := .save (newProduct u t q)) next) :
      Doing A s (.addProduct u t q) (.calling (CatalogCall.save (newProduct u t q)) next)
  /-- `addProduct` tells the queue of a product that it has stored. -/
  | announcing {u : String} {t : ℤ} {q : AddProductRequest} {text : String}
      {next : Except Throwable Unit → Handler CatalogResponse}
      (htext : A.notifier.mapper.writeValueAsString ⟨"ADD", (newProduct u t q).id⟩ = .ok text)
      (hok : next (.ok ()) = .returned (.added ⟨(newProduct u t q).id⟩))
      (herror : EndsOnError A (c := .sendMessage A.notifier.queueUrl text) next)
      (hstored : s.Reads (newProduct u t q).id (some (newProduct u t q))) :
      Doing A s (.addProduct u t q)
        (.calling (CatalogCall.sendMessage A.notifier.queueUrl text) next)
  /-- `addProduct` has returned, and the queue was told. -/
  | added {u : String} {t : ℤ} {q : AddProductRequest}
      (htold : ⟨"ADD", (newProduct u t q).id⟩ ∈ messages A s) :
      Doing A s (.addProduct u t q) (.returned (.added ⟨(newProduct u t q).id⟩))
  /-- `getProduct` reads. -/
  | reading {id : String} {next : Except Throwable (Option Product) → Handler CatalogResponse}
      (hok : ∀ answer, next (.ok answer) = .returned (shown A answer))
      (herror : EndsOnError A (c := .load id) next) :
      Doing A s (.getProduct id) (.calling (CatalogCall.load id) next)
  /-- `getProduct` has shown what the item is or was. -/
  | read {id : String} {answer : Option Product} (hreads : s.Reads id answer) :
      Doing A s (.getProduct id) (.returned (shown A answer))
  /-- `deleteProduct` reads. -/
  | finding {id : String} {next : Except Throwable (Option Product) → Handler CatalogResponse}
      (hnone : next (.ok none) = .returned .deleted)
      (hsome : ∀ product, next (.ok (some product)) = remove A id product)
      (herror : EndsOnError A (c := .load id) next) :
      Doing A s (.deleteProduct id) (.calling (CatalogCall.load id) next)
  /-- `deleteProduct` deletes the product that it has read. -/
  | removing {product : Product} {next : Except Throwable Unit → Handler CatalogResponse}
      (hok : next (.ok ()) = tell A product.id)
      (herror : EndsOnError A (c := .delete product) next)
      (hreads : s.Reads product.id (some product)) :
      Doing A s (.deleteProduct product.id) (.calling (CatalogCall.delete product) next)
  /-- `deleteProduct` tells the queue of a product that it has read and deleted. -/
  | telling {id text : String} {product : Product}
      {next : Except Throwable Unit → Handler CatalogResponse}
      (htext : A.notifier.mapper.writeValueAsString ⟨"DELETE", id⟩ = .ok text)
      (hok : next (.ok ()) = tellTopic A id)
      (herror : EndsOnError A (c := .sendMessage A.notifier.queueUrl text) next)
      (hreads : s.Reads id (some product)) :
      Doing A s (.deleteProduct id)
        (.calling (CatalogCall.sendMessage A.notifier.queueUrl text) next)
  /-- `deleteProduct` tells the topic what the queue was told. -/
  | tellingTopic {id text : String} {next : Except Throwable Unit → Handler CatalogResponse}
      (htext : A.notifier.mapper.writeValueAsString ⟨"DELETE", id⟩ = .ok text)
      (hok : next (.ok ()) = .returned .deleted)
      (herror : EndsOnError A (c := .publish A.notifier.topicArn text) next)
      (htold : ⟨"DELETE", id⟩ ∈ messages A s) :
      Doing A s (.deleteProduct id)
        (.calling (CatalogCall.publish A.notifier.topicArn text) next)
  /-- `deleteProduct` has returned. -/
  | deleted {id : String} : Doing A s (.deleteProduct id) (.returned .deleted)
  /-- An error has ended the handler. -/
  | failed {r : CatalogRequest} {e : Throwable} : Doing A s r (.thrown e)

/-- The notifications that a request gives rise to. -/
def Tells (r : CatalogRequest) (n : ProductChangeNotification) : Prop :=
  (∃ p, r.newProduct = some p ∧ n = ⟨"ADD", p.id⟩) ∨
    ∃ id, r = .deleteProduct id ∧ n = ⟨"DELETE", id⟩

/-- What a performed call changes. -/
inductive Changes (A : CatalogApplication) (r : CatalogRequest) (s : CatalogStore) :
    CatalogCall → CatalogStore → Prop
  /-- A read changes nothing. -/
  | nothing {id : String} : Changes A r s (.load id) s
  /-- The product of the request is stored. -/
  | stored {p : Product} (hp : r.newProduct = some p) :
      Changes A r s (.save p) (s.withProducts (s.products.put p))
  /-- A product that was read is deleted. -/
  | removed {p : Product} (hr : r = .deleteProduct p.id) :
      Changes A r s (.delete p) (s.withProducts (s.products.remove p.id))
  /-- The queue is told of a product that is or was in the table. -/
  | told {n : ProductChangeNotification} {text : String} {p : Product}
      (htext : A.notifier.mapper.writeValueAsString n = .ok text) (htells : Tells r n)
      (hreads : s.Reads n.productId (some p)) :
      Changes A r s (.sendMessage A.notifier.queueUrl text) (s.send A.notifier.queueUrl text)
  /-- The topic is told of a deletion that the queue was told of. -/
  | published {id text : String}
      (htext : A.notifier.mapper.writeValueAsString ⟨"DELETE", id⟩ = .ok text)
      (htold : ⟨"DELETE", id⟩ ∈ messages A s) :
      Changes A r s (.publish A.notifier.topicArn text) (s.publish A.notifier.topicArn text)

/-- For what a handler waits once its call was answered. -/
inductive Follows : CatalogRequest → CatalogCall → Option CatalogCall → Prop
  | saved {u : String} {t : ℤ} {q : AddProductRequest} {p : Product} {queueUrl text : String} :
      Follows (.addProduct u t q) (.save p) (some (.sendMessage queueUrl text))
  | announced {u : String} {t : ℤ} {q : AddProductRequest} {queueUrl text : String} :
      Follows (.addProduct u t q) (.sendMessage queueUrl text) none
  | read {id : String} : Follows (.getProduct id) (.load id) none
  | absent {id : String} : Follows (.deleteProduct id) (.load id) none
  | found {id : String} {p : Product} : Follows (.deleteProduct id) (.load id) (some (.delete p))
  | removed {id queueUrl text : String} {p : Product} :
      Follows (.deleteProduct id) (.delete p) (some (.sendMessage queueUrl text))
  | queueTold {id queueUrl text topicArn message : String} :
      Follows (.deleteProduct id) (.sendMessage queueUrl text) (some (.publish topicArn message))
  | topicTold {id topicArn message : String} :
      Follows (.deleteProduct id) (.publish topicArn message) none

section Stages

variable {A : CatalogApplication} {s s' : CatalogStore} {r : CatalogRequest}
  {c : Handler CatalogResponse} {call : CatalogCall}
  {next : Except Throwable call.Response → Handler CatalogResponse} {a : call.Response}

/-- A handler knows what it knew as long as the notifications and the earlier states of the
items are kept. -/
theorem Doing.mono (h : Doing A s r c) (hmessages : ∀ n ∈ messages A s, n ∈ messages A s')
    (hreads : ∀ id answer, s.Reads id answer → s'.Reads id answer) : Doing A s' r c := by
  cases h with
  | saving hok herror => exact .saving hok herror
  | announcing htext hok herror hstored =>
    exact .announcing htext hok herror (hreads _ _ hstored)
  | added htold => exact .added (hmessages _ htold)
  | reading hok herror => exact .reading hok herror
  | read h => exact .read (hreads _ _ h)
  | finding hnone hsome herror => exact .finding hnone hsome herror
  | removing hok herror h => exact .removing hok herror (hreads _ _ h)
  | telling htext hok herror h => exact .telling htext hok herror (hreads _ _ h)
  | tellingTopic htext hok herror htold =>
    exact .tellingTopic htext hok herror (hmessages _ htold)
  | deleted => exact .deleted
  | failed => exact .failed

/-- A performed call takes nothing out of the queue. -/
theorem messages_prefix_of_performs (h : call.Performs s a s') :
    messages A s <+: messages A s' := by
  cases h with
  | load => exact List.prefix_rfl
  | save => exact List.prefix_rfl
  | delete => exact List.prefix_rfl
  | publish => exact List.prefix_rfl
  | @sendMessage _ queueUrl body =>
    unfold messages CatalogStore.send
    by_cases hurl : A.notifier.queueUrl = queueUrl
    · subst hurl
      simp
    · simp [hurl]

/-- What the items were is not forgotten. -/
theorem reads_of_performs (h : call.Performs s a s') {id : String} {answer : Option Product}
    (hreads : s.Reads id answer) : s'.Reads id answer := by
  cases h with
  | load => exact hreads
  | save => exact reads_withProducts.mpr (.inr hreads)
  | delete => exact reads_withProducts.mpr (.inr hreads)
  | sendMessage => exact hreads
  | publish => exact hreads

/-- A handler stays at its stage when a call is performed. -/
theorem Doing.of_performs (h : Doing A s r c) (hs : call.Performs s a s') : Doing A s' r c :=
  h.mono (fun _ hn => (messages_prefix_of_performs hs).subset hn)
    fun _ _ hreads => reads_of_performs hs hreads

/-- **A handler starts** at one of the stages. -/
theorem doing_handle (s : CatalogStore) (r : CatalogRequest) : Doing A s r (A.handle r) := by
  cases r with
  | addProduct u t q =>
    obtain ⟨next, heq, hok, herror⟩ := handle_addProduct (A := A) u t q
    rw [heq]
    exact .saving hok herror
  | getProduct id =>
    obtain ⟨next, heq, hok, herror⟩ := handle_getProduct (A := A) id
    rw [heq]
    exact .reading hok herror
  | deleteProduct id =>
    obtain ⟨next, heq, hnone, hsome, herror⟩ := handle_deleteProduct (A := A) id
    rw [heq]
    exact .finding hnone hsome herror

/-- **What a call changes**, from the stage of its handler. -/
theorem Doing.changes (h : Doing A s r (.calling call next)) (hs : call.Performs s a s') :
    Changes A r s call s' := by
  cases h with
  | saving =>
    cases hs
    exact .stored rfl
  | announcing htext _ _ hstored =>
    cases hs
    exact .told htext (.inl ⟨_, rfl, rfl⟩) hstored
  | reading =>
    cases hs
    exact .nothing
  | finding =>
    cases hs
    exact .nothing
  | removing =>
    cases hs
    exact .removed rfl
  | telling htext _ _ hreads =>
    cases hs
    exact .told htext (.inr ⟨_, rfl, rfl⟩) hreads
  | tellingTopic htext _ _ htold =>
    cases hs
    exact .published htext htold

/-- **The stage to which an answer leads.** -/
theorem Doing.answer (hwrites : WritesNotifications A) (h : Doing A s r (.calling call next))
    (hs : call.Performs s a s') :
    Doing A s' r (next (.ok a)) ∧ Follows r call (next (.ok a)).waitsFor := by
  cases h with
  | @saving u t q _ hok _ =>
    obtain ⟨text, htext⟩ := hwrites "ADD" (by simp) (newProduct u t q).id
    obtain ⟨next', heq, hok', herror'⟩ := announce_eq htext
    cases hs
    have hstored : (s.withProducts (s.products.put (newProduct u t q))).Reads
        (newProduct u t q).id (some (newProduct u t q)) :=
      reads_withProducts.mpr (.inl ProductTable.item_put_self)
    rw [hok, heq]
    exact ⟨.announcing htext hok' herror' hstored, .saved⟩
  | announcing htext hok _ _ =>
    cases hs
    rw [hok]
    refine ⟨.added ?_, .announced⟩
    rw [messages_send htext]
    exact List.mem_append_right _ (List.mem_singleton_self _)
  | reading hok _ =>
    cases hs with
    | load hreads =>
      rw [hok]
      exact ⟨.read hreads, .read⟩
  | @finding id _ hnone hsome _ =>
    cases hs with
    | load hreads =>
      cases a with
      | none =>
        rw [hnone]
        exact ⟨.deleted, .absent⟩
      | some product =>
        obtain rfl : product.id = id := hreads.choose.keyed _ _ hreads.choose_spec.2
        obtain ⟨next', heq, hok', herror'⟩ := remove_eq (A := A) product.id product
        rw [hsome, heq]
        exact ⟨.removing hok' herror' hreads, .found⟩
  | @removing product _ hok _ hreads =>
    obtain ⟨text, htext⟩ := hwrites "DELETE" (by simp) product.id
    obtain ⟨next', heq, hok', herror'⟩ := tell_eq htext
    cases hs
    rw [hok, heq]
    exact ⟨.telling htext hok' herror' (reads_withProducts.mpr (.inr hreads)), .removed⟩
  | telling htext hok _ _ =>
    obtain ⟨next', heq, hok', herror'⟩ := tellTopic_eq htext
    cases hs
    rw [hok, heq]
    refine ⟨.tellingTopic htext hok' herror' ?_, .queueTold⟩
    rw [messages_send htext]
    exact List.mem_append_right _ (List.mem_singleton_self _)
  | tellingTopic _ hok _ _ =>
    cases hs
    rw [hok]
    exact ⟨.deleted, .topicTold⟩

/-- **An error of a service** ends the handler that called it. -/
theorem Doing.error (h : Doing A s r (.calling call next)) {e : Throwable}
    (he : A.notifier.catchesProcessing e = false) : next (.error e) = .thrown e := by
  cases h with
  | saving _ herror => exact herror e he
  | announcing _ _ herror => exact herror e he
  | reading _ herror => exact herror e he
  | finding _ _ herror => exact herror e he
  | removing _ herror => exact herror e he
  | telling _ _ herror => exact herror e he
  | tellingTopic _ _ herror => exact herror e he

end Stages

end GradleLocalstack.Analysis
