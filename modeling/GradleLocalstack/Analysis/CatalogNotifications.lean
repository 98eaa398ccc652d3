import GradleLocalstack.Analysis.CatalogRuns

/-!
# What the notifications of the example application are good for

A subscriber follows the queue and keeps a record of the products that it knows or heard of, and
of those of which it heard that they are deleted.  It lets a deletion stand: the queue may tell
of an addition once more after the deletion, when a client sends that call again.  Once the
requests about a product have returned, such a subscriber is right about it, however the requests
ran side by side and in whatever order it got the notifications; and what it was told is never
ahead of the table.
-/

set_option autoImplicit false

namespace GradleLocalstack.Analysis

open Foundation GradleLocalstack.Model GradleLocalstack.Program CatalogApplication

variable {A : CatalogApplication} {seeds : ProductTable} {P P' : CatalogPool}

/-! ## A subscriber -/

/-- What a subscriber has heard: of which products, and which of them are deleted. -/
structure Heard where
  products : String → Bool
  deleted : String → Bool

/-- What a subscriber starts with that knows the first products. -/
def Heard.seeded (seeds : ProductTable) : Heard :=
  ⟨fun id => (seeds.item id).isSome, fun _ => false⟩

/-- One more notification. -/
def Heard.heed (heard : Heard) (n : ProductChangeNotification) : Heard :=
  if n.changeType = "ADD" then
    { heard with products := Function.update heard.products n.productId true }
  else if n.changeType = "DELETE" then
    { heard with deleted := Function.update heard.deleted n.productId true }
  else heard

/-- The subscriber believes that there is such a product. -/
def Heard.believes (heard : Heard) (id : String) : Bool :=
  heard.products id && !heard.deleted id

/-- What one more notification says of a product. -/
theorem heed_iff (heard : Heard) (n : ProductChangeNotification) (id : String) :
    ((heard.heed n).products id = true ↔ heard.products id = true ∨ n = ⟨"ADD", id⟩) ∧
      ((heard.heed n).deleted id = true ↔ heard.deleted id = true ∨ n = ⟨"DELETE", id⟩) := by
  obtain ⟨changeType, productId⟩ := n
  unfold Heard.heed
  by_cases hid : id = productId
  · subst hid
    by_cases hadd : changeType = "ADD"
    · simp [hadd]
    · by_cases hdelete : changeType = "DELETE"
      · simp [hdelete]
      · simp [hadd, hdelete]
  · have hne : ∀ kind, (⟨changeType, productId⟩ : ProductChangeNotification) ≠ ⟨kind, id⟩ := by
      intro kind heq
      exact hid (congrArg ProductChangeNotification.productId heq).symm
    by_cases hadd : changeType = "ADD"
    · simp [hadd, Function.update_of_ne hid, Ne.symm hid]
    · by_cases hdelete : changeType = "DELETE"
      · simp [hdelete, Function.update_of_ne hid, Ne.symm hid]
      · simp [hadd, hdelete]

/-- **What a subscriber has heard** depends on which notifications it got, and not on their
order or number. -/
theorem foldl_heed_iff (heard : Heard) (ms : List ProductChangeNotification) (id : String) :
    ((ms.foldl Heard.heed heard).products id = true ↔
      heard.products id = true ∨ ⟨"ADD", id⟩ ∈ ms) ∧
    ((ms.foldl Heard.heed heard).deleted id = true ↔
      heard.deleted id = true ∨ ⟨"DELETE", id⟩ ∈ ms) := by
  induction ms generalizing heard with
  | nil => simp
  | cons n ms ih =>
    obtain ⟨hproducts, hdeleted⟩ := heed_iff heard n id
    rw [List.foldl_cons, (ih _).1, (ih _).2, hproducts, hdeleted]
    simp only [List.mem_cons, or_assoc, @eq_comm _ n, and_self]

/-- The subscriber believes in the products that it knew or heard of, without those of which it
heard that they are deleted. -/
theorem believes_iff (seeds : ProductTable) (ms : List ProductChangeNotification) (id : String) :
    (ms.foldl Heard.heed (.seeded seeds)).believes id = true ↔
      ((seeds.item id).isSome ∨ ⟨"ADD", id⟩ ∈ ms) ∧ ⟨"DELETE", id⟩ ∉ ms := by
  obtain ⟨hproducts, hdeleted⟩ := foldl_heed_iff (.seeded seeds) ms id
  rw [Heard.believes, Bool.and_eq_true, Bool.not_eq_true', ← Bool.not_eq_true, hproducts, hdeleted]
  simp [Heard.seeded]

/-! ## A run of three requests -/

/-- What stands before the key in the JSON text of a notification. -/
def notificationHead (changeType : String) : List Char :=
  ("\x7b\"change_type\":\"" ++ changeType ++ "\",\"product_id\":\"").toList

/-- The JSON text of a notification whose fields need no escapes. -/
def notificationText (n : ProductChangeNotification) : List Char :=
  notificationHead n.changeType ++ (n.productId.toList ++ ['"', '}'])

/-- The notification of the kind that has the text. -/
def readNotification (text : List Char) (changeType : String) :
    Option ProductChangeNotification :=
  let rest := text.drop (notificationHead changeType).length
  let n : ProductChangeNotification := ⟨changeType, String.ofList rest.dropLast.dropLast⟩
  if notificationText n = text then some n else none

/-- A text is read as what was written. -/
theorem readNotification_text (n : ProductChangeNotification) :
    readNotification (notificationText n) n.changeType = some n := by
  have hid : String.ofList ((notificationText n).drop
      (notificationHead n.changeType).length).dropLast.dropLast = n.productId := by
    unfold notificationText
    rw [List.drop_left]
    simp
  unfold readNotification
  simp only [hid, if_true]

/-- The text of a deletion is not read as an addition. -/
theorem readNotification_other (id : String) :
    readNotification (notificationText ⟨"DELETE", id⟩) "ADD" = none := by
  unfold readNotification
  apply if_neg
  intro h
  simp [notificationText, notificationHead] at h

/-- A mapper that writes the notifications of the application. -/
def notificationMapper : ObjectMapper ProductChangeNotification where
  writeValueAsString n :=
    if n.changeType = "ADD" ∨ n.changeType = "DELETE" then .ok (String.ofList (notificationText n))
    else .error (.plain .jsonProcessingException none)
  readValue text := ["ADD", "DELETE"].findSome? (readNotification text.toList)
  readValue_write := by
    rintro ⟨changeType, id⟩ text h
    split at h
    · rename_i hkind
      cases h
      rw [String.toList_ofList]
      rcases hkind with hkind | hkind
      · obtain rfl : changeType = "ADD" := hkind
        simp [readNotification_text ⟨"ADD", id⟩]
      · obtain rfl : changeType = "DELETE" := hkind
        simp [readNotification_other, readNotification_text ⟨"DELETE", id⟩]
    · cases h

/-- An application with this mapper. -/
def sampleCatalog : CatalogApplication where
  notifier :=
    { queueUrl := "http://localhost:4566/queue/product-changes"
      topicArn := "arn:aws:sns:us-east-1:000000000000:product-drops"
      mapper := notificationMapper
      catchesProcessing := fun e => e.getClass = .jsonProcessingException }
  dateFormat := fun _ => "1970-01-01 12:00:00"

/-- It writes all its notifications. -/
theorem writes_sampleCatalog : WritesNotifications sampleCatalog := by
  intro changeType hkind id
  refine ⟨_, if_pos ?_⟩
  simpa using hkind

/-- A catalog with one product. -/
def oneProduct : ProductTable where
  item id := if id = "00000" then
    some ⟨"00000", some "Widget-0", some "Description for Widget-0", true, 0⟩ else none
  keyed := by
    intro id p h
    split at h
    · rename_i hid
      rw [hid, ← Option.some.inj h]
    · cases h

/-- What a reader is shown of the product that is added. -/
def gadget : GetProductResult := ⟨"01", some "Gadget", none, true, "1970-01-01 12:00:00"⟩

/-- A product is added and deleted by somebody who has read of it in the queue, before the
request that adds it is answered; its call is sent again, so that the queue is told of the
addition after the deletion, and a late reader still finds the product. -/
theorem exists_side_by_side : ∃ P P' : CatalogPool,
    (informedSite sampleCatalog).Reachable (.seeded oneProduct) P ∧
    Relation.ReflTransGen (informedSite sampleCatalog).Step P P' ∧
    messages sampleCatalog P.store = [⟨"ADD", "01"⟩, ⟨"DELETE", "01"⟩] ∧
    messages sampleCatalog P'.store = [⟨"ADD", "01"⟩, ⟨"DELETE", "01"⟩, ⟨"ADD", "01"⟩] ∧
    P'.clients = [(.addProduct "0-1" 0 ⟨some "Gadget", none, true⟩, .returned (.added ⟨"01"⟩)),
      (.deleteProduct "01", .returned .deleted),
      (.getProduct "01", .returned (.found gadget))] := by
  have h := @Relation.ReflTransGen.refl _ (informedSite sampleCatalog).Step
    (⟨.seeded oneProduct, []⟩ : CatalogPool)
  have h := h.tail (.arrive (r := .addProduct "0-1" 0 ⟨some "Gadget", none, true⟩) ?add)
  have h := h.tail (.answer (i := 0) rfl .save)
  have h := h.tail (.perform (i := 0) rfl .sendMessage)
  have h := h.tail (.arrive (r := .deleteProduct "01") ?delete)
  have h := h.tail (.arrive (r := .getProduct "01") ?get)
  have h := h.tail (.answer (i := 1) rfl (.load ⟨_, List.mem_cons_self, rfl⟩))
  have h := h.tail (.answer (i := 1) rfl .delete)
  have h := h.tail (.answer (i := 1) rfl .sendMessage)
  have hstart : ∀ {P : CatalogPool}, (informedSite sampleCatalog).Reachable (.seeded oneProduct) P →
      Relation.ReflTransGen (informedSite sampleCatalog).Step P P := fun _ => .refl
  have h' := hstart h
  have h' := h'.tail (.answer (i := 0) rfl .sendMessage)
  have h' := h'.tail (.answer (i := 2) rfl
    (.load ⟨oneProduct.put ⟨"01", some "Gadget", none, true, 0⟩,
      List.mem_of_getElem? (i := 1) rfl, rfl⟩))
  have h' := h'.tail (.answer (i := 1) rfl .publish)
  exact ⟨_, _, h, h', by decide, by decide, rfl⟩
  case add =>
    refine ⟨⟨?_, ?_⟩, trivial⟩
    · rintro i r c ⟨⟩
    · intro t ht
      rw [List.mem_singleton.mp ht]
      rfl
  case delete =>
    refine ⟨trivial, ?_⟩
    intro i r c p _ _ _
    exact .inr ⟨⟨"ADD", "01"⟩, by decide, rfl⟩
  case get => exact ⟨trivial, trivial⟩

/-! ## The subscriber is right -/

/-- Every request about the product has returned, without an error. -/
def Settled (P : CatalogPool) (id : String) : Prop :=
  ∀ i r c, P.Entry i r c → r.productId = id → c.Finished

/-- A request that added a product and returned has told of it. -/
theorem CatalogInvariant.told_added (h : CatalogInvariant A seeds P) {i : ℕ} {r : CatalogRequest}
    {c : Handler CatalogResponse} {p : Product} (hentry : P.Entry i r c)
    (hp : r.newProduct = some p) (hfinished : c.Finished) :
    ⟨"ADD", p.id⟩ ∈ messages A P.store := by
  obtain ⟨a, rfl⟩ := hfinished
  cases h.doing i r _ hentry with
  | added htold =>
    rw [← Option.some.inj hp]
    exact htold
  | read => cases hp
  | deleted => cases hp

/-- **Once the requests about a product have returned, the notifications tell whether it is in
the table.**  The requests ran side by side in any way, with calls performed again or failed and
reads out of date; the subscriber gets what is in the queue in any order, and anything any number
of times. -/
theorem notifications_tell_the_table (hwrites : WritesNotifications A)
    (hreach : (informedSite A).Reachable (CatalogStore.seeded seeds) P) {id : String}
    (hsettled : Settled P id) {received : List ProductChangeNotification}
    (hreceived : ∀ n, n ∈ received ↔ n ∈ messages A P.store) :
    (received.foldl Heard.heed (.seeded seeds)).believes id =
      (P.store.products.item id).isSome := by
  have hcatalog := CatalogInvariant.of_reachable hwrites hreach.of_restrict
  have hdeletion := DeletionInvariant.of_reachable hwrites hreach
  rw [Bool.eq_iff_iff, believes_iff, hreceived, hreceived]
  constructor
  · rintro ⟨hheard, hkept⟩
    rw [← Option.ne_none_iff_isSome]
    intro hnone
    have hreads : ∃ p, P.store.Reads id (some p) := by
      rcases hheard with hseed | hadd
      · obtain ⟨p, hp⟩ := Option.isSome_iff_exists.mp hseed
        exact ⟨p, hcatalog.rooted id p hp⟩
      · exact hcatalog.stored _ hadd
    obtain ⟨p, hp⟩ := hreads
    rcases hdeletion.missing id p hp hnone with htold | ⟨i, c, hentry, howes⟩
    · exact hkept htold
    · exact not_owes_of_finished (hsettled i _ c hentry rfl) howes
  · intro hthere
    obtain ⟨p, hp⟩ := Option.isSome_iff_exists.mp hthere
    constructor
    · rcases hcatalog.origin id p ⟨_, List.mem_cons_self, hp⟩ with hseed | ⟨i, r, c, hentry, hr⟩
      · left
        rw [hseed]
        rfl
      · right
        obtain rfl : p.id = id := P.store.products.keyed id p hp
        have hid := CatalogRequest.productId_of_newProduct hr
        exact hcatalog.told_added hentry hr (hsettled i r c hentry hid)
    · intro htold
      rw [hdeletion.gone id (.inl htold)] at hp
      cases hp

/-- The subscriber knows that the product is gone, although it heard of it last. -/
theorem notifications_tell_the_table_side_by_side : ∃ P : CatalogPool,
    (informedSite sampleCatalog).Reachable (.seeded oneProduct) P ∧ P.clients.length = 3 ∧
    ([⟨"ADD", "01"⟩, ⟨"DELETE", "01"⟩, ⟨"ADD", "01"⟩].foldl Heard.heed
      (.seeded oneProduct)).believes "01" = (P.store.products.item "01").isSome := by
  obtain ⟨P, P', hreach, hrun, -, hmessages, hclients⟩ := exists_side_by_side
  have hsettled : Settled P' "01" := by
    intro i r c hentry _
    have hmem := List.mem_of_getElem? hentry
    rw [hclients] at hmem
    simp only [List.mem_cons, List.not_mem_nil, or_false] at hmem
    rcases hmem with heq | heq | heq <;> cases heq <;> exact ⟨_, rfl⟩
  refine ⟨P', hreach.trans hrun, by rw [hclients]; rfl, ?_⟩
  apply notifications_tell_the_table writes_sampleCatalog (hreach.trans hrun) hsettled
  intro n
  rw [hmessages]

/-! ## What is told stays true -/

/-- A step adds to the queue what the request of a waiting handler gives rise to. -/
theorem told_of_step (hwrites : WritesNotifications A)
    (hreach : (informedSite A).Reachable (CatalogStore.seeded seeds) P)
    (hstep : (informedSite A).Step P P') :
    ∃ told, messages A P'.store = messages A P.store ++ told ∧
      ∀ n ∈ told, ∃ i r c, P.Entry i r c ∧ c.waitsFor.isSome ∧ Tells r n := by
  have hcatalog := CatalogInvariant.of_reachable hwrites hreach.of_restrict
  have hperformed : ∀ {i : ℕ} {r : CatalogRequest} {call : CatalogCall}
      {next : Except Throwable call.Response → Handler CatalogResponse} {a : call.Response}
      {s' : CatalogStore}, P.Entry i r (.calling call next) → call.Performs P.store a s' →
      ∃ told, messages A s' = messages A P.store ++ told ∧
        ∀ n ∈ told, ∃ i r c, P.Entry i r c ∧ c.waitsFor.isSome ∧ Tells r n := by
    intro i r call next a s' hentry hs
    have hnothing : ∃ told, messages A P.store = messages A P.store ++ told ∧
        ∀ n ∈ told, ∃ i r c, P.Entry i r c ∧ c.waitsFor.isSome ∧ Tells r n :=
      ⟨[], (List.append_nil _).symm, fun n hn => absurd hn List.not_mem_nil⟩
    cases (hcatalog.doing i r _ hentry).changes hs with
    | nothing => exact hnothing
    | stored => exact hnothing
    | removed => exact hnothing
    | published => exact hnothing
    | @told n text p htext htells _ =>
      refine ⟨[n], messages_send htext, ?_⟩
      intro m hm
      rw [List.mem_singleton.mp hm]
      exact ⟨i, r, _, hentry, rfl, htells⟩
  cases hstep with
  | arrive => exact ⟨[], (List.append_nil _).symm, fun n hn => absurd hn List.not_mem_nil⟩
  | perform hentry hs => exact hperformed hentry hs
  | answer hentry hs => exact hperformed hentry hs
  | fail => exact ⟨[], (List.append_nil _).symm, fun n hn => absurd hn List.not_mem_nil⟩

/-- A run adds to the queue what requests give rise to whose handlers waited before it, or that
have arrived since. -/
theorem told_of_run (hwrites : WritesNotifications A)
    (hreach : (informedSite A).Reachable (CatalogStore.seeded seeds) P)
    (hrun : Relation.ReflTransGen (informedSite A).Step P P') :
    ∃ later, messages A P'.store = messages A P.store ++ later ∧
      ∀ n ∈ later, ∃ r, Tells r n ∧ ((∃ i c, P.Entry i r c ∧ c.waitsFor.isSome) ∨
        ∃ Q, Relation.ReflTransGen (informedSite A).Step P Q ∧ (informedSite A).Admits Q r) := by
  induction hrun with
  | refl => exact ⟨[], (List.append_nil _).symm, fun n hn => absurd hn List.not_mem_nil⟩
  | tail hrun hstep ih =>
    obtain ⟨later, hlater, hbefore⟩ := ih
    obtain ⟨told, htold, hnew⟩ := told_of_step hwrites (hreach.trans hrun) hstep
    refine ⟨later ++ told, by rw [htold, hlater, List.append_assoc], ?_⟩
    intro n hn
    rcases List.mem_append.mp hn with hold | hlast
    · exact hbefore n hold
    · obtain ⟨i, r, c, hentry, hwaits, htells⟩ := hnew n hlast
      refine ⟨r, htells, ?_⟩
      exact (Site.waited_of_run hrun hentry hwaits).imp_left
        fun ⟨c', hentry', hwaits'⟩ => ⟨i, c', hentry', hwaits'⟩

/-- **A deletion that was told is final.**  When the queue or the topic was told of it, the
product is not in the table and at no later time is it in the table; and the queue is told once
more of its addition only if the request that adds it was not answered yet. -/
theorem told_deletion_is_final (hwrites : WritesNotifications A)
    (hreach : (informedSite A).Reachable (CatalogStore.seeded seeds) P)
    (hrun : Relation.ReflTransGen (informedSite A).Step P P') {id : String}
    (htold : ⟨"DELETE", id⟩ ∈ messages A P.store ∨ ⟨"DELETE", id⟩ ∈ published A P.store) :
    P'.store.products.item id = none ∧
      ∃ later, messages A P'.store = messages A P.store ++ later ∧
        (⟨"ADD", id⟩ ∈ later → ∃ i r c p, P.Entry i r c ∧ r.newProduct = some p ∧ p.id = id ∧
          c.waitsFor.isSome) := by
  have hcatalog := CatalogInvariant.of_reachable hwrites hreach.of_restrict
  have hqueue : ⟨"DELETE", id⟩ ∈ messages A P.store :=
    htold.elim (fun hn => hn) (hcatalog.topic id)
  have hstays : ∀ {Q : CatalogPool}, Relation.ReflTransGen (informedSite A).Step P Q →
      ⟨"DELETE", id⟩ ∈ messages A Q.store := by
    intro Q hQ
    obtain ⟨later, hlater, -⟩ := told_of_run hwrites hreach hQ
    rw [hlater]
    exact List.mem_append_left _ hqueue
  refine ⟨(DeletionInvariant.of_reachable hwrites (hreach.trans hrun)).gone id
    (.inl (hstays hrun)), ?_⟩
  obtain ⟨later, hlater, htells⟩ := told_of_run hwrites hreach hrun
  refine ⟨later, hlater, ?_⟩
  intro hadd
  obtain ⟨r, htell, hwhen⟩ := htells _ hadd
  rcases htell with ⟨p, hp, heq⟩ | ⟨id', -, heq⟩
  · obtain rfl : id = p.id := by simpa using heq
    rcases hwhen with ⟨i, c, hentry, hwaits⟩ | ⟨Q, hQ, hadmits⟩
    · exact ⟨i, r, c, p, hentry, hp, rfl, hwaits⟩
    · -- the key of a request that has arrived since is not one that was told
      exfalso
      obtain ⟨q, t, ht, hitem⟩ := (CatalogInvariant.of_reachable hwrites
        (hreach.trans hQ).of_restrict).stored _ (hstays hQ)
      cases r with
      | addProduct u time q' =>
        obtain rfl := Option.some.inj hp
        cases (hadmits.1.2 t ht).symm.trans hitem
      | getProduct => cases hp
      | deleteProduct => cases hp
  · simp at heq

/-- The product stays away, and the queue is told of it once more. -/
theorem told_deletion_is_final_side_by_side : ∃ P P' : CatalogPool,
    Relation.ReflTransGen (informedSite sampleCatalog).Step P P' ∧
    messages sampleCatalog P'.store = messages sampleCatalog P.store ++ [⟨"ADD", "01"⟩] ∧
    P'.store.products.item "01" = none := by
  obtain ⟨P, P', hreach, hrun, hmessages, hmessages', -⟩ := exists_side_by_side
  have htold : ⟨"DELETE", "01"⟩ ∈ messages sampleCatalog P.store := by
    rw [hmessages]
    exact List.mem_cons_of_mem _ (List.mem_singleton_self _)
  exact ⟨P, P', hrun, by rw [hmessages, hmessages']; rfl,
    (told_deletion_is_final writes_sampleCatalog hreach hrun (.inl htold)).1⟩

/-- **A reader sees a product as somebody added it**, whole and under its key, however late
the read is. -/
theorem found_product_was_added (hwrites : WritesNotifications A)
    (hreach : A.site.Reachable (CatalogStore.seeded seeds) P) {i : ℕ} {id : String}
    {result : GetProductResult}
    (hentry : P.Entry i (.getProduct id) (.returned (.found result))) :
    ∃ p : Product, p.id = id ∧ result = ProductCatalogService.resultOf A p ∧
      (seeds.item id = some p ∨ ∃ j r c, P.Entry j r c ∧ r.newProduct = some p) := by
  have h := CatalogInvariant.of_reachable hwrites hreach
  generalize hc : (Client.returned (.found result) : Handler CatalogResponse) = c at hentry
  cases h.doing i _ _ hentry with
  | reading => cases hc
  | failed => cases hc
  | @read _ answer hreads =>
    cases answer with
    | none => cases hc
    | some p =>
      have horigin := h.origin id p hreads
      obtain ⟨t, -, hitem⟩ := hreads
      refine ⟨p, t.keyed id p hitem, ?_, horigin⟩
      cases hc
      rfl

/-- The late reader is shown the product that was added. -/
theorem found_product_was_added_side_by_side : ∃ P : CatalogPool,
    sampleCatalog.site.Reachable (.seeded oneProduct) P ∧ ∃ p : Product,
    p.id = "01" ∧ gadget = ProductCatalogService.resultOf sampleCatalog p := by
  obtain ⟨P, P', hreach, hrun, -, -, hclients⟩ := exists_side_by_side
  have hentry : P'.Entry 2 (.getProduct "01") (.returned (.found gadget)) := by
    unfold Pool.Entry
    rw [hclients]
    rfl
  have hreach' := (hreach.trans hrun).of_restrict
  obtain ⟨p, hid, hresult, -⟩ := found_product_was_added writes_sampleCatalog hreach' hentry
  exact ⟨P', hreach', p, hid, hresult⟩

end GradleLocalstack.Analysis
