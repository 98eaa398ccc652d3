import GradleLocalstack.Analysis.CatalogStages

/-!
# The example application under concurrent requests

Requests arrive at any time and their handlers run side by side; the AWS clients may send a
call more than once, a call may fail after it was performed, and reads may be out of date.

`CatalogInvariant` is what then holds of every pool that is reached.  More holds if a deletion
is asked for only by those who can know the key of the product (`Informed`): from the first
products, from the answer to the request that added it, or from the queue.  A product is then
stored for the last time before anyone asks to delete it, so that what is deleted stays away
(`DeletionInvariant`).
-/

set_option autoImplicit false

namespace GradleLocalstack.Analysis

open Foundation GradleLocalstack.Model GradleLocalstack.Program CatalogApplication

variable {A : CatalogApplication} {seeds : ProductTable} {P : CatalogPool} {i : ℕ}
  {r : CatalogRequest} {c c' : Handler CatalogResponse} {call : CatalogCall} {s' : CatalogStore}

/-! ## Any requests -/

/-- What holds of every pool that is reached from the given products. -/
structure CatalogInvariant (A : CatalogApplication) (seeds : ProductTable) (P : CatalogPool) :
    Prop where
  /-- Every handler is at one of its stages. -/
  doing : ∀ i r c, P.Entry i r c → Doing A P.store r c
  /-- The first products are not forgotten. -/
  rooted : ∀ id p, seeds.item id = some p → P.store.Reads id (some p)
  /-- What is or was in the table is a first product or comes from a request. -/
  origin : ∀ id p, P.store.Reads id (some p) →
    seeds.item id = some p ∨ ∃ i r c, P.Entry i r c ∧ r.newProduct = some p
  /-- The queue is told only of products that are or were in the table. -/
  stored : ∀ n ∈ messages A P.store, ∃ p, P.store.Reads n.productId (some p)
  /-- The topic is told only of deletions that the queue was told of. -/
  topic : ∀ id, ⟨"DELETE", id⟩ ∈ published A P.store → ⟨"DELETE", id⟩ ∈ messages A P.store

namespace CatalogInvariant

/-- Before any request. -/
theorem start (seeds : ProductTable) :
    CatalogInvariant A seeds ⟨CatalogStore.seeded seeds, []⟩ where
  doing := by
    rintro i r c ⟨⟩
  rooted _ _ hitem := ⟨seeds, List.mem_cons_self, hitem⟩
  origin := by
    rintro id p ⟨t, ht, hitem⟩
    rw [List.mem_singleton.mp ht] at hitem
    exact .inl hitem
  stored := by simp [messages, CatalogStore.seeded]
  topic := by simp [published, CatalogStore.seeded]

/-- A handler that waits to store a product is one that adds it. -/
theorem newProduct_of_waits (h : CatalogInvariant A seeds P) {p : Product}
    (hentry : P.Entry i r c) (hwaits : c.waitsFor = some (.save p)) : r.newProduct = some p := by
  obtain ⟨next, rfl⟩ := Client.waitsFor_eq_some.mp hwaits
  cases (h.doing i r _ hentry).changes (a := ()) .save with
  | stored hp => exact hp

/-- A request arrives. -/
theorem arrive (h : CatalogInvariant A seeds P) (r : CatalogRequest) :
    CatalogInvariant A seeds (P.arrive r (A.handle r)) where
  doing j r' c hj := by
    rcases Pool.entry_arrive.mp hj with hold | ⟨-, rfl, rfl⟩
    · exact h.doing j r' c hold
    · exact doing_handle P.store r'
  rooted := h.rooted
  origin id p hreads := by
    apply (h.origin id p hreads).imp_right
    rintro ⟨j, r', c, hj, hp⟩
    exact ⟨j, r', c, Pool.entry_arrive.mpr (.inl hj), hp⟩
  stored := h.stored
  topic := h.topic

/-- A handler goes on to its next stage. -/
theorem advance (h : CatalogInvariant A seeds P) (hentry : P.Entry i r c)
    (hdoing : Doing A P.store r c') : CatalogInvariant A seeds (P.advance i c') where
  doing j r' c₁ hj := by
    rcases Pool.entry_of_advance hj with ⟨rfl, rfl, c₀, hold⟩ | ⟨-, hold⟩
    · rw [(hold.unique hentry).1]
      exact hdoing
    · exact h.doing j r' c₁ hold
  rooted := h.rooted
  origin id p hreads := by
    apply (h.origin id p hreads).imp_right
    rintro ⟨j, r', c₀, hj, hp⟩
    obtain ⟨c₁, hj'⟩ := Pool.exists_entry_advance.mpr ⟨c₀, hj⟩
    exact ⟨j, r', c₁, hj', hp⟩
  stored := h.stored
  topic := h.topic

/-- **A call is performed.** -/
theorem perform (h : CatalogInvariant A seeds P) (hentry : P.Entry i r c)
    (hchange : Changes A r P.store call s') {a : call.Response}
    (hs : call.Performs P.store a s') : CatalogInvariant A seeds (P.withStore s') := by
  have hmessages := messages_prefix_of_performs (A := A) hs
  refine
    { doing := fun j r' c' hj => (h.doing j r' c' hj).of_performs hs
      rooted := fun id p hitem => reads_of_performs hs (h.rooted id p hitem)
      origin := ?origin, stored := ?stored, topic := ?topic }
  case origin =>
    intro id p hreads
    cases hchange with
    | nothing => exact h.origin id p hreads
    | told => exact h.origin id p hreads
    | published => exact h.origin id p hreads
    | removed => exact h.origin id p (reads_of_remove hreads)
    | stored hp =>
      rcases reads_of_put hreads with ⟨-, rfl⟩ | hold
      · exact .inr ⟨i, r, c, hentry, hp⟩
      · exact h.origin id p hold
  case stored =>
    intro n hn
    have hbefore : n ∈ messages A P.store ∨ ∃ p, P.store.Reads n.productId (some p) := by
      cases hchange with
      | nothing => exact .inl hn
      | stored => exact .inl hn
      | removed => exact .inl hn
      | published => exact .inl hn
      | told htext _ hreads =>
        have hn' : n ∈ messages A (P.store.send A.notifier.queueUrl _) := hn
        rw [messages_send htext] at hn'
        rcases List.mem_append.mp hn' with hold | hnew
        · exact .inl hold
        · exact .inr ⟨_, List.mem_singleton.mp hnew ▸ hreads⟩
    obtain ⟨p, hreads⟩ := hbefore.elim (h.stored n) fun hreads => hreads
    exact ⟨p, reads_of_performs hs hreads⟩
  case topic =>
    intro id hn
    apply hmessages.subset
    cases hchange with
    | nothing => exact h.topic id hn
    | stored => exact h.topic id hn
    | removed => exact h.topic id hn
    | told => exact h.topic id hn
    | published htext htold =>
      have hn' : ⟨"DELETE", id⟩ ∈ published A (P.store.publish A.notifier.topicArn _) := hn
      rw [published_publish htext] at hn'
      rcases List.mem_append.mp hn' with hold | hnew
      · exact h.topic id hold
      · cases List.mem_singleton.mp hnew
        exact htold

/-- **What is reached keeps the invariant.** -/
theorem of_reachable (hwrites : WritesNotifications A)
    (hreach : A.site.Reachable (CatalogStore.seeded seeds) P) : CatalogInvariant A seeds P := by
  apply Site.Reachable.invariant (CatalogInvariant A seeds) (start seeds) _ _ _ hreach
  · exact fun P r _ h _ => h.arrive r
  · intro P i r call next a s' _ h hentry hs
    have hdoing := h.doing i r _ hentry
    have hperform := h.perform hentry (hdoing.changes hs) hs
    exact ⟨hperform, hperform.advance (P := P.withStore s') hentry (hdoing.answer hwrites hs).1⟩
  · intro P i r call next e _ h hentry he
    rw [(h.doing i r _ hentry).error he]
    exact h.advance hentry .failed

end CatalogInvariant

/-! ## Requests by those who know the key -/

namespace CatalogApplication

/-- Whoever asks to delete a product that a request adds has the answer to that request, or has
read of the product in the queue. -/
def Informed (A : CatalogApplication) (P : CatalogPool) : CatalogRequest → Prop
  | .deleteProduct id => ∀ i r c p, P.Entry i r c → r.newProduct = some p → p.id = id →
      c.Finished ∨ ∃ n ∈ messages A P.store, n.productId = id
  | _ => True

/-- The application among its services, with requests by those who know the keys. -/
def informedSite (A : CatalogApplication) : Site CatalogStore CatalogRequest CatalogCall
    CatalogCall.Response Throwable CatalogResponse :=
  A.site.restrict (Informed A)

end CatalogApplication

/-- A handler is about to tell the queue that it has deleted the product. -/
def AboutToTell (P : CatalogPool) (id : String) : Prop :=
  ∃ i c queueUrl text, P.Entry i (.deleteProduct id) c ∧
    c.waitsFor = some (.sendMessage queueUrl text)

/-- The handler may have deleted a product that the queue was not told about. -/
def Owes (c : Handler CatalogResponse) : Prop :=
  (∃ e, c = .thrown e) ∨ (∃ p, c.waitsFor = some (.delete p)) ∨
    ∃ queueUrl text, c.waitsFor = some (.sendMessage queueUrl text)

/-- A handler that has returned has told what it has done. -/
theorem not_owes_of_finished (h : c.Finished) : ¬ Owes c := by
  obtain ⟨a, rfl⟩ := h
  rintro (⟨e, ⟨⟩⟩ | ⟨p, ⟨⟩⟩ | ⟨queueUrl, text, ⟨⟩⟩)

/-- What holds besides, of every pool that is reached by those who know the keys. -/
structure DeletionInvariant (A : CatalogApplication) (P : CatalogPool) : Prop where
  /-- No two requests add a product of the same key. -/
  once : ∀ i j r r' c c' p p', P.Entry i r c → P.Entry j r' c' → r.newProduct = some p →
    r'.newProduct = some p' → p.id = p'.id → i = j
  /-- Nobody has heard of a product that may still be stored. -/
  unheard : ∀ i r c p, P.Entry i r c → c.waitsFor = some (.save p) →
    (∀ n ∈ messages A P.store, n.productId ≠ p.id) ∧
      ∀ j id c', P.Entry j (.deleteProduct id) c' → id ≠ p.id
  /-- What the queue was told, or is about to be told, is deleted is gone. -/
  gone : ∀ id, ⟨"DELETE", id⟩ ∈ messages A P.store ∨ AboutToTell P id →
    P.store.products.item id = none
  /-- What was there and is gone was told, or some handler has still to tell it or has failed. -/
  missing : ∀ id p, P.store.Reads id (some p) → P.store.products.item id = none →
    ⟨"DELETE", id⟩ ∈ messages A P.store ∨ ∃ i c, P.Entry i (.deleteProduct id) c ∧ Owes c

namespace DeletionInvariant

/-- Before any request. -/
theorem start (seeds : ProductTable) :
    DeletionInvariant A ⟨CatalogStore.seeded seeds, []⟩ where
  once := by
    rintro i j r r' c c' p p' ⟨⟩
  unheard := by
    rintro i r c p ⟨⟩
  gone := by
    rintro id (hn | ⟨i, c, queueUrl, text, ⟨⟩, -⟩)
    simp [messages, CatalogStore.seeded] at hn
  missing := by
    intro id p hreads hnone
    obtain ⟨t, ht, hitem⟩ := hreads
    rw [List.mem_singleton.mp ht] at hitem
    cases hitem.symm.trans hnone

/-- The first call of a request. -/
def firstCall : CatalogRequest → CatalogCall
  | .addProduct u t q => .save (ProductCatalogService.newProduct u t q)
  | .getProduct id => .load id
  | .deleteProduct id => .load id

/-- For what a handler waits when it starts. -/
theorem waitsFor_handle (r : CatalogRequest) : (A.handle r).waitsFor = some (firstCall r) := by
  cases r <;> rfl

/-- A request whose handler starts by storing a product adds that product. -/
theorem newProduct_of_waitsFor_handle {p : Product}
    (hwaits : (A.handle r).waitsFor = some (.save p)) : r.newProduct = some p := by
  rw [waitsFor_handle] at hwaits
  cases r with
  | addProduct =>
    cases hwaits
    rfl
  | getProduct => cases hwaits
  | deleteProduct => cases hwaits

/-- A request that adds a product is about a key that nobody has seen. -/
theorem unseen_of_admits {p : Product} (hadmits : Admits P r) (hp : r.newProduct = some p) :
    (∀ j r' c, P.Entry j r' c → r'.productId ≠ p.id) ∧ ∀ q, ¬ P.store.Reads p.id (some q) := by
  cases r with
  | addProduct u t q =>
    obtain rfl := Option.some.inj hp
    obtain ⟨hrequests, htables⟩ := hadmits
    refine ⟨hrequests, ?_⟩
    rintro q ⟨t, ht, hitem⟩
    cases (htables t ht).symm.trans hitem
  | getProduct => cases hp
  | deleteProduct => cases hp

/-- A request arrives. -/
theorem arrive (h : DeletionInvariant A P) (hcatalog : CatalogInvariant A seeds P)
    (hadmits : (informedSite A).Admits P r) : DeletionInvariant A (P.arrive r (A.handle r)) := by
  obtain ⟨hfresh, hinformed⟩ := hadmits
  refine { once := ?once, unheard := ?unheard, gone := ?gone, missing := ?missing }
  case once =>
    intro j k r₁ r₂ c₁ c₂ p p' hj hk hp hp' hid
    rcases Pool.entry_arrive.mp hj with hold | ⟨hlast, rfl, -⟩
    · rcases Pool.entry_arrive.mp hk with hold' | ⟨-, rfl, -⟩
      · exact h.once j k r₁ r₂ c₁ c₂ p p' hold hold' hp hp' hid
      · have hne := (unseen_of_admits hfresh hp').1 j r₁ c₁ hold
        rw [CatalogRequest.productId_of_newProduct hp] at hne
        exact absurd hid hne
    · rcases Pool.entry_arrive.mp hk with hold' | ⟨hlast', -, -⟩
      · have hne := (unseen_of_admits hfresh hp).1 k r₂ c₂ hold'
        rw [CatalogRequest.productId_of_newProduct hp'] at hne
        exact absurd hid.symm hne
      · rw [hlast, hlast']
  case unheard =>
    intro j r' c p hj hwaits
    rcases Pool.entry_arrive.mp hj with hold | ⟨-, rfl, rfl⟩
    · obtain ⟨hmessages, hdeletes⟩ := h.unheard j r' c p hold hwaits
      refine ⟨hmessages, ?_⟩
      intro k id c' hk hid
      rcases Pool.entry_arrive.mp hk with hold' | ⟨-, rfl, -⟩
      · exact hdeletes k id c' hold' hid
      · -- whoever knows the key has it from the answer or from a message
        have hp := hcatalog.newProduct_of_waits hold hwaits
        rcases hinformed j r' c p hold hp hid.symm with hfinished | ⟨n, hn, hnid⟩
        · rw [hfinished.waitsFor_eq] at hwaits
          cases hwaits
        · exact hmessages n hn (hnid.trans hid)
    · have hp := newProduct_of_waitsFor_handle hwaits
      obtain ⟨hrequests, hreads⟩ := unseen_of_admits hfresh hp
      constructor
      · intro n hn hid
        obtain ⟨q, hq⟩ := hcatalog.stored n hn
        exact hreads q (hid ▸ hq)
      · intro k id c' hk
        rcases Pool.entry_arrive.mp hk with hold' | ⟨-, rfl, -⟩
        · exact hrequests k _ c' hold'
        · cases hp
  case gone =>
    rintro id (hn | ⟨j, c, queueUrl, text, hj, hwaits⟩)
    · exact h.gone id (.inl hn)
    · rcases Pool.entry_arrive.mp hj with hold | ⟨-, rfl, rfl⟩
      · exact h.gone id (.inr ⟨j, c, queueUrl, text, hold, hwaits⟩)
      · rw [waitsFor_handle] at hwaits
        cases hwaits
  case missing =>
    intro id p hreads hnone
    apply (h.missing id p hreads hnone).imp_right
    rintro ⟨j, c, hj, howes⟩
    exact ⟨j, c, Pool.entry_arrive.mpr (.inl hj), howes⟩

/-- The handler of a request goes on: not to store anything, to tell of a deletion only when
the product is gone, and with what it owed told or still owed. -/
theorem advance (h : DeletionInvariant A P) (hentry : P.Entry i r c)
    (hsave : ∀ p, c'.waitsFor ≠ some (.save p))
    (hgone : ∀ id queueUrl text, r = .deleteProduct id →
      c'.waitsFor = some (.sendMessage queueUrl text) → P.store.products.item id = none)
    (howes : ∀ id, r = .deleteProduct id → Owes c →
      ⟨"DELETE", id⟩ ∈ messages A P.store ∨ Owes c') : DeletionInvariant A (P.advance i c') where
  once j k r₁ r₂ c₁ c₂ p p' hj hk hp hp' hid := by
    obtain ⟨_, hj'⟩ := Pool.exists_entry_advance.mp ⟨c₁, hj⟩
    obtain ⟨_, hk'⟩ := Pool.exists_entry_advance.mp ⟨c₂, hk⟩
    exact h.once j k r₁ r₂ _ _ p p' hj' hk' hp hp' hid
  unheard j r' c₁ p hj hwaits := by
    rcases Pool.entry_of_advance hj with ⟨-, rfl, -⟩ | ⟨-, hold⟩
    · exact absurd hwaits (hsave p)
    · obtain ⟨hmessages, hdeletes⟩ := h.unheard j r' c₁ p hold hwaits
      refine ⟨hmessages, ?_⟩
      intro k id c₂ hk
      obtain ⟨c₀, hk'⟩ := Pool.exists_entry_advance.mp ⟨c₂, hk⟩
      exact hdeletes k id c₀ hk'
  gone := by
    rintro id (hn | ⟨j, c₁, queueUrl, text, hj, hwaits⟩)
    · exact h.gone id (.inl hn)
    · rcases Pool.entry_of_advance hj with ⟨rfl, rfl, c₀, hold⟩ | ⟨-, hold⟩
      · exact hgone id queueUrl text (hentry.unique hold).1 hwaits
      · exact h.gone id (.inr ⟨j, c₁, queueUrl, text, hold, hwaits⟩)
  missing id p hreads hnone := by
    rcases h.missing id p hreads hnone with htold | ⟨j, c₀, hj, howe⟩
    · exact .inl htold
    · by_cases hij : i = j
      · subst hij
        obtain ⟨rfl, rfl⟩ := hentry.unique hj
        exact (howes id rfl howe).imp_right fun howe' => ⟨i, c', hj.advance_self, howe'⟩
      · exact .inr ⟨j, c₀, hj.advance_of_ne hij, howe⟩

/-- A product is stored that nobody has heard of. -/
theorem stored (h : DeletionInvariant A P) {p : Product} (hentry : P.Entry i r c)
    (hwaits : c.waitsFor = some (.save p)) :
    DeletionInvariant A (P.withStore (P.store.withProducts (P.store.products.put p))) := by
  obtain ⟨hmessages, hdeletes⟩ := h.unheard i r c p hentry hwaits
  refine { once := h.once, unheard := h.unheard, gone := ?gone, missing := ?missing }
  case gone =>
    intro id htold
    have hne : id ≠ p.id := by
      rcases htold with hn | ⟨j, c', queueUrl, text, hj, -⟩
      · exact hmessages _ hn
      · exact hdeletes j id c' hj
    exact (ProductTable.item_put_of_ne hne).trans (h.gone id htold)
  case missing =>
    intro id q hreads hnone
    have hnone' : (P.store.products.put p).item id = none := hnone
    have hne : id ≠ p.id := by
      rintro rfl
      rw [ProductTable.item_put_self] at hnone'
      cases hnone'
    rw [ProductTable.item_put_of_ne hne] at hnone'
    rcases reads_of_put hreads with ⟨hid, -⟩ | hold
    · exact absurd hid hne
    · exact h.missing id q hold hnone'

/-- A product is deleted by a handler that has still to tell of it. -/
theorem removed (h : DeletionInvariant A P) {p : Product}
    (hentry : P.Entry i (.deleteProduct p.id) c) (hwaits : c.waitsFor = some (.delete p)) :
    DeletionInvariant A
      (P.withStore (P.store.withProducts (P.store.products.remove p.id))) := by
  have hstays : ∀ id, P.store.products.item id = none →
      (P.store.products.remove p.id).item id = none := by
    intro id hnone
    by_cases hid : id = p.id
    · rw [hid, ProductTable.item_remove_self]
    · rw [ProductTable.item_remove_of_ne hid, hnone]
  refine
    { once := h.once, unheard := h.unheard, gone := fun id htold => hstays id (h.gone id htold),
      missing := ?missing }
  intro id q hreads hnone
  by_cases hid : id = p.id
  · subst hid
    exact .inr ⟨i, c, hentry, .inr (.inl ⟨p, hwaits⟩)⟩
  · have hnone' : P.store.products.item id = none :=
      (ProductTable.item_remove_of_ne hid).symm.trans hnone
    exact h.missing id q (reads_of_remove hreads) hnone'

/-- The queue is told by a handler that no longer stores anything. -/
theorem told (h : DeletionInvariant A P) (hcatalog : CatalogInvariant A seeds P)
    {n : ProductChangeNotification} {queueUrl text text' : String} (hentry : P.Entry i r c)
    (hwaits : c.waitsFor = some (.sendMessage queueUrl text))
    (htext : A.notifier.mapper.writeValueAsString n = .ok text') (htells : Tells r n) :
    DeletionInvariant A (P.withStore (P.store.send A.notifier.queueUrl text')) := by
  have hmessages := messages_send (s := P.store) htext
  have hlast : ∀ m ∈ messages A (P.store.send A.notifier.queueUrl text'),
      m ∈ messages A P.store ∨ m = n := by
    intro m hm
    rw [hmessages] at hm
    simpa using hm
  refine { once := h.once, unheard := ?unheard, gone := ?gone, missing := ?missing }
  case unheard =>
    intro j r' c' p hj hwaits'
    obtain ⟨hunheard, hdeletes⟩ := h.unheard j r' c' p hj hwaits'
    refine ⟨?_, hdeletes⟩
    intro m hm
    rcases hlast m hm with hold | rfl
    · exact hunheard m hold
    · rcases htells with ⟨p', hp', rfl⟩ | ⟨id, rfl, rfl⟩
      · intro hid
        have hp := hcatalog.newProduct_of_waits hj hwaits'
        obtain rfl := h.once i j r r' c c' p' p hentry hj hp' hp hid
        rw [(hentry.unique hj).2, hwaits'] at hwaits
        cases hwaits
      · exact hdeletes i id c hentry
  case gone =>
    rintro id (hn | htelling)
    · rcases hlast _ hn with hold | rfl
      · exact h.gone id (.inl hold)
      · rcases htells with ⟨p', -, heq⟩ | ⟨id', rfl, heq⟩
        · simp at heq
        · obtain rfl : id = id' := by simpa using heq
          exact h.gone id (.inr ⟨i, c, queueUrl, text, hentry, hwaits⟩)
    · exact h.gone id (.inr htelling)
  case missing =>
    intro id p hreads hnone
    apply (h.missing id p hreads hnone).imp_left
    intro hn
    show _ ∈ messages A (P.store.send A.notifier.queueUrl text')
    rw [hmessages]
    exact List.mem_append_left _ hn

/-- **A call is performed.** -/
theorem perform (h : DeletionInvariant A P) (hcatalog : CatalogInvariant A seeds P)
    (hentry : P.Entry i r c) (hwaits : c.waitsFor = some call)
    (hchange : Changes A r P.store call s') : DeletionInvariant A (P.withStore s') := by
  cases hchange with
  | nothing => exact h
  | stored hp => exact h.stored hentry hwaits
  | removed hr =>
    subst hr
    exact h.removed hentry hwaits
  | told htext htells _ => exact h.told hcatalog hentry hwaits htext htells
  | published =>
    exact { once := h.once, unheard := h.unheard, gone := h.gone, missing := h.missing }

/-- **A call is answered.** -/
theorem answer (h : DeletionInvariant A P) (hcatalog : CatalogInvariant A seeds P)
    (hentry : P.Entry i r c) (hwaits : c.waitsFor = some call)
    (hchange : Changes A r P.store call s') (hfollows : Follows r call c'.waitsFor) :
    DeletionInvariant A ((P.withStore s').advance i c') := by
  apply (h.perform hcatalog hentry hwaits hchange).advance hentry
  · intro p hsave
    rw [hsave] at hfollows
    cases hfollows
  · rintro id queueUrl text rfl htelling
    rw [htelling] at hfollows
    cases hfollows
    cases hchange with
    | @removed p hr =>
      cases hr
      exact ProductTable.item_remove_self
  · rintro id rfl (⟨e, rfl⟩ | ⟨p, hdelete⟩ | ⟨queueUrl, text, hsend⟩)
    · cases hwaits
    · -- what was deleted is told next
      right
      cases hwaits.symm.trans hdelete
      generalize hnext : c'.waitsFor = waits at hfollows
      cases hfollows
      exact .inr (.inr ⟨_, _, hnext⟩)
    · left
      cases hwaits.symm.trans hsend
      cases hchange with
      | told htext htells _ =>
        rcases htells with ⟨p, ⟨⟩, -⟩ | ⟨id', heq, rfl⟩
        cases heq
        show _ ∈ messages A (P.store.send A.notifier.queueUrl _)
        rw [messages_send htext]
        exact List.mem_append_right _ (List.mem_singleton_self _)

/-- **What is reached by those who know the keys keeps both invariants.** -/
theorem of_reachable (hwrites : WritesNotifications A)
    (hreach : (informedSite A).Reachable (CatalogStore.seeded seeds) P) :
    DeletionInvariant A P := by
  have hcatalog : ∀ {Q : CatalogPool}, (informedSite A).Reachable (CatalogStore.seeded seeds) Q →
      CatalogInvariant A seeds Q :=
    fun hQ => .of_reachable hwrites hQ.of_restrict
  apply Site.Reachable.invariant (DeletionInvariant A) (start seeds) _ _ _ hreach
  · exact fun P r hP h hadmits => h.arrive (hcatalog hP) hadmits
  · intro P i r call next a s' hP h hentry hs
    have hdoing := (hcatalog hP).doing i r _ hentry
    have hchange := hdoing.changes hs
    exact ⟨h.perform (hcatalog hP) hentry rfl hchange,
      h.answer (hcatalog hP) hentry rfl hchange (hdoing.answer hwrites hs).2⟩
  · intro P i r call next e hP h hentry he
    rw [((hcatalog hP).doing i r _ hentry).error he]
    apply h.advance hentry
    · rintro p ⟨⟩
    · rintro id queueUrl text - ⟨⟩
    · exact fun _ _ _ => .inr (.inl ⟨e, rfl⟩)

end DeletionInvariant

end GradleLocalstack.Analysis
