import Mathlib.Data.Int.Notation
import Mathlib.Logic.Function.Basic
import GradleLocalstack.Foundation.Pool
import GradleLocalstack.Model.Jvm

/-!
# The product catalog of the example application, and the services it calls

A table of products by their keys, a queue and a topic.  `DynamoDBMapper` reads with the
default configuration, which is eventually consistent: a read may answer with any earlier
state of the item.  The queue and the topic keep the texts that were accepted, in order.  The
sources cited are those of `gradle-localstack-plugin-example/src/main/java`.
-/

set_option autoImplicit false

namespace GradleLocalstack.Model

open Foundation

/-- A product as the table stores it.
SRC: example/data/model/Product.java:16-24. -/
structure Product where
  id : String
  name : Option String
  description : Option String
  active : Bool
  createdAt : ℤ
  deriving DecidableEq, Repr

/-- The body of a request to add a product; its price is nowhere read.
SRC: example/api/model/AddProductRequest.java:22-27. -/
structure AddProductRequest where
  name : Option String
  description : Option String
  active : Bool
  deriving DecidableEq, Repr

/-- The key of a product that was added.
SRC: example/api/model/AddProductResult.java:18-20. -/
structure AddProductResult where
  id : String
  deriving DecidableEq, Repr

/-- What is shown of a product.
SRC: example/api/model/GetProductResult.java:23-29. -/
structure GetProductResult where
  id : String
  name : Option String
  description : Option String
  active : Bool
  createdAt : String
  deriving DecidableEq, Repr

/-- What is told of a product.
SRC: example/notification/model/ProductChangeNotification.java:20-23. -/
structure ProductChangeNotification where
  changeType : String
  productId : String
  deriving DecidableEq, Repr

/-- The products by their keys. -/
structure ProductTable where
  item : String → Option Product
  keyed : ∀ id p, item id = some p → p.id = id

namespace ProductTable

/-- The table with the product under its key. -/
def put (t : ProductTable) (p : Product) : ProductTable where
  item := Function.update t.item p.id (some p)
  keyed := by
    intro id q h
    by_cases hid : id = p.id
    · rw [hid, Function.update_self] at h
      rw [hid, ← Option.some.inj h]
    · rw [Function.update_of_ne hid] at h
      exact t.keyed id q h

/-- The table without an item under the key. -/
def remove (t : ProductTable) (key : String) : ProductTable where
  item := Function.update t.item key none
  keyed := by
    intro id q h
    by_cases hid : id = key
    · rw [hid, Function.update_self] at h
      cases h
    · rw [Function.update_of_ne hid] at h
      exact t.keyed id q h

variable {t : ProductTable} {p : Product} {id key : String}

/-- The product that was put in. -/
@[simp] theorem item_put_self : (t.put p).item p.id = some p := by simp [put]

/-- The other products. -/
theorem item_put_of_ne (h : id ≠ p.id) : (t.put p).item id = t.item id :=
  Function.update_of_ne h _ _

/-- The product that was taken out. -/
@[simp] theorem item_remove_self : (t.remove key).item key = none := by simp [remove]

/-- The other products. -/
theorem item_remove_of_ne (h : id ≠ key) : (t.remove key).item id = t.item id :=
  Function.update_of_ne h _ _

/-- Removing adds nothing. -/
theorem item_of_item_remove (h : (t.remove key).item id = some p) : t.item id = some p := by
  by_cases hid : id = key
  · rw [hid, item_remove_self] at h
    cases h
  · rwa [item_remove_of_ne hid] at h

end ProductTable

/-- What the services hold: the table as it is and as it was before, latest first, and the
texts that each queue and each topic accepted. -/
structure CatalogStore where
  products : ProductTable
  earlier : List ProductTable
  queues : String → List String
  topics : String → List String

namespace CatalogStore

/-- The store with the given table, before anything was sent. -/
def seeded (products : ProductTable) : CatalogStore := ⟨products, [], fun _ => [], fun _ => []⟩

/-- The table has changed. -/
def withProducts (s : CatalogStore) (products : ProductTable) : CatalogStore :=
  { s with products := products, earlier := s.products :: s.earlier }

/-- A queue has accepted a text. -/
def send (s : CatalogStore) (queueUrl body : String) : CatalogStore :=
  { s with queues := Function.update s.queues queueUrl (s.queues queueUrl ++ [body]) }

/-- A topic has accepted a text. -/
def publish (s : CatalogStore) (topicArn message : String) : CatalogStore :=
  { s with topics := Function.update s.topics topicArn (s.topics topicArn ++ [message]) }

/-- A read of the item may answer so: with what the item is, or what it was. -/
def Reads (s : CatalogStore) (id : String) (answer : Option Product) : Prop :=
  ∃ t ∈ s.products :: s.earlier, t.item id = answer

end CatalogStore

/-- The calls that the application makes. -/
inductive CatalogCall where
  | load (id : String)
  | save (product : Product)
  | delete (product : Product)
  | sendMessage (queueUrl messageBody : String)
  | publish (topicArn message : String)
  deriving DecidableEq

/-- What a call answers: the product that was read, if there is one. -/
@[reducible] def CatalogCall.Response : CatalogCall → Type
  | load _ => Option Product
  | _ => Unit

/-- What a performed call answers and leaves. -/
inductive CatalogCall.Performs :
    (c : CatalogCall) → CatalogStore → c.Response → CatalogStore → Prop
  | load {s : CatalogStore} {id : String} {answer : Option Product} (h : s.Reads id answer) :
      Performs (.load id) s answer s
  | save {s : CatalogStore} {product : Product} :
      Performs (.save product) s () (s.withProducts (s.products.put product))
  | delete {s : CatalogStore} {product : Product} :
      Performs (.delete product) s () (s.withProducts (s.products.remove product.id))
  | sendMessage {s : CatalogStore} {queueUrl messageBody : String} :
      Performs (.sendMessage queueUrl messageBody) s () (s.send queueUrl messageBody)
  | publish {s : CatalogStore} {topicArn message : String} :
      Performs (.publish topicArn message) s () (s.publish topicArn message)

end GradleLocalstack.Model
