import GradleLocalstack.Model.Catalog

/-!
# The handlers of the example application

`ProductCatalogResource` answers three kinds of requests.  Each handler is the sequence of
calls that its service method makes; the server runs the handlers side by side.  The sources
cited are those of `gradle-localstack-plugin-example/src/main/java`.
-/

set_option autoImplicit false

namespace GradleLocalstack.Program

open Foundation GradleLocalstack.Model

/-- A computation of the example application, over the calls that it makes. -/
abbrev Handler : Type → Type := Client CatalogCall CatalogCall.Response Throwable

namespace ProductCatalogRepository

/-- The product is stored.
SRC: example/data/ProductCatalogRepository.java:30-33. -/
def create (newProduct : Product) : Handler Product := do
  let _ ← Client.call (CatalogCall.save newProduct)
  pure newProduct

/-- The product is read.
SRC: example/data/ProductCatalogRepository.java:41-43. -/
def findOne (id : String) : Handler (Option Product) := Client.call (CatalogCall.load id)

/-- The product is deleted.
SRC: example/data/ProductCatalogRepository.java:50-52. -/
def delete (product : Product) : Handler Unit := Client.call (CatalogCall.delete product)

end ProductCatalogRepository

/-- The notifier with its queue and its topic.  `MAPPER` writes the notifications;
`catchesProcessing` says of a throwable whether `catch (JsonProcessingException ignored)`
catches it.
SRC: example/notification/ProductChangeNotifier.java:29-45. -/
structure ProductChangeNotifier where
  queueUrl : String
  topicArn : String
  mapper : ObjectMapper ProductChangeNotification
  catchesProcessing : Throwable → Bool

namespace ProductChangeNotifier

/-- One of the `try` blocks of the notifier: write the notification and pass it on; the error
of a notification that cannot be written is logged and dropped. -/
def attempt (N : ProductChangeNotifier) (notification : ProductChangeNotification)
    (pass : String → CatalogCall) : Handler Unit :=
  tryCatch
    (do
      let text ← Client.ofExcept (N.mapper.writeValueAsString notification)
      let _ ← Client.call (pass text)
      pure ())
    (fun e => if N.catchesProcessing e then pure () else throw e)

/-- The queue is told of a new product.
SRC: example/notification/ProductChangeNotifier.java:52-62. -/
def notifyAdd (N : ProductChangeNotifier) (id : String) : Handler Unit :=
  N.attempt ⟨"ADD", id⟩ (.sendMessage N.queueUrl)

/-- The queue, and then the topic, is told of a deleted product.
SRC: example/notification/ProductChangeNotifier.java:69-87. -/
def notifyDelete (N : ProductChangeNotifier) (id : String) : Handler Unit := do
  let notification : ProductChangeNotification := ⟨"DELETE", id⟩
  N.attempt notification (.sendMessage N.queueUrl)
  N.attempt notification (.publish N.topicArn)

end ProductChangeNotifier

/-- The application: its notifier, and how `SimpleDateFormat` prints a point in time. -/
structure CatalogApplication where
  notifier : ProductChangeNotifier
  dateFormat : ℤ → String

namespace ProductCatalogService

/-- The new product of a request: a `UUID` without its dashes, and the time.
SRC: example/service/ProductCatalogService.java:45-51. -/
def newProduct (randomUUID : String) (currentTimeMillis : ℤ) (request : AddProductRequest) :
    Product where
  id := String.ofList (randomUUID.toList.filter (· ≠ '-'))
  name := request.name
  description := request.description
  active := request.active
  createdAt := currentTimeMillis

/-- A product is stored and told of.
SRC: example/service/ProductCatalogService.java:44-62. -/
def addProduct (A : CatalogApplication) (randomUUID : String) (currentTimeMillis : ℤ)
    (addProductRequest : AddProductRequest) : Handler AddProductResult := do
  let product ← ProductCatalogRepository.create
    (newProduct randomUUID currentTimeMillis addProductRequest)
  A.notifier.notifyAdd product.id
  pure ⟨product.id⟩

/-- What is shown of a product.
SRC: example/service/ProductCatalogService.java:76-81. -/
def resultOf (A : CatalogApplication) (product : Product) : GetProductResult where
  id := product.id
  name := product.name
  description := product.description
  active := product.active
  createdAt := A.dateFormat product.createdAt

/-- A product is shown, if there is one.
SRC: example/service/ProductCatalogService.java:70-88. -/
def getProduct (A : CatalogApplication) (id : String) : Handler (Option GetProductResult) := do
  match ← ProductCatalogRepository.findOne id with
  | some product => pure (some (resultOf A product))
  | none => pure none

/-- A product is deleted and told of, if there is one.
SRC: example/service/ProductCatalogService.java:95-102. -/
def deleteProduct (A : CatalogApplication) (id : String) : Handler Unit := do
  match ← ProductCatalogRepository.findOne id with
  | some product => do
    ProductCatalogRepository.delete product
    A.notifier.notifyDelete id
  | none => pure ()

end ProductCatalogService

/-- A request, with the random UUID and the time that its handler draws. -/
inductive CatalogRequest where
  | addProduct (randomUUID : String) (currentTimeMillis : ℤ) (request : AddProductRequest)
  | getProduct (id : String)
  | deleteProduct (id : String)

/-- What the application answers. -/
inductive CatalogResponse where
  | added (result : AddProductResult)
  | found (result : GetProductResult)
  | notFound
  | deleted
  deriving DecidableEq, Repr

namespace ProductCatalogResource

/-- The answer with the key of the new product.
SRC: example/api/ProductCatalogResource.java:45-48. -/
def addProduct (A : CatalogApplication) (randomUUID : String) (currentTimeMillis : ℤ)
    (request : AddProductRequest) : Handler CatalogResponse := do
  let addProductResult ← ProductCatalogService.addProduct A randomUUID currentTimeMillis request
  pure (.added addProductResult)

/-- The answer with the product, or that there is none.
SRC: example/api/ProductCatalogResource.java:58-66. -/
def getProduct (A : CatalogApplication) (id : String) : Handler CatalogResponse := do
  match ← ProductCatalogService.getProduct A id with
  | some product => pure (.found product)
  | none => pure .notFound

/-- The answer to a deletion, of whatever there was.
SRC: example/api/ProductCatalogResource.java:76-79. -/
def deleteProduct (A : CatalogApplication) (id : String) : Handler CatalogResponse := do
  ProductCatalogService.deleteProduct A id
  pure .deleted

end ProductCatalogResource

namespace CatalogApplication

/-- The handler of a request. -/
def handle (A : CatalogApplication) : CatalogRequest → Handler CatalogResponse
  | .addProduct randomUUID currentTimeMillis request =>
    ProductCatalogResource.addProduct A randomUUID currentTimeMillis request
  | .getProduct id => ProductCatalogResource.getProduct A id
  | .deleteProduct id => ProductCatalogResource.deleteProduct A id

end CatalogApplication

/-- The key of the product that the request is about. -/
def CatalogRequest.productId : CatalogRequest → String
  | addProduct randomUUID currentTimeMillis request =>
    (ProductCatalogService.newProduct randomUUID currentTimeMillis request).id
  | getProduct id => id
  | deleteProduct id => id

/-- The product that the request adds. -/
def CatalogRequest.newProduct : CatalogRequest → Option Product
  | addProduct randomUUID currentTimeMillis request =>
    some (ProductCatalogService.newProduct randomUUID currentTimeMillis request)
  | _ => none

/-- A request that adds a product is about that product. -/
theorem CatalogRequest.productId_of_newProduct {r : CatalogRequest} {p : Product}
    (h : r.newProduct = some p) : r.productId = p.id := by
  cases r with
  | addProduct => exact congrArg Product.id (Option.some.inj h)
  | getProduct => cases h
  | deleteProduct => cases h

/-- The requests of the application, with the products stored and the notifications sent. -/
abbrev CatalogPool : Type :=
  Pool CatalogStore CatalogRequest CatalogCall CatalogCall.Response Throwable CatalogResponse

namespace CatalogApplication

/-- A request that can arrive: any, but a random UUID is one that nobody has used. -/
def Admits (P : CatalogPool) : CatalogRequest → Prop
  | .addProduct randomUUID currentTimeMillis request =>
    let id := (ProductCatalogService.newProduct randomUUID currentTimeMillis request).id
    (∀ i r c, P.Entry i r c → r.productId ≠ id) ∧
      ∀ t ∈ P.store.products :: P.store.earlier, t.item id = none
  | .getProduct _ => True
  | .deleteProduct _ => True

/-- The application among its services.  What an AWS client throws is unchecked, and so no
`JsonProcessingException`. -/
def site (A : CatalogApplication) : Site CatalogStore CatalogRequest CatalogCall
    CatalogCall.Response Throwable CatalogResponse where
  handle := A.handle
  Performs := CatalogCall.Performs
  Fails := fun e => A.notifier.catchesProcessing e = false
  Admits := Admits

end CatalogApplication

end GradleLocalstack.Program
