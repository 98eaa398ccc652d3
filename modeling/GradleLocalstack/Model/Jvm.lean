import Mathlib.Logic.Relation
import GradleLocalstack.Foundation.Service

/-!
# Java throwables

A throwable carries its class, its message and, possibly, its cause.  Of a class the
plugin's code looks at the name (`Class.equals`) and at whether `catch (Exception e)`
catches it; which class extends which is a `ClassHierarchy` beside it.  The classes named
below are those the plugin throws, declares as expected or catches by name; a service may
throw any other.
-/

set_option autoImplicit false

namespace GradleLocalstack.Model

open Foundation

/-- A class of throwables: its name, and whether it descends from
`java.lang.Exception`. -/
structure JavaClass where
  name : String
  isException : Bool
  deriving DecidableEq, Repr

namespace JavaClass

/-- `RuntimeException`. -/
def runtimeException : JavaClass := ⟨"java.lang.RuntimeException", true⟩

/-- `IllegalArgumentException`. -/
def illegalArgumentException : JavaClass := ⟨"java.lang.IllegalArgumentException", true⟩

/-- `NullPointerException`. -/
def nullPointerException : JavaClass := ⟨"java.lang.NullPointerException", true⟩

/-- `ClassNotFoundException`. -/
def classNotFoundException : JavaClass := ⟨"java.lang.ClassNotFoundException", true⟩

/-- `NoSuchMethodException`. -/
def noSuchMethodException : JavaClass := ⟨"java.lang.NoSuchMethodException", true⟩

/-- Gradle's `GradleException`. -/
def gradleException : JavaClass := ⟨"org.gradle.api.GradleException", true⟩

/-- `FileExistsException` of commons-io. -/
def fileExistsException : JavaClass := ⟨"org.apache.commons.io.FileExistsException", true⟩

/-- Jackson's `JsonProcessingException`. -/
def jsonProcessingException : JavaClass :=
  ⟨"com.fasterxml.jackson.core.JsonProcessingException", true⟩

/-- `IOException`. -/
def ioException : JavaClass := ⟨"java.io.IOException", true⟩

/-- `FileNotFoundException`. -/
def fileNotFoundException : JavaClass := ⟨"java.io.FileNotFoundException", true⟩

end JavaClass

/-- A throwable, with or without a cause; an `AmazonServiceException` has the status code
that the service answered with. -/
inductive Throwable where
  | plain (cls : JavaClass) (message : Option String)
  | causedBy (cls : JavaClass) (message : Option String) (cause : Throwable)
  | service (cls : JavaClass) (message : Option String) (statusCode : ℕ)
  deriving DecidableEq, Repr

namespace Throwable

/-- `getClass`. -/
def getClass : Throwable → JavaClass
  | plain cls _ => cls
  | causedBy cls _ _ => cls
  | service cls _ _ => cls

/-- `getMessage`; `null` is `none`. -/
def getMessage : Throwable → Option String
  | plain _ message => message
  | causedBy _ message _ => message
  | service _ message _ => message

/-- `getCause`; `null` is `none`. -/
def getCause : Throwable → Option Throwable
  | plain _ _ => none
  | causedBy _ _ cause => some cause
  | service _ _ _ => none

/-- `AmazonServiceException.getStatusCode`. -/
def getStatusCode : Throwable → Option ℕ
  | service _ _ statusCode => some statusCode
  | _ => none

/-- `Throwable.toString`: the class name, and the message if there is one. -/
def toString (t : Throwable) : String :=
  match t.getMessage with
  | none => t.getClass.name
  | some message => t.getClass.name ++ ": " ++ message

/-- `catch (Exception e)` catches the throwable. -/
def isException (t : Throwable) : Bool := t.getClass.isException

end Throwable

/-- The superclass of each class of throwables, where it has one. -/
structure ClassHierarchy where
  superclass : JavaClass → Option JavaClass

namespace ClassHierarchy

/-- `c` is `d` or one of its subclasses. -/
def IsSubclass (H : ClassHierarchy) : JavaClass → JavaClass → Prop :=
  Relation.ReflTransGen fun c d => H.superclass c = some d

/-- The throwable is an instance of one of the classes. -/
def IsInstance (H : ClassHierarchy) (classes : List JavaClass) (t : Throwable) : Prop :=
  ∃ c ∈ classes, H.IsSubclass t.getClass c

end ClassHierarchy

/-- `ObjectMapper`, for the values of one class: what it writes, it reads back. -/
structure ObjectMapper (α : Type) where
  writeValueAsString : α → Except Throwable String
  readValue : String → Option α
  readValue_write : ∀ a text, writeValueAsString a = .ok text → readValue text = some a

/-- What `%s` prints for a string that may be `null`. -/
def nullable : Option String → String
  | none => "null"
  | some s => s

/-- The exceptions that `catch (Exception e)` catches. -/
def JavaException : Type := { t : Throwable // t.isException = true }

end GradleLocalstack.Model
