import BlobDepot.IoFault
import BlobDepot.Text.Quoted

/-!
# Failures of stores

Why a store could not answer. `StoreError.message` is the text for people and
`StoreError.describe` names every field.
-/
namespace BlobDepot

inductive StoreError where
  | notFound (container key : String)
  | containerNotFound (container : String)
  | accessDenied (container key reason : String)
  | network (reason : String) (retryable : Bool)
  | io (path reason : String)
  | unknownProvider (id : String)
  | duplicateProvider (id : String)
  | invalidConfig (reason : String)
  | other (reason : String)
  deriving DecidableEq, Repr, Inhabited

namespace StoreError

def message : StoreError → String
  | notFound container key => "Object not found: " ++ container ++ "/" ++ key
  | containerNotFound container => "Container not found: " ++ container
  | accessDenied container key reason =>
    "Access denied to " ++ container ++ "/" ++ key ++ ": " ++ reason
  | network reason _ => "Network error: " ++ reason
  | io path reason => "I/O error for " ++ path ++ ": " ++ reason
  | unknownProvider id => "Unknown blob store provider: " ++ id
  | duplicateProvider id => "Duplicate blob store provider: " ++ id
  | invalidConfig reason => "Invalid configuration: " ++ reason
  | other reason => reason

def kind : StoreError → String
  | notFound .. => "NotFound"
  | containerNotFound .. => "ContainerNotFound"
  | accessDenied .. => "AccessDenied"
  | network .. => "NetworkError"
  | io .. => "IoError"
  | unknownProvider .. => "UnknownProvider"
  | duplicateProvider .. => "DuplicateProvider"
  | invalidConfig .. => "InvalidConfig"
  | other .. => "Other"

def fields : StoreError → List (String × String)
  | notFound container key =>
    [("container", Text.Quoted.quote container), ("key", Text.Quoted.quote key)]
  | containerNotFound container => [("container", Text.Quoted.quote container)]
  | accessDenied container key reason =>
    [("container", Text.Quoted.quote container), ("key", Text.Quoted.quote key),
      ("message", Text.Quoted.quote reason)]
  | network reason retryable =>
    [("message", Text.Quoted.quote reason), ("retryable", toString retryable)]
  | io path reason => [("path", Text.Quoted.quote path), ("message", Text.Quoted.quote reason)]
  | unknownProvider id | duplicateProvider id => [("id", Text.Quoted.quote id)]
  | invalidConfig reason | other reason => [("message", Text.Quoted.quote reason)]

def describe (e : StoreError) : String :=
  e.kind ++ " \x7b "
    ++ ", ".intercalate (e.fields.map fun (name, value) => name ++ ": " ++ value) ++ " \x7d"

def mayPass : StoreError → Bool
  | network _ retryable => retryable
  | _ => false

def isAbsence : StoreError → Bool
  | notFound .. | containerNotFound .. => true
  | _ => false

def isRefusal : StoreError → Bool
  | accessDenied .. => true
  | _ => false

def ofFault (path : String) (fault : IoFault) : StoreError :=
  .io path fault.message

end StoreError
end BlobDepot
