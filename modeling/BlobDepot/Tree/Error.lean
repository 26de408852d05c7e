import BlobDepot.Glob.Filter
import BlobDepot.Store.Error

/-!
# Failures of trees

Why a question about a tree has no answer. A failure of the store below becomes one of the tree:
what the store refuses stays refused, what it does not find is missing, the rest is passed on.
-/
namespace BlobDepot

inductive TreeError where
  | notFound (path : String)
  | accessDenied (path reason : String)
  | isDirectory (path : String)
  | notFile (path : String)
  | invalidPattern (refusal : Glob.Refusal)
  | store (path : String) (cause : StoreError)
  deriving DecidableEq, Repr, Inhabited

namespace TreeError

/-- The failure at a path that a failure of the store causes. -/
def ofStore (path : String) (e : StoreError) : TreeError :=
  if e.isRefusal then .accessDenied path e.message
  else if e.isAbsence then .notFound path
  else .store path e

def message : TreeError → String
  | notFound path => "No such file or directory: " ++ path
  | accessDenied path reason => "Access denied to " ++ path ++ ": " ++ reason
  | isDirectory path => "Is a directory: " ++ path
  | notFile path => "Not a file: " ++ path
  | invalidPattern r => "Invalid glob pattern '" ++ r.pattern ++ "': " ++ r.reason
  | store path cause => "Storage error at " ++ path ++ ": " ++ cause.message

def kind : TreeError → String
  | notFound .. => "NotFound"
  | accessDenied .. => "AccessDenied"
  | isDirectory .. => "IsADirectory"
  | notFile .. => "NotAFile"
  | invalidPattern .. => "InvalidGlobPattern"
  | store .. => "Storage"

def isAbsence : TreeError → Bool
  | notFound .. => true
  | _ => false

def cause? : TreeError → Option StoreError
  | store _ cause => some cause
  | _ => none

end TreeError
end BlobDepot
