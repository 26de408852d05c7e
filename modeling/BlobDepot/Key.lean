import BlobDepot.Json
import BlobDepot.Path
import BlobDepot.Text.Quoted

/-!
# Keys

A key is the address of a blob: a container and a path in it. Keys that are made from a path
have no slash at either end of it; keys that are read from JSON are taken as they are.
-/
namespace BlobDepot

/-- The address of a blob. -/
structure Key where
  container : String
  path : String
  deriving DecidableEq, Repr, Inhabited

namespace Key

/-- The key of a path, less the slashes around it. -/
def ofPath (container path : String) : Key :=
  ⟨container, Path.trim path⟩

def root (container : String) : Key :=
  ⟨container, ""⟩

def isRoot (k : Key) : Bool :=
  k.path = ""

def name (k : Key) : String :=
  Path.name k.path

def parent (k : Key) : Key :=
  { k with path := Path.parent k.path }

def child (k : Key) (step : String) : Key :=
  { k with path := Path.child k.path step }

def lead (k : Key) : String :=
  Path.lead k.path

def render (k : Key) : String :=
  k.container ++ "/" ++ k.path

def describe (k : Key) : String :=
  "BlobKey \x7b container: " ++ Text.Quoted.quote k.container
    ++ ", path: " ++ Text.Quoted.quote k.path ++ " \x7d"

def le (a b : Key) : Bool :=
  a.container < b.container || (a.container = b.container && a.path ≤ b.path)

def sort (ks : List Key) : List Key :=
  ks.mergeSort le

def toJson (k : Key) : Json :=
  .object [(some "container".toList, .ofString k.container), (some "path".toList, .ofString k.path)]

/-- Reads a key: an object with both fields, or an array of the two texts. -/
def ofJson? : Json → Option Key
  | .object fields => do
    let fields ← Json.record? ["container", "path"] fields
    let container ← Json.lookup "container" fields
    let path ← Json.lookup "path" fields
    pure ⟨← container.string?, ← path.string?⟩
  | .array [container, path] => do
    pure ⟨← container.string?, ← path.string?⟩
  | _ => none

def parse? (s : String) : Option Key :=
  (Json.parse s).bind ofJson?

@[simp] theorem parent_root (container : String) : (root container).parent = root container := rfl

@[simp] theorem child_container (k : Key) (step : String) :
    (k.child step).container = k.container := rfl

theorem child_path (k : Key) (step : String) : (k.child step).path = k.lead ++ step :=
  Path.child_eq k.path step

end Key
end BlobDepot
