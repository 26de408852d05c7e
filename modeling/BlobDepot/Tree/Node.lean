import BlobDepot.Store.Basic
import BlobDepot.Tree.Error
import BlobDepot.Tree.FrameStack

/-!
# Nodes

A node is a key of a tree. What its key stands for is found out at the first question that needs
it, from the innermost frame that covers the key or else from the store, and then stays known.
-/
namespace BlobDepot

/-- A key of a tree, and what it stands for once that is known. -/
structure Node where
  key : Key
  known : Option Attributes := none
  deriving DecidableEq, Repr, Inhabited

abbrev Query (σ α : Type) := StateM σ (Except TreeError α)

namespace Node

variable {σ α : Type}

def name (n : Node) : String :=
  n.key.name

def parent (n : Node) : Node :=
  { key := n.key.parent }

def child (n : Node) (step : String) : Node :=
  { key := n.key.child step }

def describe (provider : String) (n : Node) : String :=
  "VirtualNode \x7b provider: " ++ Text.Quoted.quote provider ++ ", key: " ++ n.key.describe
    ++ ", kind: " ++ (n.known.elim "None" fun a => "Some(" ++ a.kind.name ++ ")") ++ " \x7d"

def failure (n : Node) (e : StoreError) : TreeError :=
  .ofStore n.key.render e

def answer (n : Node) (r : Except StoreError α) : Except TreeError α :=
  r.mapError n.failure

/-! ## Attributes -/

def infoOf (m : Metadata) : FileInfo :=
  ⟨m.size, m.modified⟩

/-- Asks the store for the object at a node. There is none at the root of a container. -/
def findObject [Store σ] (n : Node) : Call σ (Option FileInfo) := fun s =>
  if n.key.isRoot then (.ok none, s)
  else
    let (found, s) := Store.metadata n.key.container n.key.path s
    (found.map (Option.map infoOf), s)

/-- What a node stands for when the store answers so: an object is a file, and then objects below
make a directory. -/
def attributesOf (found : Option FileInfo) (below : Bool) : Attributes :=
  match found with
  | some info => .file info
  | none => if below then .directory else .missing

/-- Finds out what a node stands for. The store is asked for the object and for objects below it,
both always; a failure of the first counts before the second. -/
def resolve [Store σ] (frames : FrameStack) (n : Node) : Query σ Attributes := fun s =>
  match frames.lookup n.key with
  | some (f, path) => (.ok (f.attributes path), s)
  | none =>
    let (found, s) := n.findObject s
    let (below, s) := Store.anyUnder n.key.container n.key.lead s
    let result := match found, below with
      | .error e, _ => .error (n.failure e)
      | .ok (some info), _ => .ok (.file info)
      | .ok none, .error e => .error (n.failure e)
      | .ok none, .ok below => .ok (attributesOf none below)
    (result, s)

/-- What a node stands for, and the node that knows it. A failure leaves it unknown. -/
def attributes [Store σ] (frames : FrameStack) (n : Node) (s : σ) :
    Except TreeError Attributes × Node × σ :=
  match n.known with
  | some a => (.ok a, n, s)
  | none =>
    match n.resolve frames s with
    | (.ok a, s) => (.ok a, { n with known := some a }, s)
    | (.error e, s) => (.error e, n, s)

def tell [Store σ] (of : Attributes → α) (frames : FrameStack) (n : Node) (s : σ) :
    Except TreeError α × Node × σ :=
  let (a, n, s) := n.attributes frames s
  (a.map of, n, s)

section Questions

variable [Store σ]

def kind : FrameStack → Node → σ → Except TreeError Kind × Node × σ :=
  tell Attributes.kind

def isFile : FrameStack → Node → σ → Except TreeError Bool × Node × σ :=
  tell Attributes.isFile

def isDirectory : FrameStack → Node → σ → Except TreeError Bool × Node × σ :=
  tell Attributes.isDirectory

def isThere : FrameStack → Node → σ → Except TreeError Bool × Node × σ :=
  tell Attributes.isThere

def size : FrameStack → Node → σ → Except TreeError Nat × Node × σ :=
  tell Attributes.size

def modified : FrameStack → Node → σ → Except TreeError Int × Node × σ :=
  tell Attributes.modified

end Questions

/-! ## Listing -/

def addChild (start : String) (found : Catalog Attributes) (e : Entry) : Catalog Attributes :=
  match Text.after? start e.key with
  | none => found
  | some rest =>
    let name := Path.trimEnd rest
    if name = "" || Path.hasSlash name then found
    else
      match e.size with
      | some size => found.insert name (.file ⟨size, e.modified⟩)
      | none => found.insertNew name .directory

/-- The children of a node in increasing order of names. Those that come from a listing are
known by it. -/
def children [Store σ] (frames : FrameStack) (n : Node) : Query σ (List Node) := fun s =>
  match frames.lookup n.key with
  | some (f, path) => (.ok ((f.children path).map n.child), s)
  | none =>
    let start := n.key.lead
    let (entries, s) := Store.list n.key.container start false s
    let nodes := entries.map fun entries =>
      (entries.foldl (addChild start) .empty).entries.map fun (step, a) =>
        { key := n.key.child step, known := some a : Node }
    (n.answer nodes, s)

def pathsBelow (start : String) (entries : List Entry) : List String :=
  ((entries.filter fun e => !e.isRolled).filterMap fun e => Text.after? start e.key).filter
    fun path => path ≠ ""

/-- The paths of all files below a node, in increasing order. -/
def files [Store σ] (frames : FrameStack) (n : Node) : Query σ (List String) := fun s =>
  match frames.lookup n.key with
  | some (f, path) => (.ok ((f.filesBelow path).map Prod.fst), s)
  | none =>
    let start := n.key.lead
    let (entries, s) := Store.list n.key.container start true s
    (n.answer (entries.map fun entries => (pathsBelow start entries).mergeSort (· ≤ ·)), s)

/-- The paths of the files below a node that a filter lets through. The patterns are read before
anything is listed. -/
def glob [Store σ] (engine : Glob.Engine) (frames : FrameStack) (n : Node)
    (includes excludes : List String) : Query σ (List String) := fun s =>
  match Glob.Filter.ofPatterns engine includes excludes with
  | .error r => (.error (.invalidPattern r), s)
  | .ok filter =>
    let (paths, s) := n.files frames s
    (paths.map fun paths => paths.filter filter.lets, s)

/-! ## Content -/

def openFile [Store σ] (frames : FrameStack) (n : Node) (s : σ) :
    Except TreeError Content × Node × σ :=
  match n.attributes frames s with
  | (.error e, n, s) => (.error e, n, s)
  | (.ok (.file _), n, s) =>
    let (content, s) := Store.read n.key.container n.key.path s
    (n.answer content, n, s)
  | (.ok .directory, n, s) => (.error (.isDirectory n.key.render), n, s)
  | (.ok .missing, n, s) => (.error (.notFound n.key.render), n, s)

/-- A URL that gives read access to the file at a node for a while. -/
def url [Store σ] (frames : FrameStack) (n : Node) (ttl : Span) (s : σ) :
    Except TreeError Url × Node × σ :=
  match n.attributes frames s with
  | (.error e, n, s) => (.error e, n, s)
  | (.ok (.file _), n, s) =>
    let (url, s) := Store.presign n.key.container n.key.path .get ttl s
    (n.answer url, n, s)
  | (.ok _, n, s) => (.error (.notFile n.key.render), n, s)

/-! ## Scopes -/

/-- Takes the frame of a node: the object at it, unless it is the root of a container, and a
listing of all below it. Both are asked for; a failure of the listing counts first. -/
def frame [Store σ] (n : Node) : Query σ Frame := fun s =>
  let (found, s) := n.findObject s
  let (entries, s) := Store.list n.key.container n.key.lead true s
  let result := match entries, found with
    | .error e, _ => .error (n.failure e)
    | .ok _, .error e => .error (n.failure e)
    | .ok entries, .ok found => .ok (.ofListing n.key found entries)
  (result, s)

/-- Opens a scope on a node. A failure opens none. -/
def enter [Store σ] (frames : FrameStack) (n : Node) (s : σ) :
    Except TreeError Nat × FrameStack × σ :=
  match n.frame s with
  | (.error e, s) => (.error e, frames, s)
  | (.ok f, s) => (.ok frames.ticket, frames.push f, s)

end Node
end BlobDepot
