import BlobDepot.Folder
import BlobDepot.Store.Basic
import BlobDepot.Url.Segments

/-!
# Stores in a directory

A store that keeps each container as a folder of one directory and each object as a file in it.
The segments of a key that are not empty name the way to the file. A key may not lead up, but links
in the directory may.
-/
namespace BlobDepot

/-- A store in a directory: the absolute path of the directory, the disk it is on, and its place on
the disk. -/
structure DirectoryStore where
  id : String := "local"
  root : String
  disk : Folder := .empty
  home : List FileName := []

namespace DirectoryStore

/-- The store in the directory at a path, which must be absolute. -/
def at? (root : String) : Except StoreError DirectoryStore :=
  if Text.startsWith "/" root then .ok { root }
  else .error (.invalidConfig ("LocalDirBlobStore root must be absolute: " ++ root))

/-! ## Places -/

def steps (key : String) : List FileName :=
  (Path.names key).filter fun n => n ≠ ""

def leadsUp (key : String) : Bool :=
  (Path.segments key).contains ".."

def isContainerName (container : String) : Bool :=
  container ≠ "" && !Path.hasSlash container && container ≠ ".."

def pathBytes (s : DirectoryStore) (names : List FileName) : List UInt8 :=
  names.foldl (fun path name =>
    if path.getLast? = some 0x2F then path ++ name.bytes else path ++ 0x2F :: name.bytes)
    (Text.bytes s.root)

def pathText (s : DirectoryStore) (names : List FileName) : String :=
  Text.Utf8.decode (s.pathBytes names)

def itemAt (s : DirectoryStore) (names : List FileName) : Except IoFault Item := do
  Folder.checkPath (s.pathBytes names)
  s.disk.lookup s.home names

def folderAt? (s : DirectoryStore) (names : List FileName) : Option Folder :=
  match s.itemAt names with
  | .ok (.folder inside) => some inside
  | _ => none

def checkContainer (s : DirectoryStore) (container : String) : Except StoreError Unit :=
  if !isContainerName container then
    .error (.invalidConfig ("Invalid container name: " ++ Text.Quoted.quote container))
  else if (s.folderAt? [container]).isNone then .error (.containerNotFound container)
  else .ok ()

/-- The place of an object: its container and the steps of its key. -/
def place (s : DirectoryStore) (container key : String) :
    Except StoreError (List FileName) := do
  if leadsUp key then
    throw (.accessDenied container key "key escapes the container directory")
  s.checkContainer container
  pure (container :: steps key)

def failure (s : DirectoryStore) (container key : String) (names : List FileName)
    (fault : IoFault) : StoreError :=
  if fault = .noEntry then .notFound container key
  else if fault.isDenial then .accessDenied container key fault.message
  else .ofFault (s.pathText names) fault

/-! ## Listing -/

/-- The second of a last change, if it is not before the first. -/
def shownTime (modified : Int) : Option Int :=
  if modified < 0 then none else some modified

def entry (names : List FileName) (blob : Blob) : Entry :=
  .object (Path.ofNames names) blob.data.length (shownTime blob.modified)

/-- The names on the way from the folder of a container to a place. -/
def within (names : List FileName) : List FileName :=
  names.tail.filter fun n => n ≠ "."

/-- The fault of going to a place where something is met, for it may have one of its own. -/
def faultAt (s : DirectoryStore) (names : List FileName) (own : Option IoFault) :
    Option IoFault :=
  match Folder.checkPath (s.pathBytes names) with
  | .ok _ => own
  | .error fault => some fault

def faultText (s : DirectoryStore) (names : List FileName) (fault : IoFault) : String :=
  "IO error for operation on " ++ s.pathText names ++ ": " ++ fault.message

/-- The failure of a walk that begins at a place and meets a folder that cannot be read. -/
def walkFailure (s : DirectoryStore) (container start : String) (names below : List FileName)
    (fault : IoFault) : StoreError :=
  let reason := s.faultText (names ++ below) fault
  if fault.isDenial then .accessDenied container start reason else .io (s.pathText names) reason

/-- The entries of the files that a walk meets, so many at most, whose keys start with a text. The
walk begins at a place and fails at the first folder that it cannot read, and at the first such file
that it cannot look at. -/
def collect (s : DirectoryStore) (container start : String) (names : List FileName) :
    Option Nat → List Sight → Except StoreError (List Entry)
  | _, [] => .ok []
  | limit, .folder below fault :: sights =>
    match s.faultAt (names ++ below) fault with
    | some fault => .error (s.walkFailure container start names below fault)
    | none => collect s container start names limit sights
  | limit, .file below blob :: sights =>
    let e := entry (within names ++ below) blob
    if !Text.startsWith start e.key then collect s container start names limit sights
    else
      match s.faultAt (names ++ below) none with
      | some fault =>
        .error (.io (s.pathText (names ++ below)) (s.faultText (names ++ below) fault))
      | none =>
        if limit.any (· ≤ 1) then .ok [e]
        else (collect s container start names (limit.map (· - 1)) sights).map (e :: ·)

/-- The files below the deepest folder that a text fully names, so many at most, less those whose
keys do not start with the text. -/
def walk (s : DirectoryStore) (container start : String) (limit : Option Nat) :
    Except StoreError (List Entry) := do
  s.checkContainer container
  let names ← s.place container (Path.parent start)
  match s.folderAt? names with
  | none => pure []
  | some inside => s.collect container start names limit (.folder [] inside.fault :: inside.sights)

/-- The objects whose keys start with a text, in order of keys. -/
def entries (s : DirectoryStore) (container start : String) (recursive : Bool) :
    Except StoreError (List Entry) := do
  let found := (← s.walk container start none).mergeSort fun a b => a.key ≤ b.key
  pure (if recursive then found else Listing.rollUp start found)

/-! ## Objects -/

/-- What is known of an object. Folders and devices are no objects. -/
def metadataOf (s : DirectoryStore) (container key : String) :
    Except StoreError (Option Metadata) := do
  let names ← s.place container key
  match s.itemAt names with
  | .ok (.leaf (.file blob)) =>
    pure (some { size := blob.data.length, modified := shownTime blob.modified })
  | .ok _ => pure none
  | .error fault =>
    if fault = .noEntry then pure none else throw (s.failure container key names fault)

/-- Opens an object. A folder opens as well but cannot be read, and a device holds nothing. -/
def contentOf (s : DirectoryStore) (container key : String) : Except StoreError Content := do
  let names ← s.place container key
  match s.itemAt names with
  | .ok (.leaf (.file blob)) => pure (.bytes blob.data)
  | .ok (.leaf _) => pure (.bytes [])
  | .ok (.folder _) => pure (.unreadable .isDirectory)
  | .error fault => throw (s.failure container key names fault)

/-- The URL of a place: each name on the way is a segment, less those that stay where they are. -/
def url (s : DirectoryStore) (names : List FileName) : Url where
  scheme := "file"
  authority := some { host := "" }
  path :=
    let shown := (Path.segmentChars (s.pathText names).toList).filter fun n =>
      n ≠ [] && n ≠ ['.']
    String.ofList (Url.Segments.render (shown.map (Text.Percent.encode Text.Percent.fileSegment)))

instance : Store DirectoryStore where
  providerId := id
  list container start recursive := fun s => (s.entries container start recursive, s)
  anyUnder container start := fun s =>
    ((s.walk container start (some 1)).map fun found => !found.isEmpty, s)
  metadata container key := fun s => (s.metadataOf container key, s)
  read container key := fun s => (s.contentOf container key, s)
  presign container key _ _ := fun s => ((s.place container key).map s.url, s)

/-! ## Changes -/

def way (container key : String) : List FileName :=
  steps container ++ steps key

def addContainer (s : DirectoryStore) (container : String) : DirectoryStore :=
  { s with disk := s.disk.makeFolders s.home (steps container) }

def withFolders (s : DirectoryStore) (container key : String) : DirectoryStore :=
  { s with disk := s.disk.makeFolders s.home (way container key).dropLast }

/-- Writes an object, along links that stand in its place. -/
def put (s : DirectoryStore) (container key : String) (blob : Blob) : DirectoryStore :=
  let s := s.withFolders container key
  { s with disk := s.disk.write s.home (way container key) blob }

def namePlace (s : DirectoryStore) (container key : String) : List FileName :=
  s.disk.namePlace s.home (way container key)

def link (s : DirectoryStore) (container key target : String) : DirectoryStore :=
  let s := s.withFolders container key
  { s with
    disk :=
      (Folder.putAt (.leaf (.link (Path.names target))) (s.namePlace container key) s.disk).getD
        s.disk }

def holds (s : DirectoryStore) (container key : String) : Bool :=
  match Folder.at? (s.namePlace container key) s.disk with
  | some (.leaf _) => true
  | _ => false

def remove (s : DirectoryStore) (container key : String) : DirectoryStore :=
  if s.holds container key then
    { s with disk := Folder.eraseAt (s.namePlace container key) s.disk }
  else s

end DirectoryStore
end BlobDepot
