import BlobDepot.FileName
import BlobDepot.IoFault
import BlobDepot.Object

/-!
# Folders

A folder holds files, links, devices and folders, each under a name, in increasing order of names. A
path leads through folders and along links to a place, and a place is the list of the names on the
straight way to it from the root.
-/
namespace BlobDepot

/-- What stands under a name and is no folder. -/
inductive Leaf where
  | file (blob : Blob)
  /-- Stands for the place that a path leads to. -/
  | link (path : List FileName)
  /-- Takes what is written to it, and holds nothing. -/
  | device
  deriving DecidableEq, Repr, Inhabited

/-- What a folder holds, an item at a time. Its names may be kept from those who read it, for some
fault, while whoever knows one finds what it stands for. -/
inductive Folder where
  | nil (fault : Option IoFault)
  | leaf (name : FileName) (leaf : Leaf) (rest : Folder)
  | folder (name : FileName) (inside rest : Folder)
  deriving Inhabited

inductive Item where
  | leaf (leaf : Leaf)
  | folder (inside : Folder)

/-- What a walk through a folder meets. -/
inductive Sight where
  | file (names : List FileName) (blob : Blob)
  /-- A folder, which it goes on to read unless there is a fault. -/
  | folder (names : List FileName) (fault : Option IoFault)

def Sight.below (name : FileName) : Sight → Sight
  | file names blob => file (name :: names) blob
  | folder names fault => folder (name :: names) fault

namespace Folder

@[match_pattern]
abbrev empty : Folder := nil none

def cons (name : FileName) : Item → Folder → Folder
  | .leaf l, rest => leaf name l rest
  | .folder inside, rest => folder name inside rest

def fault : Folder → Option IoFault
  | nil fault => fault
  | leaf _ _ rest => fault rest
  | folder _ _ rest => fault rest

def find? (name : FileName) : Folder → Option Item
  | nil _ => none
  | leaf n l rest => if n = name then some (.leaf l) else find? name rest
  | folder n inside rest => if n = name then some (.folder inside) else find? name rest

def put (name : FileName) (item : Item) : Folder → Folder
  | nil fault => cons name item (nil fault)
  | leaf n l rest =>
    if name < n then cons name item (leaf n l rest)
    else if name = n then cons name item rest
    else leaf n l (put name item rest)
  | folder n inside rest =>
    if name < n then cons name item (folder n inside rest)
    else if name = n then cons name item rest
    else folder n inside (put name item rest)

def erase (name : FileName) : Folder → Folder
  | nil fault => nil fault
  | leaf n l rest => if n = name then rest else leaf n l (erase name rest)
  | folder n inside rest => if n = name then rest else folder n inside (erase name rest)

/-- What a walk meets below a folder, folder by folder in order of names. Links and devices are
passed over. -/
def sights : Folder → List Sight
  | nil _ => []
  | leaf n (.file blob) rest => .file [n] blob :: sights rest
  | leaf _ _ rest => sights rest
  | folder n inside rest =>
    (.folder [] inside.fault :: sights inside).map (Sight.below n) ++ sights rest

/-! ## Places -/

def at? : List FileName → Folder → Option Item
  | [], f => some (.folder f)
  | name :: names, f =>
    match f.find? name with
    | some (.folder inside) => at? names inside
    | found => if names = [] then found else none

/-- Puts an item at a place, making the folders on the way. Fails where something else than a
folder is in the way. -/
def putAt (item : Item) : List FileName → Folder → Option Folder
  | [], _ => none
  | [name], f => some (f.put name item)
  | name :: names, f =>
    match f.find? name with
    | none => (putAt item names empty).map fun inside => f.put name (.folder inside)
    | some (.folder inside) =>
      (putAt item names inside).map fun inside => f.put name (.folder inside)
    | some _ => none

def eraseAt : List FileName → Folder → Folder
  | [], f => f
  | [name], f => f.erase name
  | name :: names, f =>
    match f.find? name with
    | some (.folder inside) => f.put name (.folder (eraseAt names inside))
    | _ => f

/-! ## Paths -/

def maxLinks : Nat := 40

def maxName : Nat := 255

def maxPath : Nat := 4096

def checkPath (path : List UInt8) : Except IoFault Unit :=
  if path.contains 0 then .error .zeroInName
  else if maxPath ≤ path.length then .error .nameTooLong
  else .ok ()

/-- Where a path starts: at the root, if there is a slash in front of it, or else at a place. -/
def startOf (place : List FileName) : (path : List FileName) → List FileName
  | [] | [_] => place
  | name :: _ => if name = "" then [] else place

/-- The place a path leads to from a place; `fresh` when the last name may be new. `follow` goes on
where a link stands, from the place its path starts at and along that path and the rest. -/
def walk (root : Folder) (fresh : Bool)
    (follow : List FileName → List FileName → Except IoFault (List FileName)) :
    List FileName → List FileName → Except IoFault (List FileName)
  | place, [] => .ok place
  | place, name :: path =>
    match root.at? place with
    | some (.folder here) =>
      if name = "" ∨ name = "." then walk root fresh follow place path
      else if name = ".." then walk root fresh follow place.dropLast path
      else if maxName < name.bytes.length then .error .nameTooLong
      else
        match here.find? name with
        | none => if fresh ∧ path = [] then .ok (place ++ [name]) else .error .noEntry
        | some (.leaf (.link target)) => follow (startOf place target) (target ++ path)
        | some _ => walk root fresh follow (place ++ [name]) path
    | _ => .error .notDirectory

/-- The place a path leads to from a place, along at most so many links. -/
def locate (root : Folder) (fresh : Bool) : Nat → List FileName → List FileName →
    Except IoFault (List FileName)
  | 0 => walk root fresh fun _ _ => .error .linkLoop
  | links + 1 => walk root fresh (locate root fresh links)

def lookup (root : Folder) (place path : List FileName) : Except IoFault Item := do
  match root.at? (← locate root false maxLinks place path) with
  | some item => pure item
  | none => throw .noEntry

def folder? (root : Folder) (place path : List FileName) : Option Folder :=
  match root.lookup place path with
  | .ok (.folder inside) => some inside
  | _ => none

/-- The place of the last name of a path, in the folder that the rest of the path leads to. -/
def namePlace (root : Folder) (place path : List FileName) : List FileName :=
  match locate root false maxLinks place path.dropLast, path.getLast? with
  | .ok reached, some name => reached ++ [name]
  | _, _ => place ++ path

/-- The place that writing to a path reaches: where the path leads, or else that of its last
name. -/
def writePlace (root : Folder) (place path : List FileName) : List FileName :=
  match locate root true maxLinks place path with
  | .ok reached => reached
  | .error _ => root.namePlace place path

/-- Makes a folder at a path, and those on the way, unless they are there. -/
def makeFolders (root : Folder) (place path : List FileName) : Folder :=
  ((List.range path.length).map fun n => path.take (n + 1)).foldl
    (fun root path =>
      if (root.folder? place path).isSome then root
      else (putAt (.folder empty) (root.namePlace place path) root).getD root) root

/-- Writes a file at a path, along links that stand in its place. A device stays. -/
def write (root : Folder) (place path : List FileName) (blob : Blob) : Folder :=
  let reached := root.writePlace place path
  match root.at? reached with
  | some (.leaf .device) => root
  | _ => (putAt (.leaf (.file blob)) reached root).getD root

end Folder
end BlobDepot
