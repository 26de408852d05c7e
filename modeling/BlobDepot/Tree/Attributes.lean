/-!
# Attributes

What a key of a tree stands for. An object makes it a file, objects below it alone make it a
directory, and without either it is missing.
-/
namespace BlobDepot

structure FileInfo where
  size : Nat
  modified : Option Int := none
  deriving DecidableEq, Repr, Inhabited

inductive Kind where
  | file
  | directory
  | missing
  deriving DecidableEq, Repr, Inhabited

def Kind.name : Kind → String
  | file => "File"
  | directory => "Directory"
  | missing => "Missing"

/-- What a key stands for, with what is known of a file. -/
inductive Attributes where
  | file (info : FileInfo)
  | directory
  | missing
  deriving DecidableEq, Repr, Inhabited

namespace Attributes

def kind : Attributes → Kind
  | file _ => .file
  | directory => .directory
  | missing => .missing

def isFile (a : Attributes) : Bool :=
  a.kind = .file

def isDirectory (a : Attributes) : Bool :=
  a.kind = .directory

def isThere (a : Attributes) : Bool :=
  a.kind ≠ .missing

/-- The size of a file; nothing else has one but zero. -/
def size : Attributes → Nat
  | file info => info.size
  | _ => 0

/-- The second of a file's last change, zero if it is not known. -/
def modified : Attributes → Int
  | file info => info.modified.getD 0
  | _ => 0

@[simp] theorem size_file (info : FileInfo) : (file info).size = info.size := rfl

@[simp] theorem modified_file (info : FileInfo) :
    (file info).modified = info.modified.getD 0 := rfl

end Attributes
end BlobDepot
