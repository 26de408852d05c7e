import BlobDepot.Folder

/-!
# Local files

What a transfer finds at a local path: bytes to send, room for bytes that arrive, or the reason why
it can neither read nor write there.
-/
namespace BlobDepot

inductive LocalFile where
  | absent
  | present (data : List UInt8)
  /-- Takes what is written to it, and holds nothing. -/
  | device
  /-- Opens, but cannot be read or written. -/
  | directory
  /-- Cannot be opened. -/
  | barred (reading writing : IoFault)
  deriving DecidableEq, Repr, Inhabited

namespace LocalFile

/-- The fault of a path that leads nowhere when a file is to be made there. A path that ends in a
slash can only mean a directory. -/
def makingFault (disk : Folder) (place names : List FileName) (fault : IoFault) : IoFault :=
  let trimmed := (names.reverse.dropWhile fun n : FileName => n = "").reverse
  if trimmed.length < names.length && (disk.folder? place trimmed.dropLast).isSome then .isDirectory
  else fault

def ofDisk (disk : Folder) (place : List FileName) (path : String) : LocalFile :=
  let names := Path.names path
  let place := Folder.startOf place names
  match Folder.checkPath (Text.bytes path) with
  | .error fault => barred fault fault
  | .ok _ =>
    match disk.lookup place names with
    | .ok (.folder _) => directory
    | .ok (.leaf (.file blob)) => present blob.data
    | .ok (.leaf _) => device
    | .error fault =>
      match disk.locate true Folder.maxLinks place names with
      | .ok _ => absent
      | .error making => barred fault (makingFault disk place names making)

def read : LocalFile → Except IoFault (List UInt8)
  | present data => .ok data
  | device => .ok []
  | absent => .error .noEntry
  | directory => .error .isDirectory
  | barred reading _ => .error reading

def opens : LocalFile → Except IoFault Unit
  | absent => .error .noEntry
  | barred reading _ => .error reading
  | _ => .ok ()

def write (f : LocalFile) (data : List UInt8) : Except IoFault LocalFile :=
  match f with
  | absent | present _ => .ok (present data)
  | device => .ok device
  | directory => .error .isDirectory
  | barred _ writing => .error writing

@[simp] theorem write_absent (data : List UInt8) : absent.write data = .ok (present data) := rfl

@[simp] theorem write_present (old data : List UInt8) :
    (present old).write data = .ok (present data) := rfl

end LocalFile
end BlobDepot
