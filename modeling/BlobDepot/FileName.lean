import BlobDepot.Path
import BlobDepot.Text.Utf8

/-!
# File names

The name of a file is made of bytes, which need not be those of a text. It is shown with a
replacement for what is none, so that two names may look alike.
-/
namespace BlobDepot

structure FileName where
  bytes : List UInt8
  deriving DecidableEq, Repr, Inhabited

namespace FileName

def ofText (s : String) : FileName :=
  ⟨Text.bytes s⟩

instance : Coe String FileName :=
  ⟨ofText⟩

/-- A name as it is shown. -/
def text (n : FileName) : String :=
  Text.Utf8.decode n.bytes

instance : LT FileName :=
  ⟨fun a b => a.bytes < b.bytes⟩

instance (a b : FileName) : Decidable (a < b) :=
  inferInstanceAs (Decidable (a.bytes < b.bytes))

end FileName

namespace Path

def names (path : String) : List FileName :=
  (segments path).map FileName.ofText

/-- The path of some names, each as it is shown. -/
def ofNames (names : List FileName) : String :=
  ofSegments (names.map FileName.text)

end Path
end BlobDepot
