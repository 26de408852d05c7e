import BlobDepot.Proofs.Store.Containers

/-!
# Spellings of keys in a directory

On the way to a file the segments of a key that are empty or `.` lead nowhere. So a store in a
directory tells of a file under other keys than the one it is listed with, and all of them are
spellings of that one. A file below a name that is no text is listed with what the name is shown as,
which leads elsewhere or nowhere.
-/
namespace BlobDepot.DirectoryStore

variable {s : DirectoryStore} {depot inside : Folder} {c key key' : String}
  {path place place' : List FileName} {b : Blob} {l : Leaf} {e : Entry} {found : List Entry}

section Plain

variable (h : ∀ n ∈ Path.segments key, n ≠ "" ∧ n ≠ ".")

include h

end Plain

section Below

variable (hinside : inside.Proper Folder.linkless)

include hinside

end Below

section Listed

variable (hinside : inside.Proper Folder.linkless) (hc : s.checkContainer c = .ok ())
  (hitem : s.itemAt [c] = .ok (.folder inside))

include hinside hc hitem

variable (htext : ∀ file ∈ inside.files, ∀ n ∈ file.1, n.IsText)
  (hlist : (Store.list c "" true s).1 = .ok found)

include htext hlist

end Listed

end BlobDepot.DirectoryStore
