import BlobDepot.Proofs.Folder.Paths
import BlobDepot.Store.Directory

/-!
# Layouts of objects in a directory

A directory holds the objects of a container when the files below its folder are those that the
segments of their keys lead to. Such a container has no links of its own, though a link may lead to
it, and every place in it can be named by a path.
-/
namespace BlobDepot

/-- The bytes of the file that the segments of a key lead to. -/
def Folder.dataAt (f : Folder) (key : String) : Option (List UInt8) :=
  match f.at? (Path.names key) with
  | some (.leaf (.file blob)) => some blob.data
  | _ => none

theorem Folder.dataAt_eq_some_iff {f : Folder} {key : String} {data : List UInt8} :
    f.dataAt key = some data ↔
      ∃ b, f.at? (Path.names key) = some (.leaf (.file b)) ∧ b.data = data := by
  rw [dataAt]
  split
  · rename_i blob hat
    simp [hat]
  · rename_i hnot
    simp only [reduceCtorEq, false_iff, not_exists, not_and]
    exact fun b hat => absurd hat (hnot b)

namespace DirectoryStore

/-- The container is there, and these are its objects: each is in the file that the segments of its
key lead to, whenever it was changed last, and there are no other files. -/
structure Holds (s : DirectoryStore) (container : String) (inside : Folder)
    (objects : Catalog Blob) : Prop where
  isName : isContainerName container = true
  found : s.folderAt? [container] = some inside
  plain : inside.Plain
  data : ∀ key, inside.dataAt key = (objects.get? key).map Blob.data
  fits : ∀ path, (inside.at? path).isSome →
    Folder.checkPath (s.pathBytes (container :: path)) = .ok ()

variable {s : DirectoryStore} {container key : String} {inside : Folder} {objects : Catalog Blob}
  {path names : List FileName} {item : Item} {b : Blob} {data : List UInt8}

/-! ## Steps -/

theorem not_mem_steps_empty (key : String) : ("" : FileName) ∉ steps key := by
  simp [steps]

theorem leadsUp_eq_false_iff : leadsUp key = false ↔ (".." : FileName) ∉ Path.names key := by
  rw [Path.ofText_mem_names_iff, leadsUp]
  simp

theorem not_mem_steps_up (h : leadsUp key = false) : (".." : FileName) ∉ steps key :=
  fun hmem => leadsUp_eq_false_iff.1 h (List.mem_filter.1 hmem).1

theorem filter_steps (key : String) :
    ((steps key).filter fun n : FileName => n ≠ ".") = Folder.moves (steps key) := by
  refine List.filter_congr fun n hn => ?_
  have hne : n ≠ "" := fun heq => not_mem_steps_empty key (heq ▸ hn)
  simp [hne]

theorem steps_eq_names (h : ("" : FileName) ∉ Path.names key) : steps key = Path.names key := by
  refine List.filter_eq_self.2 fun n hn => ?_
  rw [decide_eq_true_eq]
  rintro rfl
  exact h hn

/-- The folder that a text fully names is on the way to every key that starts with the text. -/
theorem exists_names_eq_steps_parent {start : String} (h : Text.startsWith start key = true)
    (hempty : ("" : FileName) ∉ Path.names key) :
    ∃ more, more ≠ [] ∧ Path.names key = steps (Path.parent start) ++ more := by
  obtain ⟨rest, rfl⟩ := Text.startsWith_iff.1 h
  rcases Path.parent_cases start with ⟨-, hparent⟩ | ⟨before, after, -, hstart, hparent⟩
  · refine ⟨Path.names (start ++ rest), Path.names_ne_nil _, ?_⟩
    rw [hparent]
    rfl
  · have hnames : Path.names (start ++ rest) =
        Path.names before ++ Path.names (after ++ rest) := by
      rw [hstart, String.append_assoc, Path.names_append_slash]
    rw [hnames, List.mem_append, not_or] at hempty
    refine ⟨Path.names (after ++ rest), Path.names_ne_nil _, ?_⟩
    rw [hparent, hnames, steps_eq_names hempty.1]

/-! ## Files below a folder -/

/-- The entries of the files below a folder, the names on the way to it in front of theirs. -/
def entriesBelow (before : List FileName) (f : Folder) : List Entry :=
  f.files.map fun (names, blob) => entry (before ++ names) blob

theorem mem_entriesBelow_of_mem_files {f : Folder} {below : List FileName}
    (h : (below, b) ∈ f.files) (before : List FileName) :
    entry (before ++ below) b ∈ entriesBelow before f :=
  List.mem_map.2 ⟨_, h, rfl⟩

section Below

variable {p : Folder.Rule} {f : Folder} {before : List FileName} (hf : f.Proper p)
  (hbefore : ∀ n ∈ before, 0x2F ∉ n.bytes ∧ n.IsText)
  (htext : ∀ file ∈ f.files, ∀ n ∈ file.1, n.IsText)

include hf hbefore htext

/-- The key of a file leads to it, if the names on the way are texts. -/
theorem names_key {file : List FileName × Blob} (hfile : file ∈ f.files) :
    Path.names (Path.ofNames (before ++ file.1)) = before ++ file.1 := by
  have hat := hf.mem_files_iff.1 hfile
  refine Path.names_ofNames ?_ (fun n hn => ?_) fun n hn => ?_
  · intro hnil
    rw [(List.append_eq_nil_iff.1 hnil).2] at hat
    cases hat
  · exact (List.mem_append.1 hn).elim (fun hn => (hbefore n hn).1)
      fun hn => (hf.isFileName hat n hn).1.2
  · exact (List.mem_append.1 hn).elim (fun hn => (hbefore n hn).2) (htext file hfile n)

theorem nodup_keys_entriesBelow : ((entriesBelow before f).map Entry.key).Nodup := by
  rw [entriesBelow, List.map_map]
  refine List.pairwise_map.2 ((List.pairwise_map.1 hf.nodup_files).imp_of_mem ?_)
  intro file file' hfile hfile' hne heq
  have hnames := names_key hf hbefore htext hfile
  rw [show Path.ofNames (before ++ file.1) = Path.ofNames (before ++ file'.1) from heq,
    names_key hf hbefore htext hfile'] at hnames
  exact hne (List.append_cancel_left hnames).symm

end Below

/-! ## Items -/

theorem itemAt_eq_ok_iff :
    s.itemAt names = .ok item ↔
      Folder.checkPath (s.pathBytes names) = .ok () ∧ s.disk.lookup s.home names = .ok item := by
  rw [itemAt]
  cases hcheck : Folder.checkPath (s.pathBytes names) with
  | error fault => simp [bind, Except.bind]
  | ok u => simp [bind, Except.bind]

theorem folderAt?_eq_some_iff :
    s.folderAt? names = some inside ↔ s.itemAt names = .ok (.folder inside) := by
  rw [folderAt?]
  split
  · rename_i found hitem
    simp [hitem]
  · rename_i hnot
    simp only [reduceCtorEq, false_iff]
    exact hnot inside

/-! ## Names that are accepted -/

theorem isContainerName_iff :
    isContainerName container = true ↔
      container ≠ "" ∧ Path.hasSlash container = false ∧ container ≠ ".." := by
  simp [isContainerName, and_assoc]

theorem checkContainer_eq_ok_iff :
    s.checkContainer container = .ok () ↔
      isContainerName container = true ∧ ∃ inside, s.itemAt [container] = .ok (.folder inside) := by
  simp only [← folderAt?_eq_some_iff, ← Option.isSome_iff_exists]
  rw [checkContainer]
  cases hname : isContainerName container <;> cases hfolder : s.folderAt? [container] <;> simp

theorem place_eq_ok_iff :
    s.place container key = .ok names ↔
      leadsUp key = false ∧ s.checkContainer container = .ok () ∧
        names = .ofText container :: steps key := by
  rw [place]
  cases hup : leadsUp key <;> cases hcheck : s.checkContainer container <;>
    simp [bind, Except.bind, pure, Except.pure, throw, throwThe, MonadExceptOf.throw, eq_comm]

namespace Holds

variable (h : s.Holds container inside objects)

include h

theorem lookup_eq (hup : (".." : FileName) ∉ path) :
    s.disk.lookup s.home (container :: path) = inside.descend path := by
  have hfound := (itemAt_eq_ok_iff.1 (folderAt?_eq_some_iff.1 h.found)).2
  exact Folder.lookup_append hfound h.plain (fun _ => rfl) hup

theorem itemAt_of_at? (hat : inside.at? path = some item) :
    s.itemAt (container :: path) = .ok item := by
  have hup : (".." : FileName) ∉ path := fun hmem =>
    (Folder.Proper.isFileName h.plain hat _ hmem).2.2.1 rfl
  rw [itemAt_eq_ok_iff, h.lookup_eq hup]
  exact ⟨h.fits path (by simp [hat]), Folder.Proper.descend_of_at? h.plain hat⟩

theorem checkContainer_eq : s.checkContainer container = .ok () := by
  simp [checkContainer, h.isName, h.found]

theorem place_eq (hup : leadsUp key = false) :
    s.place container key = .ok (container :: steps key) := by
  simp only [place, hup, h.checkContainer_eq]
  rfl

/-! ## Objects and files -/

theorem exists_object_iff :
    (∃ b, objects.get? key = some b ∧ b.data = data) ↔
      ∃ b, inside.at? (Path.names key) = some (.leaf (.file b)) ∧ b.data = data := by
  rw [← Option.map_eq_some_iff, ← h.data, Folder.dataAt_eq_some_iff]

theorem isFileName_of_object (hb : objects.get? key = some b) :
    ∀ n ∈ Path.names key, Folder.IsFileName n := by
  obtain ⟨b', hat, -⟩ := h.exists_object_iff.1 ⟨b, hb, rfl⟩
  exact Folder.Proper.isFileName h.plain hat

theorem names_ofNames (hat : inside.at? path = some item) (hpath : path ≠ []) :
    Path.names (Path.ofNames path) = path := by
  have hadmits := (Folder.Proper.at? h.plain hat).1
  exact Path.names_ofNames hpath (fun n hn => (hadmits n hn).1.1.2) fun n hn =>
    (hadmits n hn).2.resolve_left nofun

theorem blocked_iff :
    inside.Blocked (Path.names key) ↔ ∃ stored b, objects.get? stored = some b ∧
      Path.names stored <+: Path.names key ∧ stored ≠ key := by
  constructor
  · rintro ⟨before, after, l, hway, hafter, hat⟩
    obtain ⟨b, rfl⟩ := h.plain.exists_file hat
    have hbefore : before ≠ [] := by
      rintro rfl
      cases hat
    have hnames := h.names_ofNames hat hbefore
    rw [← hnames] at hat
    obtain ⟨c, hc, -⟩ := h.exists_object_iff.2 ⟨b, hat, rfl⟩
    refine ⟨_, c, hc, ⟨after, by rw [hnames, hway]⟩, ?_⟩
    rintro rfl
    rw [hnames] at hway
    exact hafter (List.append_right_eq_self.1 hway.symm)
  · rintro ⟨stored, b, hb, ⟨after, hafter⟩, hne⟩
    obtain ⟨c, hat, -⟩ := h.exists_object_iff.1 ⟨b, hb, rfl⟩
    refine ⟨Path.names stored, after, _, hafter.symm, ?_, hat⟩
    rintro rfl
    rw [List.append_nil] at hafter
    exact hne (Path.names_inj.1 hafter)

end Holds

end DirectoryStore
end BlobDepot
