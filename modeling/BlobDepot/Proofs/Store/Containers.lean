import BlobDepot.Proofs.Listing
import BlobDepot.Proofs.Store.Walks

/-!
# Containers of a directory

A container is a folder right in the directory of its store, and nothing outside that folder is told
of or listed through it. One name breaks the rule: `.` is accepted as well and stands for the
directory itself, so that the files of all containers show through it.
-/
namespace BlobDepot

def Leaf.isLink : Leaf → Bool
  | .link _ => true
  | _ => false

/-- Anything but links. -/
def Folder.linkless : Folder.Rule where
  leaf l := !l.isLink

theorem Listing.mem_of_mem_rollUp {start : String} {l : List Entry} {e : Entry}
    (h : e ∈ rollUp start l) (hrolled : e.isRolled = false) : e ∈ l := by
  rcases mem_rollUp_iff.1 h with ⟨name, -, -, hlast⟩ | ⟨name, -, -, rfl⟩
  · exact (Catalog.latest_sublist Entry.key l).subset hlast
  · cases hrolled

namespace DirectoryStore

variable {s : DirectoryStore} {depot : Folder} {c c' key start : String}
  {names place below : List FileName} {b : Blob} {e : Entry} {found : List Entry}

/-! ## What shows through a container -/

/-- The directory of the store is on its disk, without links in it. -/
structure Rooted (s : DirectoryStore) (depot : Folder) : Prop where
  found : s.disk.at? s.home = some (.folder depot)
  proper : depot.Proper Folder.linkless

/-- Where names lead from the directory of the store. -/
def reach (s : DirectoryStore) (names : List FileName) : Except IoFault (List FileName) :=
  Folder.locate s.disk false Folder.maxLinks s.home names

/-- A place is in the folder of a container, or is that folder. -/
def Keeps (s : DirectoryStore) (container : String) (place : List FileName) : Prop :=
  ∃ dir, s.reach [container] = .ok dir ∧ dir <+: place

def HasFile (s : DirectoryStore) (container : String) : Prop :=
  ∃ place b, s.Keeps container place ∧ s.disk.at? place = some (.leaf (.file b))

/-- What is told of an object is told of the file at a place. -/
def Describes (s : DirectoryStore) (container key : String) (place : List FileName) : Prop :=
  ∃ names b, s.place container key = .ok names ∧ s.reach names = .ok place ∧
    s.disk.at? place = some (.leaf (.file b)) ∧
    (Store.metadata container key s).1 =
      .ok (some { size := b.data.length, modified := shownTime b.modified })

/-- A listing of a container has the entry of the file at a place in its folder. -/
def Lists (s : DirectoryStore) (container : String) (place : List FileName) : Prop :=
  ∃ start recursive found dir names b,
    (Store.list container start recursive s).1 = .ok found ∧ entry names b ∈ found ∧
      s.reach [container] = .ok dir ∧ place = dir ++ names ∧
      s.disk.at? place = some (.leaf (.file b))

/-- No file is told of through both containers, and neither lists what is in the folder of the
other. -/
def Apart (s : DirectoryStore) (c c' : String) : Prop :=
  (∀ key key' place, s.Describes c key place → ¬ s.Describes c' key' place) ∧
    (∀ place, s.Lists c place → ¬ s.Keeps c' place) ∧
    ∀ place, s.Lists c' place → ¬ s.Keeps c place

theorem exists_reach_of_itemAt {item : Item} (h : s.itemAt names = .ok item) :
    ∃ place, s.reach names = .ok place ∧ s.disk.at? place = some item :=
  Folder.lookup_eq_ok_iff.1 (itemAt_eq_ok_iff.1 h).2

theorem moves_container (hc : isContainerName c = true) :
    Folder.moves [.ofText c] = if c = "." then [] else [.ofText c] := by
  have hne : (c : FileName) ≠ "" := mt FileName.ofText_inj.1 (isContainerName_iff.1 hc).1
  by_cases hdot : c = "."
  · rw [if_pos hdot, Folder.moves_cons_of_stays (.inr (congrArg _ hdot))]
    rfl
  · rw [if_neg hdot, Folder.moves_cons (not_or.2 ⟨hne, mt FileName.ofText_inj.1 hdot⟩)]
    rfl

/-! ## Answers -/

/-- An object is told of exactly if its key leads to a file. -/
theorem metadata_eq_some_iff {m : Metadata} :
    (Store.metadata c key s).1 = .ok (some m) ↔ ∃ names b, s.place c key = .ok names ∧
      s.itemAt names = .ok (.leaf (.file b)) ∧
      m = { size := b.data.length, modified := shownTime b.modified } := by
  have htold : (Store.metadata c key s).1 = s.metadataOf c key := rfl
  rw [htold, metadataOf]
  cases hplace : s.place c key with
  | error err => exact iff_of_false nofun nofun
  | ok names =>
    simp only [bind, Except.bind, Except.ok.injEq, exists_and_left, exists_eq_left']
    split
    · rename_i b hitem
      simp [hitem, pure, Except.pure, eq_comm]
    · rename_i hnot hitem
      refine iff_of_false nofun ?_
      rintro ⟨b, hfile, -⟩
      exact hnot b (Except.ok.inj (hitem.symm.trans hfile))
    · rename_i fault hitem
      simp only [hitem, reduceCtorEq, false_and, exists_false, iff_false]
      split <;> exact nofun

/-- What is told of an object is what the file shows that its key leads to. -/
theorem exists_describes {m : Metadata}
    (hmeta : (Store.metadata c key s).1 = .ok (some m)) : ∃ place, s.Describes c key place := by
  obtain ⟨names, b, hplace, hitem, rfl⟩ := metadata_eq_some_iff.1 hmeta
  obtain ⟨place, hreach, hat⟩ := exists_reach_of_itemAt hitem
  exact ⟨place, names, b, hplace, hreach, hat, hmeta⟩

theorem exists_walk_of_list {recursive : Bool}
    (hlist : (Store.list c start recursive s).1 = .ok found) (he : e ∈ found)
    (hrolled : e.isRolled = false) : ∃ walked, s.walk c start none = .ok walked ∧ e ∈ walked := by
  have hentries : s.entries c start recursive = .ok found := hlist
  rw [entries] at hentries
  cases hwalk : s.walk c start none with
  | error err =>
    rw [hwalk] at hentries
    cases hentries
  | ok walked =>
    refine ⟨walked, rfl, ?_⟩
    rw [hwalk] at hentries
    cases hentries
    cases recursive with
    | true => exact List.mem_mergeSort.1 he
    | false => exact List.mem_mergeSort.1 (Listing.mem_of_mem_rollUp he hrolled)

theorem keeps_of_lists (hlists : s.Lists c place) :
    s.Keeps c place ∧ ∃ b, s.disk.at? place = some (.leaf (.file b)) := by
  obtain ⟨start, recursive, found, dir, names, b, -, -, hdir, rfl, hat⟩ := hlists
  exact ⟨⟨dir, hdir, List.prefix_append _ _⟩, b, hat⟩

namespace Rooted

variable (h : s.Rooted depot)

include h

/-! ## Places -/

theorem eq_of_reach (hup : (".." : FileName) ∉ names) (hreach : s.reach names = .ok place) :
    place = s.home ++ Folder.moves names := by
  obtain ⟨follow, hwalk⟩ := Folder.exists_locate_eq_walk s.disk false Folder.maxLinks
  rw [reach, hwalk] at hreach
  exact Folder.eq_of_walk h.found h.proper (fun _ => rfl) hup hreach

theorem reach_container (hc : s.checkContainer c = .ok ()) :
    s.reach [c] = .ok (s.home ++ Folder.moves [.ofText c]) ∧
      ∃ inside, s.disk.at? (s.home ++ Folder.moves [.ofText c]) = some (.folder inside) := by
  obtain ⟨hname, inside, hitem⟩ := checkContainer_eq_ok_iff.1 hc
  obtain ⟨place, hreach, hat⟩ := exists_reach_of_itemAt hitem
  have hup : (".." : FileName) ∉ [.ofText c] := by
    simpa using (isContainerName_iff.1 hname).2.2.symm
  obtain rfl := h.eq_of_reach hup hreach
  exact ⟨hreach, inside, hat⟩

theorem keeps_iff (hc : s.checkContainer c = .ok ()) :
    s.Keeps c place ↔ s.home ++ Folder.moves [.ofText c] <+: place := by
  rw [Keeps, (h.reach_container hc).1]
  simp

/-- What a key leads to is in the folder of its container. -/
theorem eq_of_place (hplace : s.place c key = .ok names) (hreach : s.reach names = .ok place) :
    place = s.home ++ Folder.moves [.ofText c] ++ Folder.moves (steps key) := by
  obtain ⟨hup, hc, rfl⟩ := place_eq_ok_iff.1 hplace
  have hne : (".." : FileName) ≠ c :=
    mt FileName.ofText_inj.1 (isContainerName_iff.1 (checkContainer_eq_ok_iff.1 hc).1).2.2.symm
  have hup : (".." : FileName) ∉ .ofText c :: steps key :=
    List.not_mem_cons_of_ne_of_not_mem hne (not_mem_steps_up hup)
  rw [h.eq_of_reach hup hreach, List.append_assoc, ← Folder.moves_append]
  rfl

theorem keeps_of_place (hplace : s.place c key = .ok names) (hreach : s.reach names = .ok place) :
    s.Keeps c place := by
  rw [h.keeps_iff (place_eq_ok_iff.1 hplace).2.1, h.eq_of_place hplace hreach]
  exact List.prefix_append _ _

theorem item_proper {item : Item} (hat : s.disk.at? (s.home ++ below) = some item) :
    (∀ n ∈ below, Folder.linkless.Admits n) ∧ item.Proper Folder.linkless := by
  rw [Folder.at?_append h.found] at hat
  exact h.proper.at? hat

theorem exists_file_of_mem_walk (hwalk : s.walk c start none = .ok found) (he : e ∈ found) :
    ∃ names b, e = entry names b ∧ names ≠ [] ∧ (∀ n ∈ names, Folder.IsFileName n) ∧
      s.disk.at? (s.home ++ Folder.moves [.ofText c] ++ names) = some (.leaf (.file b)) := by
  obtain ⟨names, inside, hplace, hitem, hmem⟩ := exists_of_walk hwalk he
  obtain ⟨place, hreach, hat⟩ := exists_reach_of_itemAt hitem
  obtain rfl := h.eq_of_place hplace hreach
  obtain ⟨⟨path, b⟩, hfile, rfl⟩ := List.mem_map.1 hmem
  have hinside : inside.Proper Folder.linkless := by
    rw [List.append_assoc] at hat
    exact (h.item_proper hat).2
  have hbelow := hinside.mem_files_iff.1 hfile
  rw [← Folder.at?_append hat, List.append_assoc] at hbelow
  refine ⟨_, b, rfl, ?_, fun n hn => ?_, hbelow⟩
  · intro hnil
    obtain ⟨-, g, hg⟩ := h.reach_container (place_eq_ok_iff.1 hplace).2.1
    rw [hnil, List.append_nil, hg] at hbelow
    cases hbelow
  · rw [List.append_assoc] at hbelow
    exact ((h.item_proper hbelow).1 n (List.mem_append_right _ hn)).1

/-- What a container lists are the entries of files in its folder. -/
theorem exists_file_of_list {recursive : Bool} (hc : s.checkContainer c = .ok ())
    (hlist : (Store.list c start recursive s).1 = .ok found) (he : e ∈ found)
    (hrolled : e.isRolled = false) :
    ∃ dir names b, s.reach [c] = .ok dir ∧ e = entry names b ∧
      s.disk.at? (dir ++ names) = some (.leaf (.file b)) ∧
      ((∀ n ∈ names, n.IsText) → Path.names e.key = names) := by
  obtain ⟨walked, hwalk, hmem⟩ := exists_walk_of_list hlist he hrolled
  obtain ⟨names, b, rfl, hne, hnames, hat⟩ := h.exists_file_of_mem_walk hwalk hmem
  refine ⟨_, names, b, (h.reach_container hc).1, rfl, hat, ?_⟩
  exact Path.names_ofNames hne fun n hn => (hnames n hn).1.2

theorem keeps_of_describes (hdescribes : s.Describes c key place) :
    s.Keeps c place ∧ ∃ b, s.disk.at? place = some (.leaf (.file b)) := by
  obtain ⟨names, b, hplace, hreach, hat, -⟩ := hdescribes
  exact ⟨h.keeps_of_place hplace hreach, b, hat⟩

/-- A listing of all objects has the entry of each file in the folder of the container. -/
theorem lists_of_keeps (hlist : (Store.list c "" true s).1 = .ok found)
    (hc : s.checkContainer c = .ok ()) (hkeeps : s.Keeps c place)
    (hat : s.disk.at? place = some (.leaf (.file b))) : s.Lists c place := by
  obtain ⟨-, inside, hitem⟩ := checkContainer_eq_ok_iff.1 hc
  obtain ⟨dir, hdir, hfolder⟩ := exists_reach_of_itemAt hitem
  obtain ⟨dir', hdir', path, rfl⟩ := hkeeps
  obtain rfl : dir' = dir := Except.ok.inj (hdir'.symm.trans hdir)
  obtain rfl : dir' = s.home ++ Folder.moves [.ofText c] :=
    Except.ok.inj (hdir.symm.trans (h.reach_container hc).1)
  have hinside : inside.Proper Folder.linkless := (h.item_proper hfolder).2
  obtain ⟨-, hfound⟩ := (list_empty_eq_ok_iff hinside hc hitem).1 hlist
  have hbelow := hat
  rw [Folder.at?_append hfolder] at hbelow
  have hfile : (path, b) ∈ inside.files := hinside.mem_files_iff.2 hbelow
  refine ⟨"", true, found, _, path, b, hlist, ?_, hdir, rfl, hat⟩
  rw [hfound]
  exact List.mem_mergeSort.2 (mem_entriesBelow_of_mem_files hfile [])

/-! ## Two containers -/

/-- The folders of two containers have nothing in common, unless one is the directory itself. -/
theorem eq_of_keeps (hc : s.checkContainer c = .ok ()) (hc' : s.checkContainer c' = .ok ())
    (hdot : c ≠ ".") (hdot' : c' ≠ ".") (hkeeps : s.Keeps c place) (hkeeps' : s.Keeps c' place) :
    c = c' := by
  rw [h.keeps_iff hc, moves_container (checkContainer_eq_ok_iff.1 hc).1, if_neg hdot] at hkeeps
  rw [h.keeps_iff hc', moves_container (checkContainer_eq_ok_iff.1 hc').1, if_neg hdot'] at hkeeps'
  have hprefix := List.prefix_of_prefix_length_le hkeeps hkeeps' (by simp)
  have heq := hprefix.eq_of_length (by simp)
  simpa using heq

theorem keeps_root (hc : s.checkContainer "." = .ok ()) (hc' : s.checkContainer c = .ok ())
    (hkeeps : s.Keeps c place) : s.Keeps "." place := by
  have hdot : Folder.moves ["."] = [] := rfl
  rw [h.keeps_iff hc, hdot, List.append_nil]
  rw [h.keeps_iff hc'] at hkeeps
  exact (List.prefix_append _ _).trans hkeeps

/-- Where the directory itself can be listed, it is apart only from containers without a file. -/
theorem not_hasFile_of_apart (hlist : (Store.list "." "" true s).1 = .ok found)
    (hc : s.checkContainer "." = .ok ()) (hc' : s.checkContainer c = .ok ())
    (hlists : ∀ place, s.Lists "." place → ¬ s.Keeps c place) : ¬ s.HasFile c := by
  rintro ⟨place, b, hkeeps, hat⟩
  exact hlists place (h.lists_of_keeps hlist hc (h.keeps_root hc hc' hkeeps) hat) hkeeps

/-- No file shows through one container and is in the folder of another, unless one of the two is
the directory itself and there is a file in the other. -/
theorem not_keeps_of_keeps (hc : s.checkContainer c = .ok ()) (hc' : s.checkContainer c' = .ok ())
    (hne : c ≠ c') (hfree : (c = "." → ¬ s.HasFile c') ∧ (c' = "." → ¬ s.HasFile c))
    (hkeeps : s.Keeps c place) (hat : s.disk.at? place = some (.leaf (.file b))) :
    ¬ s.Keeps c' place := by
  intro hkeeps'
  by_cases hdot : c = "."
  · exact hfree.1 hdot ⟨place, b, hkeeps', hat⟩
  by_cases hdot' : c' = "."
  · exact hfree.2 hdot' ⟨place, b, hkeeps, hat⟩
  exact hne (h.eq_of_keeps hc hc' hdot hdot' hkeeps hkeeps')

section Two

variable (hc : s.checkContainer c = .ok ()) (hc' : s.checkContainer c' = .ok ()) (hne : c ≠ c')

include hc hc' hne

theorem apart_of_free (hfree : (c = "." → ¬ s.HasFile c') ∧ (c' = "." → ¬ s.HasFile c)) :
    s.Apart c c' := by
  refine ⟨fun key key' place hdescribes hdescribes' => ?_, fun place hlists => ?_,
    fun place hlists => ?_⟩
  · obtain ⟨hkeeps, b, hat⟩ := h.keeps_of_describes hdescribes
    have hkeeps' := (h.keeps_of_describes hdescribes').1
    exact h.not_keeps_of_keeps hc hc' hne hfree hkeeps hat hkeeps'
  · obtain ⟨hkeeps, b, hat⟩ := keeps_of_lists hlists
    exact h.not_keeps_of_keeps hc hc' hne hfree hkeeps hat
  · obtain ⟨hkeeps, b, hat⟩ := keeps_of_lists hlists
    exact h.not_keeps_of_keeps hc' hc hne.symm hfree.symm hkeeps hat

theorem apart_iff (hlist : (Store.list "." "" true s).1 = .ok found) :
    s.Apart c c' ↔ (c = "." → ¬ s.HasFile c') ∧ (c' = "." → ¬ s.HasFile c) := by
  refine ⟨?_, h.apart_of_free hc hc' hne⟩
  rintro ⟨-, hlists, hlists'⟩
  refine ⟨?_, ?_⟩
  · rintro rfl
    exact h.not_hasFile_of_apart hlist hc hc' hlists
  · rintro rfl
    exact h.not_hasFile_of_apart hlist hc' hc hlists'

end Two

end Rooted

/-- A store whose directory has no links in it. Each container that is accepted stands for a folder
right in the directory, except for `.`, which stands for the directory. No key leads out of that
folder, what is told of objects is about files in it, and what is listed are entries of files in it.
Two containers are apart if neither of them is `.` with a file in the other, and only then if the
directory itself can be listed. -/
theorem containers_apart (h : s.Rooted depot) :
    (∀ c, s.checkContainer c = .ok () →
      s.reach [c] = .ok (if c = "." then s.home else s.home ++ [.ofText c]) ∧
      (∀ key names place, s.place c key = .ok names → s.reach names = .ok place →
        s.Keeps c place) ∧
      (∀ key m, (Store.metadata c key s).1 = .ok (some m) → ∃ place, s.Describes c key place) ∧
      ∀ start recursive found, (Store.list c start recursive s).1 = .ok found →
        ∀ e ∈ found, e.isRolled = false →
          ∃ dir names b, s.reach [c] = .ok dir ∧ e = entry names b ∧
            s.disk.at? (dir ++ names) = some (.leaf (.file b)) ∧
            ((∀ n ∈ names, n.IsText) → Path.names e.key = names)) ∧
    ∀ c c', s.checkContainer c = .ok () → s.checkContainer c' = .ok () → c ≠ c' →
      let free := (c = "." → ¬ s.HasFile c') ∧ (c' = "." → ¬ s.HasFile c)
      (free → s.Apart c c') ∧
        ((∃ found, (Store.list "." "" true s).1 = .ok found) → (s.Apart c c' ↔ free)) := by
  refine ⟨fun c hc => ⟨?_, fun key names place => h.keeps_of_place, fun key m => exists_describes,
    fun start recursive found hlist e => h.exists_file_of_list hc hlist⟩,
    fun c c' hc hc' hne => ⟨h.apart_of_free hc hc' hne, ?_⟩⟩
  · rw [(h.reach_container hc).1, moves_container (checkContainer_eq_ok_iff.1 hc).1]
    split <;> simp
  · rintro ⟨found, hlist⟩
    exact h.apart_iff hc hc' hne hlist

/-- Two containers with a file in each. -/
theorem artifacts_apart_logs :
    let depot : Folder :=
      .folder "artifacts" (.folder "job" (.leaf "log.txt" (.file ⟨[7], 1⟩) .empty) .empty)
        (.folder "logs" (.leaf "log.txt" (.file ⟨[8], 2⟩) .empty) .empty)
    let s : DirectoryStore :=
      { root := "/depot", disk := .folder "depot" depot .empty, home := ["depot"] }
    s.checkContainer "artifacts" = .ok () ∧ s.checkContainer "logs" = .ok () ∧
      s.Apart "artifacts" "logs" := by
  intro depot s
  have hc : s.checkContainer "artifacts" = .ok () := by decide +kernel
  have hc' : s.checkContainer "logs" = .ok () := by decide +kernel
  have hrooted : s.Rooted depot := ⟨rfl, by decide +kernel⟩
  have hdot : "artifacts" ≠ "." := by decide
  have hdot' : "logs" ≠ "." := by decide
  refine ⟨hc, hc', ?_⟩
  exact ((containers_apart hrooted).2 _ _ hc hc' (by decide)).1
    ⟨fun heq => absurd heq hdot, fun heq => absurd heq hdot'⟩

/-- The directory as a container of its own, through which an object of another shows. -/
theorem artifacts_not_apart_from_directory :
    let depot : Folder :=
      .folder "artifacts" (.folder "job" (.leaf "log.txt" (.file ⟨[7], 1⟩) .empty) .empty) .empty
    let s : DirectoryStore :=
      { root := "/depot", disk := .folder "depot" depot .empty, home := ["depot"] }
    let place : List FileName := ["depot", "artifacts", "job", "log.txt"]
    s.Rooted depot ∧ s.checkContainer "." = .ok () ∧ s.checkContainer "artifacts" = .ok () ∧
      s.reach ["."] = .ok s.home ∧ s.Describes "." "artifacts/job/log.txt" place ∧
      s.Describes "artifacts" "job/log.txt" place ∧ s.Lists "." place ∧
      s.Keeps "artifacts" place := by
  intro depot s place
  have hrooted : s.Rooted depot := ⟨rfl, by decide +kernel⟩
  have hc : s.checkContainer "." = .ok () := by decide +kernel
  refine ⟨hrooted, hc, by decide +kernel, by decide +kernel, ?_, ?_, ?_, ?_⟩
  · exact ⟨[".", "artifacts", "job", "log.txt"], ⟨[7], 1⟩, by decide +kernel, by decide +kernel,
      rfl, by decide +kernel⟩
  · exact ⟨["artifacts", "job", "log.txt"], ⟨[7], 1⟩, by decide +kernel, by decide +kernel, rfl,
      by decide +kernel⟩
  · have hlist : (Store.list "." "" true s).1 =
        .ok [.object "artifacts/job/log.txt" 1 (some 1)] := by decide +kernel
    exact hrooted.lists_of_keeps hlist hc ⟨["depot"], by decide +kernel, by decide +kernel⟩ rfl
  · exact ⟨["depot", "artifacts"], by decide +kernel, by decide +kernel⟩

end DirectoryStore
end BlobDepot
