import BlobDepot.Proofs.Store.Layout
import BlobDepot.Proofs.Text

/-!
# Walks through a container

A walk without a limit comes to its end if there is no fault in what it has to read or to look at.
It has then found the files below the place where it began whose keys start with its text. A limit
leaves out the last of them.
-/
namespace BlobDepot.DirectoryStore

variable {s : DirectoryStore} {container start : String} {names : List FileName} {x : Sight}
  {sights : List Sight} {found : List Entry} {inside : Folder} {e : Entry}

theorem faultAt_eq_none_iff {own : Option IoFault} :
    s.faultAt names own = none ↔
      Folder.checkPath (s.pathBytes names) = .ok () ∧ own = none := by
  rw [faultAt]
  cases Folder.checkPath (s.pathBytes names) <;> simp

theorem isDenial_of_faultAt {fault : IoFault} (h : s.faultAt names none = some fault) :
    fault.isDenial = false := by
  rw [faultAt] at h
  split at h
  · cases h
  · rename_i hcheck
    cases h
    exact Folder.isDenial_of_checkPath hcheck

/-- A walk that begins at a place does not fail at what it meets. -/
def Passes (s : DirectoryStore) (start : String) (names : List FileName) : Sight → Prop
  | .file below blob =>
    Text.startsWith start (entry (within names ++ below) blob).key = true →
      s.faultAt (names ++ below) none = none
  | .folder below fault => s.faultAt (names ++ below) fault = none

/-- The entries of the files among what a walk meets whose keys start with a text. -/
def entriesMet (start : String) (names : List FileName) (sights : List Sight) : List Entry :=
  ((sights.filterMap Sight.file?).map fun (below, blob) =>
    entry (within names ++ below) blob).filter fun e => Text.startsWith start e.key

section Step

variable {limit : Option Nat} {below : List FileName} {blob : Blob} {fault : Option IoFault}

theorem entriesMet_folder : entriesMet start names (.folder below fault :: sights) =
    entriesMet start names sights := rfl

theorem entriesMet_file : entriesMet start names (.file below blob :: sights) =
    if Text.startsWith start (entry (within names ++ below) blob).key then
      entry (within names ++ below) blob :: entriesMet start names sights
    else entriesMet start names sights :=
  List.filter_cons

theorem collect_folder : s.collect container start names limit (.folder below fault :: sights) =
    match s.faultAt (names ++ below) fault with
    | some fault => .error (s.walkFailure container start names below fault)
    | none => s.collect container start names limit sights := rfl

theorem collect_file_of_not
    (h : ¬ Text.startsWith start (entry (within names ++ below) blob).key = true) :
    s.collect container start names limit (.file below blob :: sights) =
      s.collect container start names limit sights := by
  rw [collect]
  exact if_pos (by simp [h])

theorem collect_file (h : Text.startsWith start (entry (within names ++ below) blob).key = true) :
    s.collect container start names limit (.file below blob :: sights) =
      match s.faultAt (names ++ below) none with
      | some fault =>
        .error (.io (s.pathText (names ++ below)) (s.faultText (names ++ below) fault))
      | none =>
        if limit.any (· ≤ 1) then .ok [entry (within names ++ below) blob]
        else (s.collect container start names (limit.map (· - 1)) sights).map
          (entry (within names ++ below) blob :: ·) := by
  rw [collect]
  exact if_neg (by simp [h])

end Step

theorem collect_none_eq_ok_iff :
    s.collect container start names none sights = .ok found ↔
      (∀ x ∈ sights, s.Passes start names x) ∧ found = entriesMet start names sights := by
  induction sights generalizing found with
  | nil => simp [collect, entriesMet, eq_comm]
  | cons x sights ih =>
    rw [List.forall_mem_cons]
    cases x with
    | folder below fault =>
      rw [collect_folder, entriesMet_folder, Passes]
      cases s.faultAt (names ++ below) fault with
      | some fault => simp
      | none => simp [ih]
    | file below blob =>
      rw [entriesMet_file, Passes]
      by_cases hstart : Text.startsWith start (entry (within names ++ below) blob).key = true
      · rw [collect_file hstart, if_pos hstart]
        cases s.faultAt (names ++ below) none with
        | some fault => simp [hstart]
        | none =>
          cases hrest : s.collect container start names none sights with
          | error err =>
            have hnot : ¬ ∀ x ∈ sights, s.Passes start names x := fun hpass => by
              cases hrest.symm.trans (ih.2 ⟨hpass, rfl⟩)
            simp [hrest, Except.map, hnot]
          | ok rest =>
            obtain ⟨hpass, rfl⟩ := ih.1 hrest
            simp only [Option.any_none, Bool.false_eq_true, if_false, Option.map_none, hrest,
              Except.map, Except.ok.injEq, implies_true, true_and]
            exact ⟨fun h => ⟨hpass, h.symm⟩, fun h => h.2.symm⟩
      · rw [collect_file_of_not hstart, if_neg hstart, ih]
        simp [hstart]

/-- With a limit a walk that would come to its end finds the first of what it would find. -/
theorem collect_some (h : ∀ x ∈ sights, s.Passes start names x) (limit : Nat) :
    s.collect container start names (some limit) sights =
      .ok ((entriesMet start names sights).take (max limit 1)) := by
  -- a file that is found uses up one of the limit, and whatever else the walk meets none
  induction sights generalizing limit with
  | nil => simp [collect, entriesMet]
  | cons x sights ih =>
    obtain ⟨hx, hrest⟩ := List.forall_mem_cons.1 h
    cases x with
    | folder below fault =>
      rw [Passes] at hx
      rw [collect_folder, hx, entriesMet_folder]
      exact ih hrest limit
    | file below blob =>
      rw [entriesMet_file]
      by_cases hstart : Text.startsWith start (entry (within names ++ below) blob).key = true
      · rw [collect_file hstart, if_pos hstart, hx hstart]
        by_cases hlimit : limit ≤ 1
        · simp [hlimit]
        · obtain ⟨k, rfl⟩ : ∃ k, limit = k + 2 := ⟨limit - 2, by omega⟩
          simp [ih hrest, Except.map]
      · rw [collect_file_of_not hstart, if_neg hstart]
        exact ih hrest limit

/-- A walk that meets no file whose key starts with its text does not come to its limit. -/
theorem collect_of_entriesMet_eq_nil (h : entriesMet start names sights = [])
    (limit : Option Nat) :
    s.collect container start names limit sights = s.collect container start names none sights := by
  induction sights with
  | nil => rfl
  | cons x sights ih =>
    cases x with
    | folder below fault =>
      rw [collect_folder, collect_folder, ih h]
    | file below blob =>
      rw [entriesMet_file] at h
      split at h
      · cases h
      · rename_i hstart
        rw [collect_file_of_not hstart, collect_file_of_not hstart, ih h]

/-- A walk fails for want of room if all the folders that it meets can be read. -/
theorem exists_io_of_collect {err : StoreError} {limit : Option Nat}
    (hread : ∀ x ∈ sights, ∀ below fault, x = .folder below fault → fault = none)
    (h : s.collect container start names limit sights = .error err) :
    ∃ path reason, err = .io path reason := by
  induction sights generalizing limit with
  | nil => cases h
  | cons x sights ih =>
    obtain ⟨hx, hrest⟩ := List.forall_mem_cons.1 hread
    cases x with
    | folder below fault =>
      obtain rfl := hx below fault rfl
      rw [collect_folder] at h
      cases hfault : s.faultAt (names ++ below) none with
      | none =>
        rw [hfault] at h
        exact ih hrest h
      | some fault =>
        simp only [hfault, Except.error.injEq] at h
        rw [walkFailure, if_neg (by simp [isDenial_of_faultAt hfault])] at h
        exact ⟨_, _, h.symm⟩
    | file below blob =>
      by_cases hstart : Text.startsWith start (entry (within names ++ below) blob).key = true
      · rw [collect_file hstart] at h
        cases hfault : s.faultAt (names ++ below) none with
        | some fault =>
          simp only [hfault, Except.error.injEq] at h
          exact ⟨_, _, h.symm⟩
        | none =>
          simp only [hfault] at h
          split at h
          · cases h
          · cases hnext : s.collect container start names (limit.map (· - 1)) sights with
            | ok rest =>
              rw [hnext] at h
              cases h
            | error err' =>
              rw [hnext] at h
              cases h
              exact ih hrest hnext
      · rw [collect_file_of_not hstart] at h
        exact ih hrest h

/-! ## Where walks begin -/

/-- The place where a walk for a text begins, in the folder that the text fully names. -/
def origin (container start : String) : List FileName :=
  .ofText container :: steps (Path.parent start)

section Begin

variable {limit : Option Nat} (hplace : s.place container (Path.parent start) = .ok names)

include hplace

theorem walk_eq : s.walk container start limit =
    match s.folderAt? names with
    | none => .ok []
    | some inside =>
      s.collect container start names limit (.folder [] inside.fault :: inside.sights) := by
  simp only [walk, (place_eq_ok_iff.1 hplace).2.1, hplace, bind, Except.bind]
  rfl

theorem walk_of_none (hfolder : s.folderAt? names = none) :
    s.walk container start limit = .ok [] := by
  rw [walk_eq hplace, hfolder]

theorem walk_of_some (hfolder : s.folderAt? names = some inside) :
    s.walk container start limit =
      s.collect container start names limit (.folder [] inside.fault :: inside.sights) := by
  rw [walk_eq hplace, hfolder]

end Begin

theorem within_origin (container start : String) :
    within (origin container start) = Folder.moves (steps (Path.parent start)) :=
  filter_steps _

theorem entriesMet_walk (start : String) (names : List FileName) (inside : Folder) :
    entriesMet start names (.folder [] inside.fault :: inside.sights) =
      (entriesBelow (within names) inside).filter fun e => Text.startsWith start e.key := rfl

/-- A walk without a limit finds files below the folder that its text fully names. -/
theorem exists_of_walk (hwalk : s.walk container start none = .ok found) (he : e ∈ found) :
    ∃ names inside, s.place container (Path.parent start) = .ok names ∧
      s.itemAt names = .ok (.folder inside) ∧
      e ∈ entriesBelow (Folder.moves (steps (Path.parent start))) inside := by
  cases hplace : s.place container (Path.parent start) with
  | error err =>
    rw [walk, hplace] at hwalk
    cases hcheck : s.checkContainer container <;> rw [hcheck] at hwalk <;> cases hwalk
  | ok names =>
    cases hfolder : s.folderAt? names with
    | none =>
      rw [walk_of_none hplace hfolder] at hwalk
      cases hwalk
      cases he
    | some inside =>
      rw [walk_of_some hplace hfolder, collect_none_eq_ok_iff, entriesMet_walk] at hwalk
      obtain ⟨-, rfl⟩ := hwalk
      obtain ⟨-, -, rfl⟩ := place_eq_ok_iff.1 hplace
      refine ⟨_, inside, rfl, folderAt?_eq_some_iff.1 hfolder, ?_⟩
      rw [← within_origin container]
      exact (List.mem_filter.1 he).1

/-- A recursive listing puts what its walk found in order of keys. -/
theorem list_eq_ok_iff : (Store.list container start true s).1 = .ok found ↔
    ∃ unsorted, s.walk container start none = .ok unsorted ∧
      found = unsorted.mergeSort fun a b => a.key ≤ b.key := by
  change s.entries container start true = .ok found ↔ _
  cases hwalk : s.walk container start none with
  | error err => simp [entries, hwalk, bind, Except.bind]
  | ok unsorted => simp [entries, hwalk, bind, Except.bind, pure, Except.pure, eq_comm]

/-! ## Folders without faults -/

/-- From a place on all folders can be read, and the disk takes the paths of the folders and
files. -/
structure Legible (s : DirectoryStore) (names : List FileName) (inside : Folder) : Prop where
  folders : ∀ path f, inside.at? path = some (.folder f) →
    Folder.checkPath (s.pathBytes (names ++ path)) = .ok () ∧ f.fault = none
  files : ∀ path b, inside.at? path = some (.leaf (.file b)) →
    Folder.checkPath (s.pathBytes (names ++ path)) = .ok ()

section Legible

variable {p : Folder.Rule} (hinside : inside.Proper p)

include hinside

theorem Legible.passes (h : s.Legible names inside) (start : String) :
    ∀ x ∈ Sight.folder [] inside.fault :: inside.sights, s.Passes start names x :=
  hinside.forall_sights_iff.2 ⟨fun path f hat => faultAt_eq_none_iff.2 (h.folders path f hat),
    fun path b hat _ => faultAt_eq_none_iff.2 ⟨h.files path b hat, rfl⟩⟩

theorem legible_iff : s.Legible names inside ↔
    ∀ x ∈ Sight.folder [] inside.fault :: inside.sights, s.Passes "" names x := by
  refine ⟨fun h => h.passes hinside "", fun h => ?_⟩
  obtain ⟨hfolders, hfiles⟩ := hinside.forall_sights_iff.1 h
  -- every key starts with the empty text, so that the walk looks at every file
  exact ⟨fun path f hat => faultAt_eq_none_iff.1 (hfolders path f hat), fun path b hat =>
    (faultAt_eq_none_iff.1 (hfiles path b hat (Text.startsWith_empty _))).1⟩

/-- The listing of all objects of a container fails unless everything in its folder is legible. -/
theorem list_empty_eq_ok_iff (hc : s.checkContainer container = .ok ())
    (hitem : s.itemAt [container] = .ok (.folder inside)) :
    (Store.list container "" true s).1 = .ok found ↔ s.Legible [container] inside ∧
      found = (entriesBelow [] inside).mergeSort fun a b => a.key ≤ b.key := by
  have hplace : s.place container (Path.parent "") = .ok [.ofText container] :=
    place_eq_ok_iff.2 ⟨rfl, hc, rfl⟩
  have hall : ((entriesBelow (within [.ofText container]) inside).filter fun e =>
      Text.startsWith "" e.key) = entriesBelow [] inside :=
    List.filter_eq_self.2 fun e _ => Text.startsWith_empty e.key
  have hwalk : s.walk container "" none =
      s.collect container "" [.ofText container] none
        (.folder [] inside.fault :: inside.sights) :=
    walk_of_some hplace (folderAt?_eq_some_iff.2 hitem)
  rw [legible_iff hinside, list_eq_ok_iff]
  simp only [hwalk, collect_none_eq_ok_iff, entriesMet_walk, hall, and_assoc,
    exists_and_left, exists_eq_left]

end Legible

end BlobDepot.DirectoryStore
