import BlobDepot.Folder
import BlobDepot.Proofs.FileName

/-!
# Folders and the places in them

In a folder whose names are file names in increasing order, a walk meets the files and folders that
stand at the places below it, and each of them once.
-/
namespace BlobDepot

def Leaf.isFile : Leaf → Bool
  | .file _ => true
  | _ => false

namespace Sight

def names : Sight → List FileName
  | file names _ => names
  | folder names _ => names

def file? : Sight → Option (List FileName × Blob)
  | file names blob => some (names, blob)
  | folder .. => none

/-- A walk that meets an item meets it so. -/
def IsOf : Sight → Item → Prop
  | file _ blob, .leaf l => l = .file blob
  | folder _ fault, .folder inside => inside.fault = fault
  | _, _ => False

def IsIn (x : Sight) (f : Folder) : Prop :=
  x.names ≠ [] ∧ ∃ item, f.at? x.names = some item ∧ x.IsOf item

@[simp] theorem names_below (n : FileName) (x : Sight) : (x.below n).names = n :: x.names := by
  cases x <;> rfl

@[simp] theorem isOf_below {n : FileName} {x : Sight} {item : Item} :
    (x.below n).IsOf item ↔ x.IsOf item := by
  cases x <;> cases item <;> rfl

theorem below_inj {x y : Sight} {n : FileName} : x.below n = y.below n ↔ x = y := by
  cases x <;> cases y <;> simp [below]

theorem exists_below {x : Sight} {n : FileName} {more : List FileName} (h : x.names = n :: more) :
    ∃ y : Sight, y.names = more ∧ x = y.below n := by
  cases x with
  | file names blob => exact ⟨.file more blob, rfl, congrArg (file · blob) h⟩
  | folder names fault => exact ⟨.folder more fault, rfl, congrArg (folder · fault) h⟩

end Sight

namespace Folder

/-! ## Proper folders -/

def IsFileName (n : FileName) : Prop :=
  (n ≠ "" ∧ 0x2F ∉ n.bytes) ∧ n ≠ "." ∧ n ≠ ".." ∧ 0 ∉ n.bytes ∧ n.bytes.length ≤ maxName

instance (n : FileName) : Decidable (IsFileName n) :=
  inferInstanceAs (Decidable ((_ ∧ _) ∧ _ ∧ _ ∧ _ ∧ _))

/-- What folders may hold all the way down: which items that are no folders, whether names that are
no texts, and whether names that cannot be read. -/
structure Rule where
  leaf : Leaf → Bool
  bytes : Bool := true
  closed : Bool := true

def Rule.Admits (p : Rule) (n : FileName) : Prop :=
  IsFileName n ∧ (p.bytes = true ∨ n.IsText)

instance (p : Rule) (n : FileName) : Decidable (p.Admits n) :=
  inferInstanceAs (Decidable (_ ∧ _))

def names : Folder → List FileName
  | nil _ => []
  | leaf n _ rest => n :: names rest
  | folder n _ rest => n :: names rest

/-- A folder as a disk keeps it: its names are file names in increasing order, and so below. It
keeps a rule. -/
def Proper (p : Rule) : Folder → Prop
  | nil fault => p.closed = true ∨ fault = none
  | leaf n l rest => p.Admits n ∧ (∀ m ∈ rest.names, n < m) ∧ p.leaf l = true ∧ Proper p rest
  | folder n inside rest =>
    p.Admits n ∧ (∀ m ∈ rest.names, n < m) ∧ Proper p inside ∧ Proper p rest

instance decidableProper (p : Rule) : ∀ f : Folder, Decidable (f.Proper p)
  | nil _ => inferInstanceAs (Decidable (_ ∨ _))
  | leaf _ _ rest =>
    have := decidableProper p rest
    inferInstanceAs (Decidable (_ ∧ _ ∧ _ ∧ _))
  | folder _ inside rest =>
    have := decidableProper p inside
    have := decidableProper p rest
    inferInstanceAs (Decidable (_ ∧ _ ∧ _ ∧ _))

/-- Files and folders under texts, all of which can be read. -/
def plain : Rule where
  leaf := Leaf.isFile
  bytes := false
  closed := false

def Plain (f : Folder) : Prop :=
  f.Proper plain

instance (f : Folder) : Decidable f.Plain :=
  inferInstanceAs (Decidable (f.Proper _))

end Folder

def Item.Proper (p : Folder.Rule) : Item → Prop
  | .leaf l => p.leaf l = true
  | .folder inside => inside.Proper p

namespace Folder

variable {p : Rule} {f rest inside : Folder} {name n m : FileName} {item found : Item}
  {l : Leaf} {before path : List FileName} {b : Blob} {x : Sight}

/-! ## An item at a time -/

/-- A folder holds nothing or has an item in front of the others. -/
@[elab_as_elim]
theorem cons_induction {motive : Folder → Prop} (nil : ∀ fault, motive (nil fault))
    (cons : ∀ n found rest, motive rest → motive (cons n found rest)) (f : Folder) : motive f := by
  induction f with
  | nil fault => exact nil fault
  | leaf n l rest ih => exact cons n (.leaf l) rest ih
  | folder n inside rest _ ih => exact cons n (.folder inside) rest ih

theorem find?_cons : (cons n found rest).find? name =
    if n = name then some found else rest.find? name := by
  cases found <;> rfl

@[simp] theorem names_cons : (cons n found rest).names = n :: rest.names := by
  cases found <;> rfl

theorem proper_cons_iff :
    (cons n found rest).Proper p ↔
      p.Admits n ∧ (∀ m ∈ rest.names, n < m) ∧ found.Proper p ∧ rest.Proper p := by
  cases found <;> exact Iff.rfl

theorem mem_names_of_find? (h : f.find? name = some item) : name ∈ f.names := by
  induction f using cons_induction with
  | nil fault => cases h
  | cons n found rest ih =>
    rw [find?_cons] at h
    rw [names_cons, List.mem_cons]
    split at h
    · rename_i hn
      exact .inl hn.symm
    · exact .inr (ih h)

theorem Proper.admits (h : f.Proper p) (hname : name ∈ f.names) : p.Admits name := by
  induction f using cons_induction with
  | nil fault => cases hname
  | cons n found rest ih =>
    obtain ⟨hn, -, -, hrest⟩ := proper_cons_iff.1 h
    rw [names_cons, List.mem_cons] at hname
    rcases hname with rfl | hname
    · exact hn
    · exact ih hrest hname

theorem Proper.find? (h : f.Proper p) (hfind : f.find? name = some item) : item.Proper p := by
  induction f using cons_induction with
  | nil fault => cases hfind
  | cons n found rest ih =>
    obtain ⟨-, -, hfound, hrest⟩ := proper_cons_iff.1 h
    rw [find?_cons] at hfind
    split at hfind
    · obtain rfl := Option.some.inj hfind
      exact hfound
    · exact ih hrest hfind

theorem Proper.fault_eq_none (h : f.Proper p) (hp : p.closed = false) : f.fault = none := by
  induction f with
  | nil fault => exact h.resolve_left (by simp [hp])
  | leaf n l rest ih => exact ih h.2.2.2
  | folder n inside rest _ ih => exact ih h.2.2.2

/-! ## Places -/

@[simp] theorem at?_nil (f : Folder) : f.at? [] = some (.folder f) := rfl

theorem at?_cons (f : Folder) (name : FileName) (path : List FileName) :
    f.at? (name :: path) =
      match f.find? name with
      | some (.folder inside) => inside.at? path
      | found => if path = [] then found else none := rfl

theorem at?_cons_of_leaf (h : f.find? name = some (.leaf l)) (path : List FileName) :
    f.at? (name :: path) = if path = [] then some (.leaf l) else none := by
  rw [at?_cons, h]

theorem at?_cons_of_folder (h : f.find? name = some (.folder inside)) (path : List FileName) :
    f.at? (name :: path) = inside.at? path := by
  rw [at?_cons, h]

theorem at?_cons_of_none (h : f.find? name = none) (path : List FileName) :
    f.at? (name :: path) = none := by
  rw [at?_cons, h]
  exact ite_self none

/-- What stands below a folder is found from the folder. -/
theorem at?_append (h : f.at? before = some (.folder inside)) (path : List FileName) :
    f.at? (before ++ path) = inside.at? path := by
  induction before generalizing f with
  | nil =>
    cases h
    rfl
  | cons name before ih =>
    cases hfind : f.find? name with
    | none =>
      rw [at?_cons_of_none hfind] at h
      cases h
    | some found =>
      cases found with
      | leaf l =>
        rw [at?_cons_of_leaf hfind] at h
        split at h <;> cases h
      | folder inside' =>
        rw [at?_cons_of_folder hfind] at h
        rw [List.cons_append, at?_cons_of_folder hfind, ih h]

/-- Whatever stands somewhere stands in folders. -/
theorem exists_folder_of_at? (h : f.at? (before ++ path) = some item) (hpath : path ≠ []) :
    ∃ inside, f.at? before = some (.folder inside) ∧ inside.at? path = some item := by
  induction before generalizing f with
  | nil => exact ⟨f, rfl, h⟩
  | cons name before ih =>
    rw [List.cons_append] at h
    cases hfind : f.find? name with
    | none =>
      rw [at?_cons_of_none hfind] at h
      cases h
    | some found =>
      cases found with
      | leaf l =>
        rw [at?_cons_of_leaf hfind, if_neg (by simp [hpath])] at h
        cases h
      | folder inside' =>
        rw [at?_cons_of_folder hfind] at h ⊢
        exact ih h

theorem Proper.at? (h : f.Proper p) (hat : f.at? path = some item) :
    (∀ name ∈ path, p.Admits name) ∧ item.Proper p := by
  induction path generalizing f with
  | nil =>
    cases hat
    exact ⟨nofun, h⟩
  | cons name path ih =>
    cases hfind : f.find? name with
    | none =>
      rw [at?_cons_of_none hfind] at hat
      cases hat
    | some found =>
      have hname : p.Admits name := h.admits (mem_names_of_find? hfind)
      have hfound : found.Proper p := h.find? hfind
      cases found with
      | leaf l =>
        rw [at?_cons_of_leaf hfind] at hat
        split at hat
        · rename_i hpath
          obtain rfl := Option.some.inj hat
          exact ⟨by simpa [hpath] using hname, hfound⟩
        · cases hat
      | folder inside =>
        rw [at?_cons_of_folder hfind] at hat
        obtain ⟨hnames, hitem⟩ := ih hfound hat
        exact ⟨List.forall_mem_cons.2 ⟨hname, hnames⟩, hitem⟩

theorem Proper.isFileName (h : f.Proper p) (hat : f.at? path = some item) :
    ∀ n ∈ path, IsFileName n :=
  fun n hn => ((h.at? hat).1 n hn).1

/-! ## Walks -/

theorem mem_sights_leaf :
    x ∈ (leaf n l rest).sights ↔ x.names = [n] ∧ x.IsOf (.leaf l) ∨ x ∈ rest.sights := by
  cases x <;> cases l <;> simp [sights, Sight.names, Sight.IsOf, eq_comm]

theorem mem_sights_folder :
    x ∈ (folder n inside rest).sights ↔
      x.names = [n] ∧ x.IsOf (.folder inside) ∨ (∃ y ∈ inside.sights, x = y.below n) ∨
        x ∈ rest.sights := by
  cases x <;> simp [sights, Sight.below, Sight.names, Sight.IsOf, eq_comm]

theorem exists_cons_of_mem_sights (h : x ∈ f.sights) :
    ∃ n ∈ f.names, ∃ more, x.names = n :: more := by
  induction f with
  | nil fault => cases h
  | leaf n l rest ih =>
    rcases mem_sights_leaf.1 h with ⟨hx, -⟩ | h
    · exact ⟨n, List.mem_cons_self, [], hx⟩
    · obtain ⟨m, hm, heq⟩ := ih h
      exact ⟨m, List.mem_cons_of_mem _ hm, heq⟩
  | folder n inside rest _ ih =>
    rcases mem_sights_folder.1 h with ⟨hx, -⟩ | ⟨y, -, rfl⟩ | h
    · exact ⟨n, List.mem_cons_self, [], hx⟩
    · exact ⟨n, List.mem_cons_self, y.names, y.names_below n⟩
    · obtain ⟨m, hm, heq⟩ := ih h
      exact ⟨m, List.mem_cons_of_mem _ hm, heq⟩

theorem not_mem_sights_of_lt (h : ∀ m ∈ f.names, name < m) (hx : x.names = name :: path) :
    x ∉ f.sights := by
  intro hmem
  obtain ⟨m, hm, more, heq⟩ := exists_cons_of_mem_sights hmem
  obtain ⟨rfl, -⟩ := List.cons.inj (hx.symm.trans heq)
  exact FileName.lt_irrefl name (h name hm)

theorem isIn_rest_iff (found : Item) (hx : x.names = name :: path) (hn : n ≠ name) :
    x.IsIn (cons n found rest) ↔ x.IsIn rest := by
  rw [Sight.IsIn, Sight.IsIn, hx, at?_cons, at?_cons, find?_cons, if_neg hn]

/-- A walk through a proper folder meets what stands below it. -/
theorem Proper.mem_sights_iff (h : f.Proper p) : x ∈ f.sights ↔ x.IsIn f := by
  induction f generalizing x with
  | nil fault =>
    refine iff_of_false nofun ?_
    rintro ⟨hne, item, hat, -⟩
    obtain ⟨name, more, hx⟩ := List.exists_cons_of_ne_nil hne
    rw [hx, at?_cons_of_none rfl] at hat
    cases hat
  | leaf n l rest ih =>
    obtain ⟨-, hlt, -, hrest⟩ := h
    rw [mem_sights_leaf, ih hrest]
    cases hx : x.names with
    | nil => simp [Sight.IsIn, hx]
    | cons m more =>
      by_cases hm : n = m
      · subst hm
        have hfind : (leaf n l rest).find? n = some (.leaf l) := by simp [Folder.find?]
        rw [← ih hrest, or_iff_left (not_mem_sights_of_lt hlt hx), Sight.IsIn, hx,
          at?_cons_of_leaf hfind]
        by_cases hmore : more = [] <;> simp [hmore]
      · have hhere : ¬ (m :: more = [n] ∧ x.IsOf (.leaf l)) := by simp [Ne.symm hm]
        rw [or_iff_right hhere]
        exact (isIn_rest_iff (.leaf l) hx hm).symm
  | folder n inside rest ihinside ih =>
    obtain ⟨-, hlt, hinside, hrest⟩ := h
    rw [mem_sights_folder, ih hrest]
    -- the rest of the folder has other names, so the first name tells where to look
    by_cases hhere : ∃ more, x.names = n :: more
    · obtain ⟨more, hx⟩ := hhere
      obtain ⟨y, rfl, rfl⟩ := Sight.exists_below hx
      have hfind : (folder n inside rest).find? n = some (.folder inside) := by simp [Folder.find?]
      have hbelow : (∃ y' ∈ inside.sights, y.below n = y'.below n) ↔ y ∈ inside.sights := by
        simp only [Sight.below_inj, exists_eq_right']
      rw [← ih hrest, or_iff_left (not_mem_sights_of_lt hlt hx), hbelow, ihinside hinside,
        Sight.IsIn, Sight.IsIn, hx, at?_cons_of_folder hfind]
      by_cases hy : y.names = [] <;> simp [hy]
    · have hnone : ¬ (x.names = [n] ∧ x.IsOf (.folder inside)) := fun h => hhere ⟨[], h.1⟩
      have hnone' : ¬ ∃ y ∈ inside.sights, x = y.below n := by
        rintro ⟨y, -, rfl⟩
        exact hhere ⟨y.names, y.names_below n⟩
      rw [or_iff_right hnone, or_iff_right hnone']
      cases hx : x.names with
      | nil => simp [Sight.IsIn, hx]
      | cons m more =>
        have hm : n ≠ m := fun heq => hhere ⟨more, heq ▸ hx⟩
        exact (isIn_rest_iff (.folder inside) hx hm).symm

/-- A walk from a proper folder meets that folder, the folders below it and the files below it. -/
theorem Proper.forall_sights_iff {P : Sight → Prop} (h : f.Proper p) :
    (∀ x ∈ Sight.folder [] f.fault :: f.sights, P x) ↔
      (∀ path inside, f.at? path = some (.folder inside) → P (.folder path inside.fault)) ∧
        ∀ path b, f.at? path = some (.leaf (.file b)) → P (.file path b) := by
  constructor
  · refine fun hall => ⟨fun path inside hat => hall _ ?_, fun path b hat => hall _ ?_⟩
    · by_cases hpath : path = []
      · subst hpath
        obtain rfl : f = inside := by simpa using hat
        exact List.mem_cons_self
      · exact List.mem_cons_of_mem _ (h.mem_sights_iff.2 ⟨hpath, _, hat, rfl⟩)
    · have hpath : path ≠ [] := by
        rintro rfl
        cases hat
      exact List.mem_cons_of_mem _ (h.mem_sights_iff.2 ⟨hpath, _, hat, rfl⟩)
  · rintro ⟨hfolders, hfiles⟩
    refine List.forall_mem_cons.2 ⟨hfolders [] f rfl, fun x hx => ?_⟩
    obtain ⟨-, item, hat, hitem⟩ := h.mem_sights_iff.1 hx
    cases x with
    | folder path fault =>
      cases item with
      | leaf l => cases hitem
      | folder inside =>
        obtain rfl : inside.fault = fault := hitem
        exact hfolders path inside hat
    | file path b =>
      cases item with
      | leaf l =>
        obtain rfl : l = .file b := hitem
        exact hfiles path b hat
      | folder inside => cases hitem

theorem Proper.nodup_sights (h : f.Proper p) : (f.sights.map Sight.names).Nodup := by
  induction f with
  | nil fault => exact List.nodup_nil
  | leaf n l rest ih =>
    obtain ⟨-, hlt, -, hrest⟩ := h
    cases l with
    | file blob =>
      refine List.nodup_cons.2 ⟨fun hmem => ?_, ih hrest⟩
      obtain ⟨x, hmem, hx⟩ := List.mem_map.1 hmem
      exact not_mem_sights_of_lt hlt hx hmem
    | link path => exact ih hrest
    | device => exact ih hrest
  | folder n inside rest ihinside ih =>
    obtain ⟨-, hlt, hinside, hrest⟩ := h
    have hbelow : ∀ l : List Sight, (l.map (Sight.below n)).map Sight.names =
        (l.map Sight.names).map (n :: ·) := fun l => by simp [Function.comp_def]
    have hself : [] ∉ inside.sights.map Sight.names := fun hmem => by
      obtain ⟨x, hx, hnil⟩ := List.mem_map.1 hmem
      exact ((hinside.mem_sights_iff).1 hx).1 hnil
    have hinjective : ∀ path path' : List FileName, path ≠ path' → n :: path ≠ n :: path' :=
      fun _ _ hne heq => hne (List.cons.inj heq).2
    rw [sights, List.map_append, hbelow]
    refine List.nodup_append.2 ⟨List.Pairwise.map _ hinjective
      (List.nodup_cons.2 ⟨hself, ihinside hinside⟩), ih hrest, ?_⟩
    rintro path hleft other hright rfl
    obtain ⟨more, -, rfl⟩ := List.mem_map.1 hleft
    obtain ⟨x, hmem, hx⟩ := List.mem_map.1 hright
    exact not_mem_sights_of_lt hlt hx hmem

/-! ## Files -/

/-- The files below a folder with the names on the way to each. -/
def files (f : Folder) : List (List FileName × Blob) :=
  f.sights.filterMap Sight.file?

/-- The files below a proper folder are what stands at their places. -/
theorem Proper.mem_files_iff (h : f.Proper p) :
    (path, b) ∈ f.files ↔ f.at? path = some (.leaf (.file b)) := by
  have hsight : ∀ x : Sight, x.file? = some (path, b) ↔ x = .file path b := by
    intro x
    cases x <;> simp [Sight.file?]
  rw [files, List.mem_filterMap]
  simp only [hsight, exists_eq_right, h.mem_sights_iff]
  constructor
  · rintro ⟨-, item, hat, hitem⟩
    cases item with
    | leaf l => exact hat.trans (congrArg (some ∘ Item.leaf) hitem)
    | folder inside => cases hitem
  · intro hat
    refine ⟨?_, _, hat, rfl⟩
    rintro rfl
    cases hat

theorem Proper.nodup_files (h : f.Proper p) : (f.files.map Prod.fst).Nodup := by
  have hsights := List.pairwise_map.1 h.nodup_sights
  refine List.pairwise_map.2 (List.pairwise_filterMap.2 (hsights.imp ?_))
  rintro x y hne ⟨path, b⟩ hx ⟨path', b'⟩ hy heq
  cases x <;> cases hx
  cases y <;> cases hy
  exact hne heq

theorem Plain.isText_of_mem_files (h : f.Plain) :
    ∀ file ∈ f.files, ∀ n ∈ file.1, n.IsText := fun _ hfile n hn =>
  ((Proper.at? h ((Proper.mem_files_iff h).1 hfile)).1 n hn).2.resolve_left nofun

theorem Plain.exists_file (h : f.Plain) (hat : f.at? path = some (.leaf l)) :
    ∃ b, l = .file b := by
  have hfile : l.isFile = true := (Proper.at? h hat).2
  cases l with
  | file b => exact ⟨b, rfl⟩
  | link path => cases hfile
  | device => cases hfile

end Folder
end BlobDepot
