import BlobDepot.Proofs.Catalog
import BlobDepot.Proofs.Folder.Changes
import BlobDepot.Proofs.Store.Layout
import Mathlib.Data.List.Induction

/-!
# Putting objects into a directory

A put makes the folders on the way to an object, which adds no file, and writes the object at the
end of it. So a container goes on to hold exactly its objects, and every layout of objects whose
keys are made of file names, none of them leading to another, is held by some directory.
-/
namespace BlobDepot

namespace Folder

variable {root inside g : Folder} {name : FileName} {place way path dirs : List FileName} {l : Leaf}

/-! ## Folders on the way -/

/-- A folder is another one with folders made on a way, and nothing else. -/
structure Widens (inside : Folder) (way : List FileName) (g : Folder) : Prop where
  plain : g.Plain
  files : ∀ path b, g.at? path = some (.leaf (.file b)) ↔ inside.at? path = some (.leaf (.file b))
  places : ∀ path, (g.at? path).isSome → (inside.at? path).isSome ∨ path <+: way ∧ path ≠ way

theorem Widens.not_blocked (h : inside.Widens way g) (hblocked : ¬ inside.Blocked way) :
    ¬ g.Blocked way := by
  rintro ⟨before, after, l, hway, hafter, hat⟩
  obtain ⟨b, rfl⟩ := h.plain.exists_file hat
  exact hblocked ⟨before, after, _, hway, hafter, (h.files before b).1 hat⟩

/-- The end of the way is not among the folders that were made. -/
theorem Widens.ne_folder (h : inside.Widens way g) (hplain : inside.Plain)
    (hfolder : ∀ f, inside.at? way ≠ some (.folder f)) (f : Folder) :
    g.at? way ≠ some (.folder f) := by
  intro hf
  rcases h.places way (by simp [hf]) with hold | hway
  · obtain ⟨item, hat⟩ := Option.isSome_iff_exists.1 hold
    cases item with
    | folder f' => exact hfolder f' hat
    | leaf l =>
      obtain ⟨b, rfl⟩ := hplain.exists_file hat
      rw [(h.files _ b).2 hat] at hf
      cases hf
  · exact hway.2 rfl

theorem Widens.putAt {g' : Folder} (h : inside.Widens way g) (hplain : g'.Plain)
    (hput : PutAt (.folder empty) dirs g g') (hdirs : dirs <+: way) (hproper : dirs ≠ way)
    (hblocked : ¬ g.Blocked dirs) (hnew : g.at? dirs = none) : inside.Widens way g' := by
  have hempty : ∀ more, more ≠ [] → (Item.folder empty).at? more = none :=
    fun more hmore => at?_empty_of_ne_nil hmore
  refine ⟨hplain, fun path b => ?_, fun path hpath => ?_⟩
  · rw [← h.files]
    by_cases hpath : path = dirs
    · have hhere : g'.at? dirs = some (.folder empty) := by
        have hbelow := hput.below []
        rwa [List.append_nil] at hbelow
      simp [hpath, hhere, hnew]
    · exact hput.at?_eq_leaf_iff hempty hblocked (by simp [hnew]) hpath
  · rcases hput.isSome_or_prefix hempty hpath with hold | hway
    · exact h.places path hold
    · refine .inr ⟨hway.trans hdirs, ?_⟩
      rintro rfl
      exact hproper (hdirs.eq_of_length_le hway.length_le)

/-! ## Places of writes -/

section Below

variable {p : Rule} (hat : root.at? (place ++ [name]) = some (.folder g))
  (hname : IsFileName name) (hg : g.Proper p) (hlink : ∀ target, p.leaf (.link target) = false)
  (hnames : ∀ n ∈ path, IsFileName n)

include hat hname hg hlink hnames

theorem namePlace_below (hpath : path ≠ []) :
    root.namePlace place (name :: path) = place ++ name :: path := by
  have hlast : (name :: path).getLast? = some (path.getLast hpath) := by
    rw [List.getLast?_cons, List.getLast?_eq_some_getLast hpath, Option.getD_some]
  rw [namePlace, List.dropLast_cons_of_ne_nil hpath, hlast]
  cases hlocate : locate root false maxLinks place (name :: path.dropLast) with
  | error fault => rfl
  | ok reached =>
    have hdrop : ∀ n ∈ path.dropLast, IsFileName n := fun n hn =>
      hnames n ((List.dropLast_sublist path).subset hn)
    have hup : (".." : FileName) ∉ path.dropLast := fun hmem => (hdrop ".." hmem).2.2.1 rfl
    have hreached := eq_of_locate hat hname hg hlink hup hlocate
    rw [moves_eq_self fun n hn => ⟨(hdrop n hn).1.1, (hdrop n hn).2.1⟩] at hreached
    simp only [hreached, List.append_assoc, List.cons_append, List.dropLast_concat_getLast hpath]

theorem writePlace_below (hpath : path ≠ []) :
    root.writePlace place (name :: path) = place ++ name :: path := by
  rw [writePlace]
  cases hlocate : locate root true maxLinks place (name :: path) with
  | error fault => exact namePlace_below hat hname hg hlink hnames hpath
  | ok reached =>
    have hup : (".." : FileName) ∉ path := fun hmem => (hnames ".." hmem).2.2.1 rfl
    have hreached := eq_of_locate hat hname hg hlink hup hlocate
    rwa [moves_eq_self fun n hn => ⟨(hnames n hn).1.1, (hnames n hn).2.1⟩] at hreached

end Below

/-! ## Changes below a folder -/

theorem Blocked.of_prefix (h : g.Blocked dirs) (hdirs : dirs <+: way) : g.Blocked way := by
  obtain ⟨before, after, l, rfl, hafter, hat⟩ := h
  obtain ⟨more, rfl⟩ := hdirs
  exact ⟨before, after ++ more, l, List.append_assoc .., by simp [hafter], hat⟩

section Changes

variable (hname : IsFileName name) (hnames : ∀ n ∈ way, plain.Admits n)

include hname hnames

theorem makeFolder_below (hat : root.at? (place ++ [name]) = some (.folder g))
    (hwidens : inside.Widens way g) (hblocked : ¬ g.Blocked way) (hdirs : dirs <+: way)
    (hproper : dirs ≠ way) :
    ∃ g', (if (root.folder? place (name :: dirs)).isSome then root
        else (putAt (.folder empty) (root.namePlace place (name :: dirs)) root).getD root).at?
          (place ++ [name]) = some (.folder g') ∧ inside.Widens way g' := by
  have hadmits : ∀ n ∈ dirs, plain.Admits n := fun n hn => hnames n (hdirs.subset hn)
  have hdirnames : ∀ n ∈ dirs, IsFileName n := fun n hn => (hadmits n hn).1
  have hlookup : root.lookup place (name :: dirs) = g.descend dirs :=
    lookup_below hat hname hwidens.plain (fun _ => rfl) fun hmem => (hdirnames ".." hmem).2.2.1 rfl
  have hfound : ∀ f, g.at? dirs = some (.folder f) →
      (root.folder? place (name :: dirs)).isSome := by
    intro f hf
    rw [folder?, hlookup, Proper.descend_of_at? hwidens.plain hf]
    rfl
  by_cases hthere : (root.folder? place (name :: dirs)).isSome
  · rw [if_pos hthere]
    exact ⟨g, hat, hwidens⟩
  rw [if_neg hthere]
  have hne : dirs ≠ [] := by
    rintro rfl
    exact hthere (hfound g rfl)
  have hnew : g.at? dirs = none := by
    cases hitem : g.at? dirs with
    | none => rfl
    | some item =>
      cases item with
      | folder f => exact absurd (hfound f hitem) hthere
      | leaf l =>
        obtain ⟨after, hafter⟩ := hdirs
        refine absurd ⟨dirs, after, l, hafter.symm, ?_, hitem⟩ hblocked
        rintro rfl
        exact hproper (by rw [← hafter, List.append_nil])
  have hfree : ¬ g.Blocked dirs := fun h => hblocked (h.of_prefix hdirs)
  obtain ⟨g', hput, hputAt, hplain⟩ := exists_putAt (.folder empty) hne hfree
  obtain ⟨root', hroot', hat'⟩ := putAt_append hat hne hput
  rw [namePlace_below hat hname hwidens.plain (fun _ => rfl) hdirnames hne,
    List.append_cons place name dirs, hroot', Option.getD_some]
  have hplain' := hplain hwidens.plain (.inr rfl) hadmits
  exact ⟨g', hat', hwidens.putAt hplain' hputAt hdirs hproper hfree hnew⟩

/-- Folders on a way are made one after the other. -/
theorem foldl_makeFolder_below {paths : List (List FileName)} (hblocked : ¬ inside.Blocked way)
    (hpaths : ∀ path ∈ paths, ∃ dirs, path = name :: dirs ∧ dirs <+: way ∧ dirs ≠ way)
    (hat : root.at? (place ++ [name]) = some (.folder g)) (hwidens : inside.Widens way g) :
    ∃ g', (paths.foldl (fun root path =>
        if (root.folder? place path).isSome then root
        else (putAt (.folder empty) (root.namePlace place path) root).getD root) root).at?
          (place ++ [name]) = some (.folder g') ∧ inside.Widens way g' := by
  induction paths generalizing root g with
  | nil => exact ⟨g, hat, hwidens⟩
  | cons path paths ih =>
    obtain ⟨⟨dirs, rfl, hdirs, hproper⟩, hrest⟩ := List.forall_mem_cons.1 hpaths
    obtain ⟨g', hat', hwidens'⟩ := makeFolder_below hname hnames hat hwidens
      (hwidens.not_blocked hblocked) hdirs hproper
    exact ih hrest hat' hwidens'

theorem makeFolders_below (hat : root.at? (place ++ [name]) = some (.folder inside))
    (hplain : inside.Plain) (hblocked : ¬ inside.Blocked way) (hdirs : dirs <+: way)
    (hproper : dirs ≠ way) :
    ∃ g, (root.makeFolders place (name :: dirs)).at? (place ++ [name]) = some (.folder g) ∧
      inside.Widens way g := by
  have hself : inside.Widens way inside := ⟨hplain, fun _ _ => Iff.rfl, fun _ h => .inl h⟩
  refine foldl_makeFolder_below hname hnames hblocked (fun path hpath => ?_) hat hself
  obtain ⟨n, -, rfl⟩ := List.mem_map.1 hpath
  refine ⟨dirs.take n, rfl, (List.take_prefix n dirs).trans hdirs, fun heq => hproper ?_⟩
  exact hdirs.eq_of_length_le (heq ▸ (List.take_prefix n dirs).length_le)

theorem write_below (hat : root.at? (place ++ [name]) = some (.folder g)) (hplain : g.Plain)
    (hway : way ≠ []) (hblocked : ¬ g.Blocked way) (blob : Blob) :
    ∃ g', (root.write place (name :: way) blob).at? (place ++ [name]) = some (.folder g') ∧
      PutAt (.leaf (.file blob)) way g g' ∧ g'.Plain := by
  obtain ⟨g', hput, hputAt, hproper⟩ := exists_putAt (.leaf (.file blob)) hway hblocked
  obtain ⟨root', hroot', hat'⟩ := putAt_append hat hway hput
  refine ⟨g', ?_, hputAt, hproper hplain rfl hnames⟩
  have hdevice : root.at? (place ++ [name] ++ way) ≠ some (.leaf .device) := by
    rw [at?_append hat]
    intro hitem
    obtain ⟨b, hb⟩ := hplain.exists_file hitem
    cases hb
  rw [write, writePlace_below hat hname hplain (fun _ => rfl) (fun n hn => (hnames n hn).1) hway,
    List.append_cons place name way, hroot']
  split
  · rename_i hitem
    exact absurd hitem hdevice
  · exact hat'

end Changes

end Folder

/-! ## Puts -/

namespace DirectoryStore

open Folder (IsFileName)

variable {s : DirectoryStore} {container key : String} {inside : Folder}
  {objects objects' : Catalog Blob}

theorem pathBytes_mono {names names' : List FileName} (h : names <+: names') :
    s.pathBytes names <+: s.pathBytes names' := by
  obtain ⟨more, rfl⟩ := h
  rw [pathBytes, pathBytes, List.foldl_append]
  generalize names.foldl _ (Text.bytes s.root) = path
  induction more generalizing path with
  | nil => exact List.prefix_refl path
  | cons name more ih =>
    rw [List.foldl_cons]
    refine List.IsPrefix.trans ?_ (ih _)
    split <;> exact List.prefix_append ..

theorem checkPath_of_prefix {names names' : List FileName} (h : names <+: names')
    (hfits : Folder.checkPath (s.pathBytes names') = .ok ()) :
    Folder.checkPath (s.pathBytes names) = .ok () :=
  Folder.checkPath_of_prefix (pathBytes_mono h) hfits

theorem way_eq (hcontainer : IsFileName container)
    (hnames : ∀ n ∈ Path.names key, IsFileName n) :
    way container key = .ofText container :: Path.names key := by
  have hone : Path.names container = [.ofText container] :=
    Path.names_of_not_hasSlash (FileName.hasSlash_eq_false_iff.2 hcontainer.1.2)
  rw [way, steps_eq_names fun h => (hnames "" h).1.1 rfl, steps_eq_names, hone]
  · rfl
  · simpa [hone] using hcontainer.1.1.symm

theorem Holds.congr (h : s.Holds container inside objects)
    (heq : ∀ key, objects.get? key = objects'.get? key) : s.Holds container inside objects' :=
  ⟨h.isName, h.found, h.plain, fun key => by rw [h.data, heq], h.fits⟩

@[simp] theorem pathBytes_put (s : DirectoryStore) (container key : String) (blob : Blob)
    (names : List FileName) : (s.put container key blob).pathBytes names = s.pathBytes names := by
  simp only [DirectoryStore.put, withFolders, pathBytes]

@[simp] theorem home_put (s : DirectoryStore) (container key : String) (blob : Blob) :
    (s.put container key blob).home = s.home := by
  simp only [DirectoryStore.put, withFolders]

/-- Once an object has been put where there is room for it, the container holds it besides the
others, and has no places but the old ones and those on the way to the object. -/
theorem Holds.put (h : s.Holds container inside objects)
    (hplace : s.disk.at? (s.home ++ [.ofText container]) = some (.folder inside))
    (hcontainer : IsFileName container) (hnames : ∀ n ∈ Path.names key, IsFileName n)
    (hfits : Folder.checkPath (s.pathBytes (container :: Path.names key)) = .ok ())
    (hblocked : ¬ inside.Blocked (Path.names key))
    (hfolder : ∀ f, inside.at? (Path.names key) ≠ some (.folder f)) (blob : Blob) :
    ∃ g, (s.put container key blob).disk.at? (s.home ++ [.ofText container]) = some (.folder g) ∧
      (s.put container key blob).Holds container g (objects.insert key blob) ∧
      ∀ path, (g.at? path).isSome → (inside.at? path).isSome ∨ path <+: Path.names key := by
  have hne : Path.names key ≠ [] := Path.names_ne_nil key
  have hproper : (Path.names key).dropLast ≠ Path.names key := by
    intro heq
    have hlength := congrArg List.length heq
    have hpos := List.length_pos_iff.2 hne
    rw [List.length_dropLast] at hlength
    omega
  have hadmits : ∀ n ∈ Path.names key, Folder.plain.Admits n := fun n hn =>
    ⟨hnames n hn, .inr (Path.isText_of_mem_names hn)⟩
  obtain ⟨g, hg, hwidens⟩ := Folder.makeFolders_below hcontainer hadmits hplace h.plain hblocked
    (List.dropLast_prefix _) hproper
  obtain ⟨g', hg', hput, hplain⟩ := Folder.write_below hcontainer hadmits hg hwidens.plain hne
    (hwidens.not_blocked hblocked) blob
  have hdisk : (s.put container key blob).disk.at? (s.home ++ [.ofText container]) =
      some (.folder g') := by
    rw [DirectoryStore.put, withFolders, way_eq hcontainer hnames, List.dropLast_cons_of_ne_nil hne]
    exact hg'
  have hleaf : ∀ more, more ≠ [] → (Item.leaf (.file blob)).at? more = none :=
    fun more hmore => if_neg hmore
  have hplaces : ∀ path, (g'.at? path).isSome →
      (inside.at? path).isSome ∨ path <+: Path.names key := by
    intro path hpath
    rcases hput.isSome_or_prefix hleaf hpath with hold | hway
    · exact (hwidens.places path hold).imp_right And.left
    · exact .inr hway
  refine ⟨g', hdisk, ⟨h.isName, ?_, hplain, fun key' => ?_, fun path hpath => ?_⟩, hplaces⟩
  · rw [folderAt?_eq_some_iff, itemAt_eq_ok_iff, pathBytes_put, home_put]
    refine ⟨(itemAt_eq_ok_iff.1 (folderAt?_eq_some_iff.1 h.found)).1, ?_⟩
    exact Folder.lookup_below hdisk hcontainer hplain (fun _ => rfl) (List.not_mem_nil)
  · rw [Catalog.get?_insert]
    by_cases hkey : key' = key
    · have hhere : g'.at? (Path.names key) = some (.leaf (.file blob)) := by
        have hbelow := hput.below []
        rwa [List.append_nil] at hbelow
      rw [if_pos hkey, hkey, Folder.dataAt, hhere, Option.map_some]
    · have hother : Path.names key' ≠ Path.names key := mt Path.names_inj.1 hkey
      have hfiles : ∀ b, g'.at? (Path.names key') = some (.leaf (.file b)) ↔
          inside.at? (Path.names key') = some (.leaf (.file b)) := fun b =>
        (hput.at?_eq_leaf_iff hleaf (hwidens.not_blocked hblocked)
          (hwidens.ne_folder h.plain hfolder) hother).trans (hwidens.files _ b)
      rw [if_neg hkey, ← h.data]
      ext data
      rw [Folder.dataAt_eq_some_iff, Folder.dataAt_eq_some_iff]
      simp only [hfiles]
  · rw [pathBytes_put]
    rcases hplaces path hpath with hold | hway
    · exact h.fits path hold
    · exact checkPath_of_prefix ((List.prefix_cons_inj (.ofText container)).2 hway) hfits

/-! ## Layouts -/

/-- What a store of either kind can hold: the segments of the keys are file names, and those of one
key do not lead to another key. -/
structure IsLayout (objects : Catalog Blob) : Prop where
  names : ∀ key b, objects.get? key = some b → ∀ n ∈ Path.names key, IsFileName n
  apart : ∀ key b key' b', objects.get? key = some b → objects.get? key' = some b' →
    Path.names key <+: Path.names key' → key = key'

instance (objects : Catalog Blob) : Decidable (IsLayout objects) :=
  decidable_of_iff
    ((∀ o ∈ objects.entries, ∀ n ∈ Path.names o.1, IsFileName n) ∧
      ∀ o ∈ objects.entries, ∀ o' ∈ objects.entries,
        Path.names o.1 <+: Path.names o'.1 → o.1 = o'.1)
    ⟨fun h => ⟨fun key b hb => h.1 (key, b) (Catalog.get?_eq_some_iff.1 hb),
        fun key b key' b' hb hb' => h.2 (key, b) (Catalog.get?_eq_some_iff.1 hb) (key', b')
          (Catalog.get?_eq_some_iff.1 hb')⟩,
      fun h => ⟨fun o ho => h.names o.1 o.2 (Catalog.get?_eq_some_iff.2 ho),
        fun o ho o' ho' => h.apart o.1 o.2 o'.1 o'.2 (Catalog.get?_eq_some_iff.2 ho)
          (Catalog.get?_eq_some_iff.2 ho')⟩⟩

theorem IsLayout.of_get? (h : IsLayout objects)
    (hsome : ∀ key b, objects'.get? key = some b → objects.get? key = some b) :
    IsLayout objects' :=
  ⟨fun key b hb => h.names key b (hsome key b hb), fun key b key' b' hb hb' =>
    h.apart key b key' b' (hsome key b hb) (hsome key' b' hb')⟩

/-- A container in the directory itself holds these objects, and no folders but those on the way to
them. -/
structure Filled (s : DirectoryStore) (container : String) (inside : Folder)
    (objects : Catalog Blob) : Prop where
  place : s.disk.at? (s.home ++ [.ofText container]) = some (.folder inside)
  holds : s.Holds container inside objects
  places : ∀ path, (inside.at? path).isSome →
    path = [] ∨ ∃ key b, objects.get? key = some b ∧ path <+: Path.names key

theorem Filled.congr (h : s.Filled container inside objects)
    (heq : ∀ key, objects.get? key = objects'.get? key) : s.Filled container inside objects' :=
  ⟨h.place, h.holds.congr heq, fun path hpath => by simpa only [heq] using h.places path hpath⟩

theorem filled_empty (hplace : s.disk.at? (s.home ++ [.ofText container]) = some (.folder .empty))
    (hcontainer : IsFileName container)
    (hroot : Folder.checkPath (s.pathBytes [container]) = .ok ()) :
    s.Filled container .empty .empty := by
  have hnone : ∀ path, path ≠ [] → Folder.empty.at? path = none :=
    fun path => Folder.at?_empty_of_ne_nil
  refine ⟨hplace, ⟨?_, ?_, .inr rfl, fun key => ?_, fun path hpath => ?_⟩, fun path hpath => ?_⟩
  · have hne : ∀ other : String, FileName.ofText container ≠ .ofText other → container ≠ other :=
      fun other => mt (congrArg FileName.ofText)
    exact isContainerName_iff.2 ⟨hne "" hcontainer.1.1,
      FileName.hasSlash_eq_false_iff.2 hcontainer.1.2, hne ".." hcontainer.2.2.1⟩
  · rw [folderAt?_eq_some_iff, itemAt_eq_ok_iff]
    exact ⟨hroot, Folder.lookup_below (p := Folder.plain) hplace hcontainer (.inr rfl)
      (fun _ => rfl) List.not_mem_nil⟩
  · rw [Folder.dataAt, hnone _ (Path.names_ne_nil key)]
    rfl
  · by_cases hnil : path = []
    · rw [hnil]
      exact hroot
    · rw [hnone path hnil] at hpath
      cases hpath
  · refine .inl (Decidable.not_not.1 fun hnil => ?_)
    rw [hnone path hnil] at hpath
    cases hpath

theorem Filled.put (h : s.Filled container inside objects) (hcontainer : IsFileName container)
    {blob : Blob} (hlayout : IsLayout (objects.insert key blob))
    (hfits : Folder.checkPath (s.pathBytes (container :: Path.names key)) = .ok ()) :
    ∃ g, (s.put container key blob).Filled container g (objects.insert key blob) := by
  have hself : (objects.insert key blob).get? key = some blob := by
    rw [Catalog.get?_insert, if_pos rfl]
  have hstored : ∀ key' b, objects.get? key' = some b → ∃ b', (objects.insert key blob).get? key' =
      some b' := by
    intro key' b hb
    rw [Catalog.get?_insert]
    split
    · exact ⟨blob, rfl⟩
    · exact ⟨b, hb⟩
  have hblocked : ¬ inside.Blocked (Path.names key) := by
    rw [h.holds.blocked_iff]
    rintro ⟨key', b, hb, hprefix, hne⟩
    obtain ⟨b', hb'⟩ := hstored key' b hb
    exact hne (hlayout.apart key' b' key blob hb' hself hprefix)
  have hfolder : ∀ f, inside.at? (Path.names key) ≠ some (.folder f) := by
    intro f hf
    rcases h.places (Path.names key) (by simp [hf]) with hnil | ⟨key', b, hb, hprefix⟩
    · exact Path.names_ne_nil key hnil
    · obtain ⟨b', hb'⟩ := hstored key' b hb
      obtain rfl := hlayout.apart key blob key' b' hself hb' hprefix
      obtain ⟨c, hat, -⟩ := h.holds.exists_object_iff.1 ⟨b, hb, rfl⟩
      rw [hat] at hf
      cases hf
  obtain ⟨g, hplace, hholds, hplaces⟩ := h.holds.put h.place hcontainer
    (hlayout.names key blob hself) hfits hblocked hfolder blob
  refine ⟨g, ?_, hholds, fun path hpath => ?_⟩
  · rw [home_put]
    exact hplace
  · rcases hplaces path hpath with hold | hway
    · rcases h.places path hold with hnil | ⟨key', b, hb, hprefix⟩
      · exact .inl hnil
      · obtain ⟨b', hb'⟩ := hstored key' b hb
        exact .inr ⟨key', b', hb', hprefix⟩
    · exact .inr ⟨key, blob, hself, hway⟩

theorem get?_insert_last {l : List (String × Blob)} {o : String × Blob}
    (hsorted : (l ++ [o]).Pairwise fun a b => a.1 < b.1) (key : String) :
    (Catalog.insert ⟨l, (List.pairwise_append.1 hsorted).1⟩ o.1 o.2).get? key =
      Catalog.get? ⟨l ++ [o], hsorted⟩ key := by
  have hbefore : ∀ b, (o.1, b) ∉ l := fun b hb =>
    String.lt_irrefl o.1 ((List.pairwise_append.1 hsorted).2.2 (o.1, b) hb o List.mem_cons_self)
  ext b
  rw [Catalog.get?_insert, Catalog.get?_eq_some_iff (c := ⟨l ++ [o], hsorted⟩), List.mem_append,
    List.mem_singleton]
  by_cases hkey : key = o.1
  · subst hkey
    simp [hbefore, Prod.ext_iff, eq_comm]
  · rw [if_neg hkey, Catalog.get?_eq_some_iff]
    exact ⟨.inl, fun h => h.resolve_right fun heq => hkey (congrArg Prod.fst heq)⟩

/-- Puts of the first objects of a layout, one after the other, fill a container with them. -/
theorem exists_filled {l : List (String × Blob)}
    (hplace : s.disk.at? (s.home ++ [.ofText container]) = some (.folder .empty))
    (hcontainer : IsFileName container)
    (hroot : Folder.checkPath (s.pathBytes [container]) = .ok ()) (hlayout : IsLayout objects)
    (hfits : ∀ o ∈ objects.entries,
      Folder.checkPath (s.pathBytes (container :: Path.names o.1)) = .ok ())
    (hl : l <+: objects.entries) :
    (∀ names, (l.foldl (fun s o => s.put container o.1 o.2) s).pathBytes names =
      s.pathBytes names) ∧
      ∃ inside, (l.foldl (fun s o => s.put container o.1 o.2) s).Filled container inside
        ⟨l, objects.sorted.sublist hl.sublist⟩ := by
  -- from the end of the list, for a put meets what those before it have left
  induction l using List.reverseRecOn with
  | nil => exact ⟨fun _ => rfl, .empty, filled_empty hplace hcontainer hroot⟩
  | append_singleton l o ih =>
    obtain ⟨htext, inside, hfilled⟩ := ih ((List.prefix_append l [o]).trans hl)
    have hmem : o ∈ objects.entries := hl.subset (List.mem_append_right l List.mem_cons_self)
    have hinsert := get?_insert_last (objects.sorted.sublist hl.sublist)
    have hlast : IsLayout (Catalog.insert ⟨l, objects.sorted.sublist
        ((List.prefix_append l [o]).trans hl).sublist⟩ o.1 o.2) := by
      refine hlayout.of_get? fun key b hb => ?_
      rw [hinsert, Catalog.get?_eq_some_iff] at hb
      exact Catalog.get?_eq_some_iff.2 (hl.subset hb)
    obtain ⟨g, hg⟩ := hfilled.put hcontainer hlast (htext _ ▸ hfits o hmem)
    simp only [List.foldl_append, List.foldl_cons, List.foldl_nil]
    exact ⟨fun names => (pathBytes_put ..).trans (htext names), g, hg.congr hinsert⟩

/-- Every layout is held by a directory: the one where its objects have been put. -/
theorem exists_holds (hplace : s.disk.at? (s.home ++ [.ofText container]) = some (.folder .empty))
    (hcontainer : IsFileName container)
    (hroot : Folder.checkPath (s.pathBytes [container]) = .ok ()) (hlayout : IsLayout objects)
    (hfits : ∀ o ∈ objects.entries,
      Folder.checkPath (s.pathBytes (container :: Path.names o.1)) = .ok ()) :
    ∃ inside, (objects.entries.foldl (fun s o => s.put container o.1 o.2) s).Holds container inside
      objects := by
  obtain ⟨-, inside, hfilled⟩ :=
    exists_filled hplace hcontainer hroot hlayout hfits (List.prefix_refl objects.entries)
  exact ⟨inside, hfilled.holds⟩

end DirectoryStore
end BlobDepot
