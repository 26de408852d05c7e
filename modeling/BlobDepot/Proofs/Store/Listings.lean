import BlobDepot.Proofs.Listing
import BlobDepot.Proofs.Store.Puts
import BlobDepot.Proofs.Store.Walks
import BlobDepot.Proofs.Tree.Scopes
import Mathlib.Data.List.Sort

/-!
# Listings of a directory and of memory

A store in a directory finds the objects under a text by a walk below the deepest folder that the
text fully names, one in memory by a search among sorted keys. Over the same objects they come to
the same listings, but for the times of last changes.
-/
namespace BlobDepot

/-! ## Listings without times -/

def Entry.untimed (e : Entry) : Entry :=
  { e with modified := none }

theorem Catalog.map_insertEntry {α β : Type} (g : α → β) (key : String) (value : α)
    (l : List (String × α)) :
    (insertEntry key value l).map (Prod.map id g) =
      insertEntry key (g value) (l.map (Prod.map id g)) := by
  induction l with
  | nil => rfl
  | cons e l ih =>
    obtain ⟨k, v⟩ := e
    simp only [insertEntry, List.map_cons, Prod.map, id]
    split
    · rfl
    · split
      · rfl
      · rw [List.map_cons, ih]
        rfl

namespace Listing

variable {start : String} {level level' : Catalog Entry}

theorem entries_add_untimed
    (h : level'.entries = level.entries.map (Prod.map id Entry.untimed)) (e : Entry) :
    (add start level' e.untimed).entries =
      (add start level e).entries.map (Prod.map id Entry.untimed) := by
  have hinsert : ∀ key value, (level'.insert key (Entry.untimed value)).entries =
      (level.insert key value).entries.map (Prod.map id Entry.untimed) := by
    intro key value
    rw [Catalog.entries_insert, Catalog.entries_insert, h, Catalog.map_insertEntry]
  have hcontains : ∀ key, level'.contains key = level.contains key := by
    intro key
    rw [Catalog.contains, Catalog.contains, h, List.any_map]
    rfl
  have hkey : e.untimed.key = e.key := rfl
  rw [add, add, hkey]
  split
  · exact h
  · split
    · exact h
    · split
      · rw [Catalog.insertNew, Catalog.insertNew, hcontains]
        split
        · exact h
        · exact hinsert _ (.rolled _)
      · exact hinsert _ e

/-- Rolling up does not look at times. -/
theorem rollUp_untimed (start : String) (entries : List Entry) :
    rollUp start (entries.map Entry.untimed) = (rollUp start entries).map Entry.untimed := by
  have hfold : ∀ level level' : Catalog Entry,
      level'.entries = level.entries.map (Prod.map id Entry.untimed) →
        ((entries.map Entry.untimed).foldl (add start) level').entries =
          (entries.foldl (add start) level).entries.map (Prod.map id Entry.untimed) := by
    induction entries with
    | nil => exact fun level level' h => h
    | cons e entries ih => exact fun level level' h => ih _ _ (entries_add_untimed h e)
  rw [rollUp, rollUp, Catalog.values, Catalog.values, hfold .empty .empty rfl, List.map_map,
    List.map_map]
  rfl

end Listing

/-- What a listing shows of the objects whose keys start with a text, but for the times of their
last changes. -/
def shownUnder (objects : Catalog Blob) (start : String) : List Entry :=
  (objects.entries.filter fun o => Text.startsWith start o.1).map fun o =>
    .object o.1 o.2.data.length none

section Shown

variable {objects : Catalog Blob} {start : String} {e : Entry}

theorem mem_shownUnder_iff :
    e ∈ shownUnder objects start ↔ ∃ key b, objects.get? key = some b ∧
      Text.startsWith start key = true ∧ e = .object key b.data.length none := by
  simp only [shownUnder, List.mem_map, List.mem_filter, Prod.exists, Catalog.get?_eq_some_iff,
    and_assoc, @eq_comm _ e]

theorem pairwise_shownUnder (objects : Catalog Blob) (start : String) :
    (shownUnder objects start).Pairwise fun a b => a.key < b.key :=
  (objects.sorted.filter _).map _ fun _ _ h => h

theorem untimed_listing (objects : Catalog Blob) (start : String) (recursive : Bool) :
    (MemoryStore.listing objects start recursive).map Entry.untimed =
      if recursive then shownUnder objects start
      else Listing.rollUp start (shownUnder objects start) := by
  have hflat : ((objects.under start).map MemoryStore.entry).map Entry.untimed =
      shownUnder objects start := by
    rw [Catalog.under_eq_filter, shownUnder, List.map_map]
    rfl
  cases recursive with
  | true => exact hflat
  | false =>
    rw [← hflat, Listing.rollUp_untimed]
    rfl

theorem isEmpty_shownUnder (objects : Catalog Blob) (start : String) :
    objects.hasUnder start = !(shownUnder objects start).isEmpty := by
  rw [Catalog.hasUnder_eq, Catalog.under_eq_filter, shownUnder, List.isEmpty_map]

end Shown

/-! ## The walk -/

namespace DirectoryStore

variable {s : DirectoryStore} {container start : String} {inside g : Folder}
  {objects : Catalog Blob} {before path : List FileName} {e : Entry}

/-- The disk takes the path of every folder from the one on that a text fully names. -/
def HasRoom (s : DirectoryStore) (container start : String) : Prop :=
  ∀ g, s.folderAt? (origin container start) = some g →
    ∀ path f, g.at? path = some (.folder f) →
      Folder.checkPath (s.pathBytes (origin container start ++ path)) = .ok ()

namespace Holds

variable (h : s.Holds container inside objects)

include h

theorem at?_of_folderAt? (hup : (".." : FileName) ∉ path)
    (hfound : s.folderAt? (container :: path) = some g) :
    inside.at? (Folder.moves path) = some (.folder g) := by
  have hlookup := (itemAt_eq_ok_iff.1 (folderAt?_eq_some_iff.1 hfound)).2
  rw [h.lookup_eq hup] at hlookup
  exact Folder.at?_of_descend hlookup

theorem nodup_entriesBelow (hbefore : inside.at? before = some (.folder g)) :
    ((entriesBelow before g).map Entry.key).Nodup := by
  obtain ⟨hnames, hg⟩ := Folder.Proper.at? h.plain hbefore
  have hbefore : ∀ n ∈ before, 0x2F ∉ n.bytes ∧ n.IsText := fun n hn =>
    ⟨(hnames n hn).1.1.2, (hnames n hn).2.resolve_left nofun⟩
  exact nodup_keys_entriesBelow hg hbefore (Folder.Plain.isText_of_mem_files hg)

/-- Below a folder are the objects whose keys its place leads to. -/
theorem mem_entriesBelow_iff (hbefore : inside.at? before = some (.folder g)) :
    e ∈ (entriesBelow before g).map Entry.untimed ↔
      ∃ key b, objects.get? key = some b ∧ (∃ more, Path.names key = before ++ more) ∧
        e = .object key b.data.length none := by
  have hg : g.Plain := (Folder.Proper.at? h.plain hbefore).2
  rw [entriesBelow, List.map_map, List.mem_map]
  constructor
  · rintro ⟨⟨path, blob⟩, hfile, rfl⟩
    have hat : inside.at? (before ++ path) = some (.leaf (.file blob)) := by
      rw [Folder.at?_append hbefore]
      exact (Folder.Proper.mem_files_iff hg).1 hfile
    have hne : before ++ path ≠ [] := by
      intro hnil
      rw [hnil] at hat
      cases hat
    have hnames := h.names_ofNames hat hne
    rw [← hnames] at hat
    obtain ⟨b, hb, hdata⟩ := h.exists_object_iff.2 ⟨blob, hat, rfl⟩
    exact ⟨_, b, hb, ⟨path, hnames⟩, by rw [hdata]; rfl⟩
  · rintro ⟨key, b, hb, ⟨more, hmore⟩, rfl⟩
    obtain ⟨b', hat, hdata⟩ := h.exists_object_iff.1 ⟨b, hb, rfl⟩
    rw [hmore, Folder.at?_append hbefore] at hat
    refine ⟨(more, b'), (Folder.Proper.mem_files_iff hg).2 hat, ?_⟩
    have hkey : Path.ofNames (before ++ more) = key := by
      rw [← hmore, Path.ofNames_names]
    rw [← hdata, ← hkey]
    rfl

theorem exists_names_eq {key : String} {b : Blob} (hb : objects.get? key = some b)
    (hstarts : Text.startsWith start key = true) :
    ∃ more, more ≠ [] ∧ Path.names key = steps (Path.parent start) ++ more :=
  exists_names_eq_steps_parent hstarts fun hmem => (h.isFileName_of_object hb "" hmem).1.1 rfl

/-- If the key of an object starts with a text, then the text names every step. -/
theorem moves_eq {key : String} {b : Blob} (hb : objects.get? key = some b)
    (hstarts : Text.startsWith start key = true) :
    Folder.moves (steps (Path.parent start)) = steps (Path.parent start) := by
  obtain ⟨more, -, hnames⟩ := h.exists_names_eq hb hstarts
  refine Folder.moves_eq_self fun n hn => ?_
  have hname := h.isFileName_of_object hb n (hnames ▸ List.mem_append_left _ hn)
  exact ⟨hname.1.1, hname.2.1⟩

section Found

variable (hup : leadsUp (Path.parent start) = false)
  (hfound : s.folderAt? (origin container start) = some g)

include hup hfound

theorem fits_below
    (hmoves : Folder.moves (steps (Path.parent start)) = steps (Path.parent start))
    (hpath : (g.at? path).isSome) :
    Folder.checkPath (s.pathBytes (origin container start ++ path)) = .ok () := by
  have hbefore := h.at?_of_folderAt? (not_mem_steps_up hup) hfound
  rw [hmoves] at hbefore
  rw [← Folder.at?_append hbefore] at hpath
  exact h.fits _ hpath

theorem mem_entriesMet_iff :
    e ∈ (entriesMet start (origin container start)
        (.folder [] g.fault :: g.sights)).map Entry.untimed ↔ e ∈ shownUnder objects start := by
  have hbefore := h.at?_of_folderAt? (not_mem_steps_up hup) hfound
  rw [entriesMet_walk, within_origin, mem_shownUnder_iff]
  constructor
  · intro he
    obtain ⟨e', he', rfl⟩ := List.mem_map.1 he
    obtain ⟨he', hstarts⟩ := List.mem_filter.1 he'
    obtain ⟨key, b, hb, -, heq⟩ := (h.mem_entriesBelow_iff hbefore).1 (List.mem_map_of_mem he')
    have hkey : e'.key = key := congrArg Entry.key heq
    exact ⟨key, b, hb, hkey ▸ hstarts, heq⟩
  · rintro ⟨key, b, hb, hstarts, rfl⟩
    obtain ⟨more, -, hnames⟩ := h.exists_names_eq hb hstarts
    have hmem := (h.mem_entriesBelow_iff hbefore).2
      ⟨key, b, hb, ⟨more, by rw [h.moves_eq hb hstarts, hnames]⟩, rfl⟩
    obtain ⟨e', he', heq⟩ := List.mem_map.1 hmem
    have hkey : e'.key = key := congrArg Entry.key heq
    exact List.mem_map.2 ⟨e', List.mem_filter.2 ⟨he', hkey ▸ hstarts⟩, heq⟩

theorem nodup_entriesMet :
    ((entriesMet start (origin container start)
      (.folder [] g.fault :: g.sights)).map Entry.key).Nodup := by
  have hbefore := h.at?_of_folderAt? (not_mem_steps_up hup) hfound
  rw [entriesMet_walk, within_origin]
  exact (h.nodup_entriesBelow hbefore).sublist (List.filter_sublist.map _)

/-- A walk looks at a file only if its text names every step, and then there is room for it. -/
theorem passes_iff :
    (∀ x ∈ Sight.folder [] g.fault :: g.sights,
        s.Passes start (origin container start) x) ↔ s.HasRoom container start := by
  have hg : g.Plain := (Folder.Proper.at? h.plain
    (h.at?_of_folderAt? (not_mem_steps_up hup) hfound)).2
  rw [Folder.Proper.forall_sights_iff hg]
  constructor
  · rintro ⟨hfolders, -⟩ g' hfound' path f hat
    obtain rfl : g = g' := Option.some.inj (hfound.symm.trans hfound')
    exact (faultAt_eq_none_iff.1 (hfolders path f hat)).1
  · refine fun hroom => ⟨fun path f hat => ?_, fun path blob hat hstarts => ?_⟩
    · exact faultAt_eq_none_iff.2 ⟨hroom g hfound path f hat,
        Folder.Proper.fault_eq_none (Folder.Proper.at? hg hat).2 rfl⟩
    · have hmem : entry (within (origin container start) ++ path) blob ∈
          entriesMet start (origin container start) (.folder [] g.fault :: g.sights) := by
        rw [entriesMet_walk]
        exact List.mem_filter.2 ⟨mem_entriesBelow_of_mem_files
          ((Folder.Proper.mem_files_iff hg).2 hat) _, hstarts⟩
      obtain ⟨key, b, hb, hstarts', -⟩ := mem_shownUnder_iff.1
        ((h.mem_entriesMet_iff hup hfound).1 (List.mem_map_of_mem hmem))
      exact faultAt_eq_none_iff.2 ⟨h.fits_below hup hfound (h.moves_eq hb hstarts')
        (Option.isSome_iff_exists.2 ⟨_, hat⟩), rfl⟩

end Found

theorem hasRoom (hup : leadsUp (Path.parent start) = false)
    (hstay : ("." : FileName) ∉ steps (Path.parent start)) : s.HasRoom container start := by
  intro g hfound path f hat
  refine h.fits_below hup hfound (Folder.moves_eq_self fun n hn => ⟨?_, ?_⟩)
    (Option.isSome_iff_exists.2 ⟨_, hat⟩)
  · rintro rfl
    exact not_mem_steps_empty _ hn
  · rintro rfl
    exact hstay hn

/-- Where there is room, a walk finds the objects whose keys start with its text, each once. -/
theorem walk_of_hasRoom (hup : leadsUp (Path.parent start) = false)
    (hroom : s.HasRoom container start) :
    ∃ found, s.walk container start none = .ok found ∧
      s.walk container start (some 1) = .ok (found.take 1) ∧ (found.map Entry.key).Nodup ∧
      ∀ e, e ∈ found.map Entry.untimed ↔ e ∈ shownUnder objects start := by
  have hplace : s.place container (Path.parent start) = .ok (origin container start) :=
    h.place_eq hup
  cases hfound : s.folderAt? (origin container start) with
  | none =>
    refine ⟨_, walk_of_none hplace hfound, walk_of_none hplace hfound, List.nodup_nil,
      fun e => ?_⟩
    simp only [List.map_nil, List.not_mem_nil, false_iff, mem_shownUnder_iff]
    -- an object with such a key would have the folder on its way
    rintro ⟨key, b, hb, hstarts, -⟩
    obtain ⟨more, hmore, hnames⟩ := h.exists_names_eq hb hstarts
    obtain ⟨b', hat, -⟩ := h.exists_object_iff.1 ⟨b, hb, rfl⟩
    rw [hnames] at hat
    obtain ⟨g, hg, -⟩ := Folder.exists_folder_of_at? hat hmore
    cases hfound.symm.trans (folderAt?_eq_some_iff.2 (h.itemAt_of_at? hg))
  | some g =>
    have hpasses := (h.passes_iff hup hfound).2 hroom
    refine ⟨_, ?_, ?_, h.nodup_entriesMet hup hfound,
      fun e => h.mem_entriesMet_iff hup hfound⟩
    · rw [walk_of_some hplace hfound]
      exact collect_none_eq_ok_iff.2 ⟨hpasses, rfl⟩
    · rw [walk_of_some hplace hfound, collect_some hpasses]
      rfl

/-- Where there is none, no object has a key that starts with the text, and every walk fails. -/
theorem walk_of_not_hasRoom (hup : leadsUp (Path.parent start) = false)
    (hroom : ¬ s.HasRoom container start) :
    shownUnder objects start = [] ∧ ∃ path reason,
      ∀ limit, s.walk container start limit = .error (.io path reason) := by
  have hplace : s.place container (Path.parent start) = .ok (origin container start) :=
    h.place_eq hup
  have hnone : shownUnder objects start = [] := by
    refine List.eq_nil_iff_forall_not_mem.2 fun e he => hroom (h.hasRoom hup fun hmem => ?_)
    obtain ⟨key, b, hb, hstarts, -⟩ := mem_shownUnder_iff.1 he
    obtain ⟨more, -, hnames⟩ := h.exists_names_eq hb hstarts
    exact (h.isFileName_of_object hb "." (hnames ▸ List.mem_append_left _ hmem)).2.1 rfl
  refine ⟨hnone, ?_⟩
  cases hfound : s.folderAt? (origin container start) with
  | none => exact absurd (fun g hg => by rw [hfound] at hg; cases hg) hroom
  | some g =>
    have hg : g.Plain := (Folder.Proper.at? h.plain
      (h.at?_of_folderAt? (not_mem_steps_up hup) hfound)).2
    have hmet : entriesMet start (origin container start)
        (.folder [] g.fault :: g.sights) = [] := by
      refine (List.map_eq_nil_iff (f := Entry.untimed)).1
        (List.eq_nil_iff_forall_not_mem.2 fun e he => ?_)
      have hshown := (h.mem_entriesMet_iff hup hfound).1 he
      rw [hnone] at hshown
      cases hshown
    have hread : ∀ x ∈ Sight.folder [] g.fault :: g.sights,
        ∀ below fault, x = .folder below fault → fault = none := by
      refine (Folder.Proper.forall_sights_iff hg).2 ⟨fun path f hat below fault heq => ?_,
        fun path b hat => nofun⟩
      obtain ⟨-, rfl⟩ := Sight.folder.inj heq
      exact Folder.Proper.fault_eq_none (Folder.Proper.at? hg hat).2 rfl
    cases hwalk : s.collect container start (origin container start) none
        (.folder [] g.fault :: g.sights) with
    | ok found =>
      exact absurd ((h.passes_iff hup hfound).1 (collect_none_eq_ok_iff.1 hwalk).1) hroom
    | error err =>
      obtain ⟨path, reason, rfl⟩ := exists_io_of_collect hread hwalk
      refine ⟨path, reason, fun limit => ?_⟩
      rw [walk_of_some hplace hfound, collect_of_entriesMet_eq_nil hmet, hwalk]

end Holds

/-- Sorting what the walk finds leaves no choice. -/
theorem untimed_sorted_walk {found : List Entry} (hnodup : (found.map Entry.key).Nodup)
    (hmem : ∀ e, e ∈ found.map Entry.untimed ↔ e ∈ shownUnder objects start) :
    (found.mergeSort fun a b => a.key ≤ b.key).map Entry.untimed = shownUnder objects start := by
  have hlt : ((found.mergeSort fun a b => a.key ≤ b.key).map Entry.untimed).Pairwise
      fun a b => a.key < b.key :=
    List.pairwise_map.2 (Listing.pairwise_mergeSort hnodup)
  refine hlt.eq_of_mem_iff (pairwise_shownUnder objects start) fun e => ?_
  rw [← hmem, List.mem_map, List.mem_map]
  simp only [List.mem_mergeSort]

namespace Holds

variable (h : s.Holds container inside objects) (hup : leadsUp (Path.parent start) = false)

include h hup

theorem answers_of_hasRoom (hroom : s.HasRoom container start) :
    (∀ recursive : Bool, (Store.list container start recursive s).1.map (List.map Entry.untimed) =
      .ok (if recursive then shownUnder objects start
        else Listing.rollUp start (shownUnder objects start))) ∧
      (Store.anyUnder container start s).1 = .ok (!(shownUnder objects start).isEmpty) := by
  obtain ⟨found, hwalk, hfirst, hnodup, hmem⟩ := h.walk_of_hasRoom hup hroom
  have hsorted := untimed_sorted_walk hnodup hmem
  constructor
  · intro recursive
    have hentries : (Store.list container start recursive s).1 =
        .ok (if recursive then found.mergeSort fun a b => a.key ≤ b.key
          else Listing.rollUp start (found.mergeSort fun a b => a.key ≤ b.key)) := by
      simp only [Store.list, entries, hwalk]
      rfl
    rw [hentries]
    cases recursive with
    | true => exact congrArg Except.ok hsorted
    | false =>
      refine congrArg Except.ok ?_
      rw [if_neg (by simp), ← Listing.rollUp_untimed, hsorted]
      rfl
  · have hany : (Store.anyUnder container start s).1 = .ok (!(found.take 1).isEmpty) := by
      simp only [Store.anyUnder, hfirst]
      rfl
    rw [hany, ← hsorted, List.isEmpty_map]
    refine congrArg (fun empty : Bool => Except.ok (!empty)) ?_
    rw [Bool.eq_iff_iff, List.isEmpty_iff_length_eq_zero, List.isEmpty_iff_length_eq_zero,
      List.length_mergeSort, List.length_take]
    omega

theorem answers_of_not_hasRoom (hroom : ¬ s.HasRoom container start) :
    shownUnder objects start = [] ∧ ∃ path reason,
      (∀ recursive, (Store.list container start recursive s).1 = .error (.io path reason)) ∧
        (Store.anyUnder container start s).1 = .error (.io path reason) := by
  obtain ⟨hnone, path, reason, hwalk⟩ := h.walk_of_not_hasRoom hup hroom
  refine ⟨hnone, path, reason, fun recursive => ?_, ?_⟩
  · simp only [Store.list, entries, hwalk]
    rfl
  · simp only [Store.anyUnder, hwalk]
    rfl

end Holds

/-- A store in memory lists the objects whose keys start with a text in the order of the bytes of
their keys, or what they come to when they are rolled up to one level, and finds something under the
text exactly if there are any. Over the same objects a store in a directory does the same, but for
the times of last changes, exactly if there is room for its walk, as there is if the text names each
step before its last slash. Without room it fails, where the store in memory finds nothing. -/
theorem list_eq_memory_iff {m : MemoryStore} (hs : s.Holds container inside objects)
    (hm : m.Shows container objects) (hup : leadsUp (Path.parent start) = false) :
    let shown := shownUnder objects start
    (∀ recursive : Bool,
      let listing := if recursive then shown else Listing.rollUp start shown
      (Store.list container start recursive m).1.map (List.map Entry.untimed) = .ok listing ∧
        ((Store.list container start recursive s).1.map (List.map Entry.untimed) = .ok listing ↔
          s.HasRoom container start)) ∧
      (∀ e, e ∈ shown ↔ ∃ key b, objects.get? key = some b ∧
        Text.startsWith start key = true ∧ e = .object key b.data.length none) ∧
      (shown.map fun e => Text.bytes e.key).Pairwise (· < ·) ∧
      (Store.anyUnder container start m).1 = .ok (!shown.isEmpty) ∧
      ((Store.anyUnder container start s).1 = .ok (!shown.isEmpty) ↔ s.HasRoom container start) ∧
      (("." : FileName) ∉ steps (Path.parent start) → s.HasRoom container start) ∧
      (¬ s.HasRoom container start → shown = [] ∧ ∃ path reason,
        (∀ recursive, (Store.list container start recursive s).1 = .error (.io path reason)) ∧
          (Store.anyUnder container start s).1 = .error (.io path reason)) := by
  intro shown
  have hmemory : ∀ recursive, (Store.list container start recursive m).1 =
      .ok (MemoryStore.listing objects start recursive) := hm.list_fst start
  have hfails := hs.answers_of_not_hasRoom hup
  refine ⟨fun recursive => ⟨?_, ?_⟩, fun e => mem_shownUnder_iff, ?_, ?_, ?_, hs.hasRoom hup,
    hfails⟩
  · rw [hmemory]
    exact congrArg Except.ok (untimed_listing objects start recursive)
  · refine ⟨fun hlist => ?_, fun hroom => (hs.answers_of_hasRoom hup hroom).1 recursive⟩
    by_contra hroom
    obtain ⟨-, path, reason, herror, -⟩ := hfails hroom
    rw [herror] at hlist
    cases hlist
  · refine List.pairwise_map.2 ((pairwise_shownUnder objects start).imp fun hlt => ?_)
    exact Text.bytes_lt_of_lt hlt
  · rw [← isEmpty_shownUnder]
    exact hm.anyUnder_fst start
  · refine ⟨fun hany => ?_, fun hroom => (hs.answers_of_hasRoom hup hroom).2⟩
    by_contra hroom
    obtain ⟨-, path, reason, -, herror⟩ := hfails hroom
    rw [herror] at hany
    cases hany

/-- A text that ends within a name, where a name sorts before the slash. -/
theorem list_eq_memory_within_name :
    let objects : Catalog Blob := ((Catalog.empty.insert "job/1/log.txt" ⟨[7], 1⟩).insert
      "job/10/x" ⟨[], 2⟩).insert "job-a" ⟨[1, 2], 3⟩
    let depot : Folder := .folder "depot" (.folder "artifacts" .empty .empty) .empty
    let vacant : DirectoryStore := { root := "/depot", disk := depot, home := ["depot"] }
    let s := objects.entries.foldl (fun s o => s.put "artifacts" o.1 o.2) vacant
    let m : MemoryStore := { containers := Catalog.empty.insert "artifacts" objects }
    let deep : List Entry := [.object "job/1/log.txt" 1 none, .object "job/10/x" 0 none]
    let level : List Entry := [.object "job-a" 2 none, .rolled "job/"]
    (Store.list "artifacts" "job/1" true s).1.map (List.map Entry.untimed) = .ok deep ∧
      (Store.list "artifacts" "job/1" true m).1.map (List.map Entry.untimed) = .ok deep ∧
      (Store.list "artifacts" "job" false s).1.map (List.map Entry.untimed) = .ok level ∧
      (Store.list "artifacts" "job" false m).1.map (List.map Entry.untimed) = .ok level := by
  intro objects depot vacant s m deep level
  obtain ⟨inside, hs⟩ : ∃ inside, s.Holds "artifacts" inside objects :=
    exists_holds rfl (by decide +kernel) (by decide +kernel) (by decide +kernel) (by decide +kernel)
  have hm : m.Shows "artifacts" objects := ⟨rfl, by simp [m]⟩
  have hdeep : shownUnder objects "job/1" = deep := by decide +kernel
  have hlevel : Listing.rollUp "job" (shownUnder objects "job") = level := by decide +kernel
  have hwithin : leadsUp (Path.parent "job/1") = false := by decide +kernel
  have hjob : leadsUp (Path.parent "job") = false := by decide +kernel
  have hroom : ∀ start ∈ ["job/1", "job"], ("." : FileName) ∉ steps (Path.parent start) := by
    decide +kernel
  obtain ⟨hwithin, -, -, -, -, hwithinRoom, -⟩ := list_eq_memory_iff hs hm hwithin
  obtain ⟨hjob, -, -, -, -, hjobRoom, -⟩ := list_eq_memory_iff hs hm hjob
  have hwithinRoom := hwithinRoom (hroom "job/1" (by simp))
  have hjobRoom := hjobRoom (hroom "job" (by simp))
  refine ⟨?_, ?_, ?_, ?_⟩
  · exact ((hwithin true).2.2 hwithinRoom).trans (congrArg Except.ok hdeep)
  · exact (hwithin true).1.trans (congrArg Except.ok hdeep)
  · exact ((hjob false).2.2 hjobRoom).trans (congrArg Except.ok hlevel)
  · exact (hjob false).1.trans (congrArg Except.ok hlevel)

/-- A text of steps that stay where they are, in a directory whose path leaves hardly any room. -/
theorem list_ne_memory_without_room :
    let objects : Catalog Blob := Catalog.empty.insert "a/b" ⟨[7], 1⟩
    let depot : Folder := .folder "depot" (.folder "artifacts" .empty .empty) .empty
    let root := String.ofList ("/depot".toList ++ List.replicate 4075 '/')
    let vacant : DirectoryStore := { root, disk := depot, home := ["depot"] }
    let s := objects.entries.foldl (fun s o => s.put "artifacts" o.1 o.2) vacant
    let m : MemoryStore := { containers := Catalog.empty.insert "artifacts" objects }
    (∃ inside, s.Holds "artifacts" inside objects) ∧ m.Shows "artifacts" objects ∧
      leadsUp (Path.parent "././") = false ∧
      (Store.list "artifacts" "././" true m).1 = .ok [] ∧
      ∃ path reason, (Store.list "artifacts" "././" true s).1 = .error (.io path reason) := by
  intro objects depot root vacant s m
  have hroot : Text.bytes root = Text.bytes "/depot" ++ List.replicate 4075 0x2F := by
    rw [Text.bytes, String.toList_ofList]
    decide +kernel
  have hbytes : ∀ names, s.pathBytes names = names.foldl (fun path name =>
      if path.getLast? = some 0x2F then path ++ name.bytes else path ++ 0x2F :: name.bytes)
      (Text.bytes "/depot" ++ List.replicate 4075 0x2F) := by
    intro names
    rw [← hroot]
    exact pathBytes_put ..
  have hvacant : ∀ names, vacant.pathBytes names = s.pathBytes names := fun names =>
    (pathBytes_put ..).symm
  obtain ⟨inside, hs⟩ : ∃ inside, s.Holds "artifacts" inside objects := by
    refine exists_holds rfl (by decide +kernel) ?_ (by decide +kernel) ?_
    · rw [hvacant, hbytes]
      decide +kernel
    · simp only [hvacant, hbytes]
      decide +kernel
  have hup : leadsUp (Path.parent "././") = false := by decide +kernel
  refine ⟨⟨inside, hs⟩, ⟨rfl, by simp [m]⟩, hup, by decide +kernel, ?_⟩
  have hroom : ¬ s.HasRoom "artifacts" "././" := by
    intro hroom
    have horigin : origin "artifacts" "././" =
        [.ofText "artifacts", .ofText ".", .ofText "."] := by decide +kernel
    have hnames : Path.names "a/b" = [.ofText "a"] ++ [.ofText "b"] := by decide +kernel
    have hfound : s.folderAt? (origin "artifacts" "././") = some inside := by
      rw [horigin, folderAt?_eq_some_iff, itemAt_eq_ok_iff, hs.lookup_eq (by decide), hbytes]
      exact ⟨by decide +kernel, rfl⟩
    have hget : objects.get? "a/b" = some ⟨[7], 1⟩ := rfl
    obtain ⟨b, hat, -⟩ := hs.exists_object_iff.1 ⟨_, hget, rfl⟩
    rw [hnames] at hat
    obtain ⟨f, hf, -⟩ := Folder.exists_folder_of_at? hat (List.cons_ne_nil _ _)
    have hfits := hroom inside hfound ["a"] f hf
    rw [horigin, hbytes] at hfits
    revert hfits
    decide +kernel
  obtain ⟨-, path, reason, herror, -⟩ := hs.answers_of_not_hasRoom hup hroom
  exact ⟨path, reason, herror true⟩

end DirectoryStore
end BlobDepot
