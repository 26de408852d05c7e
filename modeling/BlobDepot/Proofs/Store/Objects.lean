import BlobDepot.Proofs.Store.Puts
import BlobDepot.Proofs.Tree.Scopes

/-!
# Objects of a directory and of memory

A key that names each of its steps may be that of an object, of a folder above objects, or of
nothing. A store in memory tells an object from the rest. One in a directory asks the disk, and the
disk fails in other ways than by finding nothing: where a file is in the way, where a name or the
whole path is too long, and where a folder is read.
-/
namespace BlobDepot.DirectoryStore

variable {s : DirectoryStore} {m : MemoryStore} {container key : String} {inside : Folder}
  {objects : Catalog Blob}

/-- The disk can follow a key to its end, whether something is there or not: the path is not too
long, no other object is in its way, and no folder is asked for a name that is too long. -/
structure Passable (s : DirectoryStore) (container : String) (inside : Folder)
    (objects : Catalog Blob) (key : String) : Prop where
  fits : Folder.checkPath (s.pathBytes (container :: Path.names key)) = .ok ()
  free : ∀ stored b, objects.get? stored = some b → Path.names stored <+: Path.names key →
    stored = key
  short : ¬ inside.Overlong (Path.names key)

namespace Holds

section Item

variable (h : s.Holds container inside objects)
  (hkey : ∀ n ∈ Path.names key, n ≠ "" ∧ n ≠ "." ∧ n ≠ "..")

include h hkey

theorem place_of_names : s.place container key = .ok (container :: Path.names key) := by
  have hup : leadsUp key = false := leadsUp_eq_false_iff.2 fun hmem => (hkey ".." hmem).2.2 rfl
  rw [h.place_eq hup, steps_eq_names fun hmem => (hkey "" hmem).1 rfl]

/-- The disk finds what stands at the place of a key that can be followed, and fails otherwise. -/
theorem itemAt_cases :
    (s.Passable container inside objects key ∧
        s.itemAt (container :: Path.names key) = inside.fetch (Path.names key)) ∨
      (¬ s.Passable container inside objects key ∧
        ∃ fault, s.itemAt (container :: Path.names key) = .error fault ∧ fault ≠ .noEntry ∧
          fault.isDenial = false) := by
  have hstay : ∀ n ∈ Path.names key, n ≠ "" ∧ n ≠ "." := fun n hn =>
    ⟨(hkey n hn).1, (hkey n hn).2.1⟩
  have hup : (".." : FileName) ∉ Path.names key := fun hmem => (hkey ".." hmem).2.2 rfl
  cases hfits : Folder.checkPath (s.pathBytes (container :: Path.names key)) with
  | error fault =>
    refine .inr ⟨fun hpass => ?_, fault, ?_, Folder.ne_noEntry_of_checkPath hfits,
      Folder.isDenial_of_checkPath hfits⟩
    · rw [hpass.fits] at hfits
      cases hfits
    · rw [itemAt, hfits]
      rfl
  | ok u =>
    have hitem : s.itemAt (container :: Path.names key) =
        inside.descend (Path.names key) := by
      rw [itemAt, hfits, ← h.lookup_eq hup]
      rfl
    rw [hitem]
    by_cases hblocked : inside.Blocked (Path.names key)
    · refine .inr ⟨fun hpass => ?_, _, Folder.descend_of_blocked h.plain hstay hblocked,
        by decide, rfl⟩
      obtain ⟨stored, b, hb, hprefix, hne⟩ := h.blocked_iff.1 hblocked
      exact hne (hpass.free stored b hb hprefix)
    by_cases hlong : inside.Overlong (Path.names key)
    · exact .inr ⟨fun hpass => hpass.short hlong, _, Folder.descend_of_overlong hstay hlong,
        by decide, rfl⟩
    refine .inl ⟨⟨hfits, fun stored b hb hprefix => ?_, hlong⟩,
      Folder.descend_of_clear hstay hblocked hlong⟩
    exact Decidable.not_not.1 fun hne => hblocked (h.blocked_iff.2 ⟨stored, b, hb, hprefix, hne⟩)

end Item

end Holds

/-! ## Answers -/

/-- What is told of an object, but for the time of its last change. -/
def sizes (answer : Except StoreError (Option Metadata)) : Except StoreError (Option Nat) :=
  answer.map (Option.map Metadata.size)

theorem sizes_memory (hm : m.Shows container objects) (key : String) :
    sizes (Store.metadata container key m).1 =
      .ok ((objects.get? key).map fun b => b.data.length) := by
  have hmetadata : Store.metadata container key m = _ := hm.metadata_eq key
  rw [hmetadata]
  cases objects.get? key <;> rfl

theorem read_memory (hm : m.Shows container objects) (key : String) :
    (Store.read container key m).1 =
      match objects.get? key with
      | some b => .ok (.bytes b.data)
      | none => .error (.notFound container key) := by
  have hread : Store.read container key m = MemoryStore.read container key m := rfl
  rw [hread, MemoryStore.read, hm.objects_eq]
  cases hget : objects.get? key <;> simp only [hget]

section Answers

variable (hs : s.Holds container inside objects)
  (hkey : ∀ n ∈ Path.names key, n ≠ "" ∧ n ≠ "." ∧ n ≠ "..")

include hs hkey

theorem answers_of_fault {fault : IoFault} (hfault : fault ≠ .noEntry)
    (hdenial : fault.isDenial = false)
    (hitem : s.itemAt (container :: Path.names key) = .error fault) :
    sizes (Store.metadata container key s).1 =
        .error (.ofFault (s.pathText (container :: Path.names key)) fault) ∧
      (Store.read container key s).1 =
        .error (.ofFault (s.pathText (container :: Path.names key)) fault) := by
  have hplace := hs.place_of_names hkey
  have hfailure : s.failure container key (container :: Path.names key) fault =
      .ofFault (s.pathText (container :: Path.names key)) fault := by
    rw [failure, if_neg hfault, if_neg (by simp [hdenial])]
  constructor
  · simp only [Store.metadata, metadataOf, hplace, bind, Except.bind, hitem, hfailure,
      if_neg hfault]
    rfl
  · simp only [Store.read, contentOf, hplace, bind, Except.bind, hitem, hfailure]
    rfl

theorem answers_of_fetch
    (hitem : s.itemAt (container :: Path.names key) = inside.fetch (Path.names key)) :
    sizes (Store.metadata container key s).1 =
        .ok ((objects.get? key).map fun b => b.data.length) ∧
      (Store.read container key s).1 =
        match inside.at? (Path.names key), objects.get? key with
        | some (.folder _), _ => .ok (.unreadable .isDirectory)
        | _, some b => .ok (.bytes b.data)
        | _, none => .error (.notFound container key) := by
  have hplace := hs.place_of_names hkey
  have hdata := hs.data key
  rw [Folder.fetch] at hitem
  rw [Folder.dataAt] at hdata
  cases hat : inside.at? (Path.names key) with
  | none =>
    rw [hat] at hitem hdata
    have hget : objects.get? key = none := Option.map_eq_none_iff.1 hdata.symm
    rw [hget]
    constructor
    · simp only [Store.metadata, metadataOf, hplace, bind, Except.bind, hitem]
      rfl
    · simp only [Store.read, contentOf, hplace, bind, Except.bind, hitem]
      rfl
  | some item =>
    rw [hat] at hitem hdata
    cases item with
    | folder f =>
      have hget : objects.get? key = none := Option.map_eq_none_iff.1 hdata.symm
      rw [hget]
      constructor
      · simp only [Store.metadata, metadataOf, hplace, bind, Except.bind, hitem]
        rfl
      · simp only [Store.read, contentOf, hplace, bind, Except.bind, hitem]
        rfl
    | leaf l =>
      obtain ⟨c, rfl⟩ := hs.plain.exists_file hat
      obtain ⟨b, hget, hb⟩ := Option.map_eq_some_iff.1 hdata.symm
      rw [hget]
      constructor
      · simp only [Store.metadata, metadataOf, hplace, bind, Except.bind, hitem, hb,
          Option.map_some]
        rfl
      · simp only [Store.read, contentOf, hplace, bind, Except.bind, hitem, hb]
        rfl

end Answers

/-- Over the same objects a store in a directory and one in memory tell the same of a key that names
each of its steps exactly if the disk can follow the key. Reading comes to the same exactly if,
besides, the key is not that of a folder. -/
theorem answers_eq_memory_iff (hs : s.Holds container inside objects)
    (hm : m.Shows container objects)
    (hkey : ∀ n ∈ Path.segments key, n ≠ "" ∧ n ≠ "." ∧ n ≠ "..") :
    (sizes (Store.metadata container key s).1 = sizes (Store.metadata container key m).1 ↔
        s.Passable container inside objects key) ∧
      ((Store.read container key s).1 = (Store.read container key m).1 ↔
        s.Passable container inside objects key ∧
          ∀ f, inside.at? (Path.names key) ≠ some (.folder f)) := by
  rw [sizes_memory hm, read_memory hm]
  have hnames : ∀ n ∈ Path.names key, n ≠ "" ∧ n ≠ "." ∧ n ≠ ".." := by
    simpa [Path.names] using hkey
  rcases hs.itemAt_cases hnames with ⟨hpass, hitem⟩ | ⟨hpass, fault, hitem, hfault, hdenial⟩
  · obtain ⟨hsizes, hread⟩ := answers_of_fetch hs hnames hitem
    refine ⟨iff_of_true hsizes hpass, ?_⟩
    rw [hread]
    cases hat : inside.at? (Path.names key) with
    | none =>
      refine iff_of_true ?_ ⟨hpass, fun f h => by cases h⟩
      cases objects.get? key <;> rfl
    | some item =>
      cases item with
      | leaf l =>
        refine iff_of_true ?_ ⟨hpass, fun f h => by cases h⟩
        cases objects.get? key <;> rfl
      | folder f =>
        refine iff_of_false ?_ fun h => h.2 f rfl
        cases objects.get? key <;> simp
  · obtain ⟨hsizes, hread⟩ := answers_of_fault hs hnames hfault hdenial hitem
    rw [hsizes, hread]
    refine ⟨iff_of_false (fun h => by cases h) hpass, iff_of_false ?_ fun h => hpass h.1⟩
    cases objects.get? key <;> simp [StoreError.ofFault]

/-- An object, and a key beside it with nothing there. -/
theorem answers_eq_memory_of_object :
    let objects : Catalog Blob := Catalog.empty.insert "job/1/log.txt" ⟨[7], 1⟩
    let depot : Folder := .folder "depot" (.folder "artifacts" .empty .empty) .empty
    let vacant : DirectoryStore := { root := "/depot", disk := depot, home := ["depot"] }
    let s := objects.entries.foldl (fun s o => s.put "artifacts" o.1 o.2) vacant
    let m : MemoryStore := { containers := Catalog.empty.insert "artifacts" objects }
    sizes (Store.metadata "artifacts" "job/1/log" s).1 =
        sizes (Store.metadata "artifacts" "job/1/log" m).1 ∧
      (Store.read "artifacts" "job/1/log.txt" s).1 =
        (Store.read "artifacts" "job/1/log.txt" m).1 := by
  intro objects depot vacant s m
  obtain ⟨inside, hs⟩ : ∃ inside, s.Holds "artifacts" inside objects :=
    exists_holds rfl (by decide +kernel) (by decide +kernel) (by decide +kernel) (by decide +kernel)
  have hm : m.Shows "artifacts" objects := ⟨rfl, by simp [m]⟩
  have hpass : ∀ key ∈ ["job/1/log", "job/1/log.txt"],
      s.Passable "artifacts" inside objects key := by
    have hfits : ∀ key ∈ ["job/1/log", "job/1/log.txt"],
        Folder.checkPath (s.pathBytes ("artifacts" :: Path.names key)) = .ok () := by
      decide +kernel
    have hfree : ∀ key ∈ ["job/1/log", "job/1/log.txt"], ∀ o ∈ objects.entries,
        Path.names o.1 <+: Path.names key → o.1 = key := by decide +kernel
    have hshort : ∀ key ∈ ["job/1/log", "job/1/log.txt"], ∀ n ∈ Path.names key,
        n.bytes.length ≤ Folder.maxName := by decide +kernel
    refine fun key hkey => ⟨hfits key hkey, fun stored b hb => ?_, ?_⟩
    · exact hfree key hkey (stored, b) (Catalog.get?_eq_some_iff.1 hb)
    · rintro ⟨before, name, after, f, heq, -, hlong⟩
      exact Nat.not_lt.2 (hshort key hkey name (heq ▸ by simp)) hlong
  have hfile : ∀ f, inside.at? (Path.names "job/1/log.txt") ≠ some (.folder f) := by
    intro f hf
    have hget : objects.get? "job/1/log.txt" = some ⟨[7], 1⟩ := rfl
    obtain ⟨b, hat, -⟩ := hs.exists_object_iff.1 ⟨_, hget, rfl⟩
    rw [hat] at hf
    cases hf
  refine ⟨?_, ?_⟩
  · exact (answers_eq_memory_iff hs hm (by decide +kernel)).1.2 (hpass _ (by simp))
  · exact (answers_eq_memory_iff hs hm (by decide +kernel)).2.2 ⟨hpass _ (by simp), hfile⟩

/-- A key below an object, and one above it. -/
theorem answers_ne_memory_beyond_object :
    let objects : Catalog Blob := Catalog.empty.insert "job/1/log.txt" ⟨[7], 1⟩
    let depot : Folder := .folder "depot" (.folder "artifacts" .empty .empty) .empty
    let vacant : DirectoryStore := { root := "/depot", disk := depot, home := ["depot"] }
    let s := objects.entries.foldl (fun s o => s.put "artifacts" o.1 o.2) vacant
    let m : MemoryStore := { containers := Catalog.empty.insert "artifacts" objects }
    (∃ inside, s.Holds "artifacts" inside objects) ∧ m.Shows "artifacts" objects ∧
      (∀ key ∈ ["job/1/log.txt/x", "job"], ∀ n ∈ Path.names key,
        n ≠ "" ∧ n ≠ "." ∧ n ≠ "..") ∧
      (Store.metadata "artifacts" "job/1/log.txt/x" s).1 =
        .error (.io "/depot/artifacts/job/1/log.txt/x" "Not a directory (os error 20)") ∧
      (Store.metadata "artifacts" "job/1/log.txt/x" m).1 = .ok none ∧
      (Store.read "artifacts" "job" s).1 = .ok (.unreadable .isDirectory) ∧
      (Store.read "artifacts" "job" m).1 = .error (.notFound "artifacts" "job") := by
  intro objects depot vacant s m
  refine ⟨?_, ⟨rfl, by simp [m]⟩, ?_, ?_, ?_, ?_, ?_⟩
  · exact exists_holds rfl (by decide +kernel) (by decide +kernel) (by decide +kernel)
      (by decide +kernel)
  all_goals decide +kernel

end BlobDepot.DirectoryStore
