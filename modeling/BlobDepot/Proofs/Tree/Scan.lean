import BlobDepot.Proofs.Tree.Children
import Mathlib.Data.List.Sort

/-!
# The scan for children, round by round

The scan keeps a cursor into the files of a frame. Each round looks up the next file from the cursor
and sets the cursor behind it, or behind all that is below the child the file is in. A round leaves
less ahead of the cursor than it found there, so the scan comes to its end, and the names that its
rounds meet are those a look at each single file finds.
-/
namespace BlobDepot.Frame

/-- Where the look-up of the next file begins: right before a text or right behind it. -/
inductive Cursor where
  | before (key : String)
  | behind (key : String)

def Cursor.ahead (files : Catalog FileInfo) : Cursor → List (String × FileInfo)
  | .before key => files.atLeast key
  | .behind key => files.above key

/-- The name that one round meets and the cursor it leaves. There is none if the next file is not
below the start of the scan, or there is no next file. -/
def round (files : Catalog FileInfo) (start : String) (c : Cursor) : Option (String × Cursor) :=
  match c.ahead files with
  | [] => none
  | (path, _) :: _ =>
    match Text.after? start path with
    | none => none
    | some below =>
      match Path.firstSegment below with
      | (name, true) => some (name, .before (pastChild start name))
      | (name, false) => some (name, .behind path)

/-- The names that all rounds from a cursor on meet, up to the end of the scan. -/
inductive Scans (files : Catalog FileInfo) (start : String) : Cursor → List String → Prop where
  | done {c : Cursor} (h : round files start c = none) : Scans files start c []
  | next {c c' : Cursor} {name : String} {names : List String}
      (h : round files start c = some (name, c')) (rest : Scans files start c' names) :
      Scans files start c (name :: names)

def firstSegmentsBelow (files : Catalog FileInfo) (start : String) : List String :=
  (files.keys.filterMap (Text.after? start)).map fun below => (Path.firstSegment below).1

variable {files : Catalog FileInfo} {start name : String} {c c' : Cursor} {names : List String}
  {e : String × FileInfo} {rest : List (String × FileInfo)}

/-! ## One round -/

theorem Cursor.ahead_suffix (files : Catalog FileInfo) (c : Cursor) :
    c.ahead files <:+ files.entries := by
  cases c with
  | before key => exact List.dropWhile_suffix _
  | behind key => exact List.dropWhile_suffix _

/-- A look-up that passes an entry at the front of a suffix does not see what is before it. -/
theorem dropWhile_entries_of_suffix (hsuffix : e :: rest <:+ files.entries)
    {P : String × FileInfo → Bool} (hP : ∀ a : String × FileInfo, a.1 ≤ e.1 → P a = true) :
    files.entries.dropWhile P = rest.dropWhile P := by
  obtain ⟨skipped, hentries⟩ := hsuffix
  have hsorted : (skipped ++ e :: rest).Pairwise fun a b => a.1 < b.1 := hentries ▸ files.sorted
  have hskipped : ∀ a ∈ skipped, P a = true := fun a ha =>
    hP a (Std.le_of_lt ((List.pairwise_append.1 hsorted).2.2 a ha e List.mem_cons_self))
  rw [← hentries, List.dropWhile_append_of_pos hskipped,
    List.dropWhile_cons_of_pos (hP e (Std.le_refl _))]

theorem ahead_behind (hahead : c.ahead files = e :: rest) :
    (Cursor.behind e.1).ahead files = rest := by
  have hsuffix : e :: rest <:+ files.entries := hahead ▸ c.ahead_suffix files
  have hsorted : (e :: rest).Pairwise fun a b => a.1 < b.1 :=
    files.sorted.sublist hsuffix.sublist
  rw [Cursor.ahead, Catalog.above,
    dropWhile_entries_of_suffix hsuffix fun a ha => decide_eq_true ha]
  cases hrest : rest with
  | nil => rfl
  | cons b l =>
    have hlt : e.1 < b.1 := (List.pairwise_cons.1 hsorted).1 b (hrest ▸ List.mem_cons_self)
    exact List.dropWhile_cons_of_neg (by simpa using hlt)

theorem ahead_pastChild (hahead : c.ahead files = e :: rest) {more : String}
    (he : e.1 = start ++ (name ++ "/" ++ more)) :
    (Cursor.before (pastChild start name)).ahead files =
      rest.dropWhile fun a => a.1 < pastChild start name := by
  have hjump : e.1 < pastChild start name := by
    rw [he, pastChild]
    simpa only [String.append_assoc] using Text.append_slash_lt (start ++ name) more
  exact dropWhile_entries_of_suffix (hahead ▸ c.ahead_suffix files) fun _ ha =>
    decide_eq_true (Std.lt_of_le_of_lt ha hjump)

theorem round_eq_none (h : round files start c = none) : childNames start (c.ahead files) = [] := by
  rw [round] at h
  cases hahead : c.ahead files with
  | nil => rw [childNames]
  | cons e rest =>
    obtain ⟨stored, info⟩ := e
    cases hafter : Text.after? start stored with
    | none => simp only [childNames, hafter]
    | some below =>
      simp only [hahead, hafter] at h
      split at h <;> cases h

/-- A round does with the files ahead what the scan of their run does at its front. -/
theorem round_eq_some (h : round files start c = some (name, c')) :
    childNames start (c.ahead files) = name :: childNames start (c'.ahead files) ∧
      (c'.ahead files).length < (c.ahead files).length := by
  rw [round] at h
  cases hahead : c.ahead files with
  | nil =>
    rw [hahead] at h
    cases h
  | cons e rest =>
    obtain ⟨stored, info⟩ := e
    cases hafter : Text.after? start stored with
    | none =>
      simp only [hahead, hafter] at h
      cases h
    | some below =>
      simp only [hahead, hafter] at h
      cases hfirst : Path.firstSegment below with
      | mk step more =>
        cases more with
        | true =>
          simp only [hfirst, Option.some.injEq, Prod.mk.injEq] at h
          obtain ⟨rfl, rfl⟩ := h
          obtain ⟨-, tail, rfl⟩ := Path.firstSegment_eq_true_iff.1 hfirst
          have hnext := ahead_pastChild hahead (Text.after?_eq_some_iff.1 hafter)
          refine ⟨by simp only [childNames, hafter, hfirst, hnext], ?_⟩
          rw [hnext]
          exact Nat.lt_succ_of_le (List.dropWhile_sublist _).length_le
        | false =>
          simp only [hfirst, Option.some.injEq, Prod.mk.injEq] at h
          obtain ⟨rfl, rfl⟩ := h
          have hnext := ahead_behind hahead
          refine ⟨by simp only [childNames, hafter, hfirst, hnext], ?_⟩
          rw [hnext]
          exact Nat.lt_succ_self _

/-! ## All rounds -/

theorem Scans.eq_childNames (h : Scans files start c names) :
    names = childNames start (c.ahead files) := by
  induction h with
  | done h => exact (round_eq_none h).symm
  | next h _ ih => rw [(round_eq_some h).1, ih]

theorem Scans.length_le (h : Scans files start c names) :
    names.length ≤ (c.ahead files).length := by
  induction h with
  | done h => exact Nat.zero_le _
  | next h _ ih => exact Nat.succ_le_of_lt (Nat.lt_of_le_of_lt ih (round_eq_some h).2)

/-- The scan comes to its end from every cursor, since fewer and fewer files are ahead of it. -/
theorem exists_scans (files : Catalog FileInfo) (start : String) (c : Cursor) :
    ∃ names, Scans files start c names := by
  cases h : round files start c with
  | none => exact ⟨[], .done h⟩
  | some met =>
    obtain ⟨name, c'⟩ := met
    have hfewer : (c'.ahead files).length < (c.ahead files).length := (round_eq_some h).2
    obtain ⟨names, hnames⟩ := exists_scans files start c'
    exact ⟨name :: names, .next h hnames⟩
termination_by (c.ahead files).length

theorem scans_iff : Scans files start c names ↔ names = childNames start (c.ahead files) := by
  refine ⟨Scans.eq_childNames, ?_⟩
  rintro rfl
  obtain ⟨names, hnames⟩ := exists_scans files start c
  exact hnames.eq_childNames ▸ hnames

/-! ## The look at each file -/

theorem mem_firstSegmentsBelow_iff :
    name ∈ firstSegmentsBelow files start ↔
      ∃ below, start ++ below ∈ files.keys ∧ (Path.firstSegment below).1 = name := by
  simp only [firstSegmentsBelow, List.mem_map, List.mem_filterMap, Text.after?_eq_some_iff]
  constructor
  · rintro ⟨below, ⟨stored, hstored, rfl⟩, hname⟩
    exact ⟨below, hstored, hname⟩
  · rintro ⟨below, hstored, hname⟩
    exact ⟨below, ⟨_, hstored, rfl⟩, hname⟩

theorem mem_children_iff_mem_keys (f : Frame) (path name : String) :
    name ∈ f.children path ↔
      ∃ below, Path.lead path ++ below ∈ f.files.keys ∧ (Path.firstSegment below).1 = name := by
  simp only [mem_children_iff, Catalog.mem_keys_iff, exists_and_right]

/-- The rounds of the scan for the children of a path come to one end, after no more of them than
there are files. The children are the names they meet, each once and in the order of their bytes.
These are the first segments of what stands below the path in the path of a file, as a look at each
file finds them: names without a slash that such a path ends with or goes on from with a slash. -/
theorem children_exact (f : Frame) (path : String) :
    let start := Path.lead path
    (∃ names, (∀ l, Scans f.files start (.before start) l ↔ l = names) ∧ names.length ≤ f.size ∧
      f.children path = (Catalog.ofKeys names).keys) ∧
    f.children path = (Catalog.ofKeys (firstSegmentsBelow f.files start)).keys ∧
    (f.children path).Pairwise (fun a b => Text.bytes a < Text.bytes b) ∧
    ∀ name, name ∈ f.children path ↔
      Path.hasSlash name = false ∧ ∃ below, start ++ below ∈ f.files.keys ∧
        (below = name ∨ ∃ more, below = name ++ "/" ++ more) := by
  intro start
  refine ⟨⟨_, fun l => scans_iff, ?_, rfl⟩, ?_, ?_, fun name => ?_⟩
  · obtain ⟨names, hnames⟩ := exists_scans f.files start (.before start)
    rw [← hnames.eq_childNames]
    exact hnames.length_le.trans (Cursor.ahead_suffix f.files _).length_le
  · apply (pairwise_children f path).eq_of_mem_iff (Catalog.pairwise_keys _)
    intro name
    rw [mem_children_iff_mem_keys, Catalog.mem_keys_ofKeys, mem_firstSegmentsBelow_iff]
  · exact (pairwise_children f path).imp Text.bytes_lt_of_lt
  · rw [mem_children_iff_mem_keys]
    constructor
    · rintro ⟨below, hstored, rfl⟩
      have hslash := Path.hasSlash_firstSegment below
      exact ⟨hslash, below, hstored, (Path.fst_firstSegment_eq_iff hslash).1 rfl⟩
    · rintro ⟨hslash, below, hstored, hbelow⟩
      exact ⟨below, hstored, (Path.fst_firstSegment_eq_iff hslash).2 hbelow⟩

/-- The jump past `d/` passes neither over `d.txt` before it nor over `d0` behind it. -/
example :
    (ofListing (.root "artifacts") none
      [.object "d/x" 1 none, .object "d/y" 1 none, .object "d.txt" 1 none,
        .object "d0" 1 none]).children "" = ["d", "d.txt", "d0"] := by
  decide +kernel

end BlobDepot.Frame
