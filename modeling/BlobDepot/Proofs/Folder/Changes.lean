import BlobDepot.Proofs.Folder.Paths

/-!
# Changes in folders

Putting an item at a place makes the folders on the way and leaves alone what is neither on the way
nor below. Below a place the change is one of the folder that stands there.
-/
namespace BlobDepot

/-- What stands at a place, from an item. -/
def Item.at? : Item → List FileName → Option Item
  | .leaf l, path => if path = [] then some (.leaf l) else none
  | .folder inside, path => inside.at? path

namespace Folder

variable {p : Rule} {f f' g g' rest inside : Folder} {name n m : FileName} {item found : Item}
  {before path other : List FileName}

theorem at?_cons_eq_bind (f : Folder) (name : FileName) (path : List FileName) :
    f.at? (name :: path) = (f.find? name).bind fun found => found.at? path := by
  cases hfind : f.find? name with
  | none => rw [at?_cons_of_none hfind, Option.bind_none]
  | some found =>
    cases found with
    | leaf l => rw [at?_cons_of_leaf hfind, Option.bind_some, Item.at?]
    | folder inside => rw [at?_cons_of_folder hfind, Option.bind_some, Item.at?]

/-! ## One name -/

theorem put_cons : (cons n found rest).put name item =
    if name < n then cons name item (cons n found rest)
    else if name = n then cons name item rest
    else cons n found (rest.put name item) := by
  cases found <;> rfl

theorem find?_put : (f.put name item).find? m = if name = m then some item else f.find? m := by
  induction f using cons_induction with
  | nil fault => rw [put, find?_cons]
  | cons n found rest ih =>
    rw [put_cons]
    split
    · rw [find?_cons]
    · split
      · rename_i hn
        subst hn
        rw [find?_cons, find?_cons]
        split <;> rfl
      · rename_i hn
        rw [find?_cons, find?_cons, ih]
        by_cases hm : n = m
        · rw [if_pos hm, if_pos hm, if_neg fun heq => hn (heq.trans hm.symm)]
        · rw [if_neg hm, if_neg hm]

theorem mem_names_put (h : m ∈ (f.put name item).names) : m = name ∨ m ∈ f.names := by
  induction f using cons_induction with
  | nil fault => simpa [put] using h
  | cons n found rest ih =>
    rw [put_cons] at h
    split at h
    · simpa using h
    · split at h
      · rw [names_cons, List.mem_cons] at h ⊢
        exact h.imp_right .inr
      · rw [names_cons, List.mem_cons] at h ⊢
        rcases h with h | h
        · exact .inr (.inl h)
        · exact (ih h).imp_right .inr

theorem Proper.put (hf : f.Proper p) (hname : p.Admits name) (hitem : item.Proper p) :
    (f.put name item).Proper p := by
  induction f using cons_induction with
  | nil fault => exact proper_cons_iff.2 ⟨hname, nofun, hitem, hf⟩
  | cons n found rest ih =>
    obtain ⟨hn, hlt, hfound, hrest⟩ := proper_cons_iff.1 hf
    rw [put_cons]
    split
    · rename_i hless
      refine proper_cons_iff.2 ⟨hname, fun m hm => ?_, hitem, hf⟩
      rcases List.mem_cons.1 (names_cons ▸ hm) with rfl | hm
      · exact hless
      · exact FileName.lt_trans hless (hlt m hm)
    · split
      · rename_i heq
        exact proper_cons_iff.2 ⟨hname, heq ▸ hlt, hitem, hrest⟩
      · rename_i hless hne
        refine proper_cons_iff.2 ⟨hn, fun m hm => ?_, hfound, ih hrest⟩
        rcases mem_names_put hm with rfl | hm
        · exact FileName.lt_of_not_lt hless hne
        · exact hlt m hm

theorem at?_put_cons : (f.put name item).at? (n :: path) =
    if name = n then item.at? path else f.at? (n :: path) := by
  rw [at?_cons_eq_bind, find?_put]
  split
  · rfl
  · rw [at?_cons_eq_bind]

theorem at?_empty_of_ne_nil (h : path ≠ []) : empty.at? path = none := by
  obtain ⟨n, path, rfl⟩ := List.exists_cons_of_ne_nil h
  exact at?_cons_of_none rfl path

/-! ## A place -/

def folderUnder (f : Folder) (name : FileName) : Folder :=
  match f.find? name with
  | some (.folder inside) => inside
  | _ => empty

theorem putAt_cons (hpath : path ≠ []) (hblocked : ¬ f.Blocked (name :: path)) :
    putAt item (name :: path) f =
      (putAt item path (f.folderUnder name)).map fun inside => f.put name (.folder inside) := by
  rw [putAt, folderUnder]
  · cases hfind : f.find? name with
    | none => rfl
    | some found =>
      cases found with
      | leaf l => exact absurd (blocked_cons_iff.2 (.inl ⟨l, hfind, hpath⟩)) hblocked
      | folder inside => rfl
  · exact hpath

theorem not_blocked_empty (path : List FileName) : ¬ empty.Blocked path := by
  cases path with
  | nil => exact not_blocked_nil empty
  | cons name path => simp [blocked_cons_iff, Folder.find?]

theorem not_blocked_folderUnder (hblocked : ¬ f.Blocked (name :: path)) :
    ¬ (f.folderUnder name).Blocked path := by
  rw [folderUnder]
  split
  · rename_i inside hfind
    exact fun h => hblocked (blocked_cons_iff.2 (.inr ⟨inside, hfind, h⟩))
  · exact not_blocked_empty path

theorem at?_folderUnder (hpath : path ≠ []) (hblocked : ¬ f.Blocked (name :: path))
    (hother : other ≠ []) : (f.folderUnder name).at? other = f.at? (name :: other) := by
  rw [folderUnder]
  cases hfind : f.find? name with
  | none =>
    obtain ⟨next, other, rfl⟩ := List.exists_cons_of_ne_nil hother
    rw [at?_cons_of_none hfind]
    exact at?_cons_of_none rfl other
  | some found =>
    cases found with
    | leaf l => exact absurd (blocked_cons_iff.2 (.inl ⟨l, hfind, hpath⟩)) hblocked
    | folder inside => rw [at?_cons_of_folder hfind]

theorem Proper.folderUnder (hf : f.Proper p) (name : FileName) : (f.folderUnder name).Proper p := by
  rw [Folder.folderUnder]
  split
  · rename_i inside hfind
    exact hf.find? hfind
  · exact .inr rfl

/-- A folder is another one with an item at a place. -/
structure PutAt (item : Item) (path : List FileName) (f f' : Folder) : Prop where
  below : ∀ more, f'.at? (path ++ more) = item.at? more
  above : ∀ before after, path = before ++ after → after ≠ [] →
    ∃ g, f'.at? before = some (.folder g)
  apart : ∀ other, ¬ path <+: other → ¬ other <+: path → f'.at? other = f.at? other

section PutAt

variable (h : PutAt item path f f') (hitem : ∀ more, more ≠ [] → item.at? more = none)

include h hitem

/-- Where there was no folder, an item without anything below it changes what stands at its place
and no other file. -/
theorem PutAt.at?_eq_leaf_iff {l : Leaf} (hblocked : ¬ f.Blocked path)
    (hfolder : ∀ g, f.at? path ≠ some (.folder g)) (hother : other ≠ path) :
    f'.at? other = some (.leaf l) ↔ f.at? other = some (.leaf l) := by
  by_cases hbelow : path <+: other
  · obtain ⟨more, rfl⟩ := hbelow
    have hmore : more ≠ [] := by
      rintro rfl
      exact hother (List.append_nil path)
    rw [h.below, hitem more hmore]
    refine ⟨nofun, fun hat => ?_⟩
    obtain ⟨g, hg, -⟩ := exists_folder_of_at? hat hmore
    exact absurd hg (hfolder g)
  · by_cases habove : other <+: path
    · obtain ⟨after, hafter⟩ := habove
      have hne : after ≠ [] := by
        rintro rfl
        exact hother (by rw [← hafter, List.append_nil])
      obtain ⟨g, hg⟩ := h.above other after hafter.symm hne
      rw [hg]
      refine ⟨nofun, fun hat => ?_⟩
      exact absurd ⟨other, after, l, hafter.symm, hne, hat⟩ hblocked
    · rw [h.apart other hbelow habove]

/-- The places of such an item are its own and those on the way to it. -/
theorem PutAt.isSome_or_prefix (hother : (f'.at? other).isSome) :
    (f.at? other).isSome ∨ other <+: path := by
  by_cases hbelow : path <+: other
  · obtain ⟨more, rfl⟩ := hbelow
    by_cases hmore : more = []
    · rw [hmore, List.append_nil]
      exact .inr (List.prefix_refl path)
    · rw [h.below, hitem more hmore] at hother
      cases hother
  · by_cases habove : other <+: path
    · exact .inr habove
    · rw [h.apart other hbelow habove] at hother
      exact .inl hother

end PutAt

theorem exists_putAt (item : Item) (hpath : path ≠ []) (hblocked : ¬ f.Blocked path) :
    ∃ f', putAt item path f = some f' ∧ PutAt item path f f' ∧
      (f.Proper p → item.Proper p → (∀ n ∈ path, p.Admits n) → f'.Proper p) := by
  induction path generalizing f with
  | nil => exact absurd rfl hpath
  | cons name path ih =>
    by_cases hlast : path = []
    · subst hlast
      refine ⟨f.put name item, rfl, ⟨fun more => ?_, ?_, ?_⟩, fun hf hitem hnames => ?_⟩
      · rw [List.singleton_append, at?_put_cons, if_pos rfl]
      · intro before after heq hafter
        cases before with
        | nil => exact ⟨_, rfl⟩
        | cons n before =>
          obtain ⟨-, hnil⟩ := List.cons.inj heq
          exact absurd (List.append_eq_nil_iff.1 hnil.symm).2 hafter
      · intro other hbelow habove
        cases other with
        | nil => exact absurd (List.nil_prefix) habove
        | cons n other =>
          rw [at?_put_cons, if_neg]
          rintro rfl
          exact hbelow (List.prefix_append [name] other)
      · exact hf.put (hnames name List.mem_cons_self) hitem
-- the change is made in the folder under the first name, which is a new one if there is none yet
    · obtain ⟨g', hput, hg', hproper⟩ := ih (f := f.folderUnder name) hlast
        (not_blocked_folderUnder hblocked)
      refine ⟨f.put name (.folder g'), ?_, ⟨fun more => ?_, ?_, ?_⟩, fun hf hitem hnames => ?_⟩
      · rw [putAt_cons hlast hblocked, hput, Option.map_some]
      · rw [List.cons_append, at?_put_cons, if_pos rfl]
        exact hg'.below more
      · intro before after heq hafter
        cases before with
        | nil => exact ⟨_, rfl⟩
        | cons n before =>
          obtain ⟨rfl, rfl⟩ := List.cons.inj heq
          rw [at?_put_cons, if_pos rfl]
          exact hg'.above before after rfl hafter
      · intro other hbelow habove
        cases other with
        | nil => exact absurd (List.nil_prefix) habove
        | cons n other =>
          rw [at?_put_cons]
          split
          · rename_i hn
            subst hn
            rw [List.prefix_cons_inj] at hbelow habove
            have hother : other ≠ [] := by
              rintro rfl
              exact habove List.nil_prefix
            rw [← at?_folderUnder hlast hblocked hother]
            exact hg'.apart other hbelow habove
          · rfl
      · obtain ⟨hname, hnames⟩ := List.forall_mem_cons.1 hnames
        exact hf.put hname (hproper (hf.folderUnder name) hitem hnames)

/-- A change below a place is one of the folder that stands there. -/
theorem putAt_append (hat : f.at? before = some (.folder g)) (hpath : path ≠ [])
    (hput : putAt item path g = some g') :
    ∃ f', putAt item (before ++ path) f = some f' ∧ f'.at? before = some (.folder g') := by
  induction before generalizing f with
  | nil =>
    cases hat
    exact ⟨g', hput, rfl⟩
  | cons name before ih =>
    cases hfind : f.find? name with
    | none =>
      rw [at?_cons_of_none hfind] at hat
      cases hat
    | some found =>
      cases found with
      | leaf l =>
        rw [at?_cons_of_leaf hfind] at hat
        split at hat <;> cases hat
      | folder inside =>
        rw [at?_cons_of_folder hfind] at hat
        obtain ⟨inside', hput', hat'⟩ := ih hat
        refine ⟨f.put name (.folder inside'), ?_, ?_⟩
        · rw [List.cons_append, putAt, hfind]
          · simp only [hput', Option.map_some]
          · exact List.append_ne_nil_of_right_ne_nil before hpath
        · rw [at?_put_cons, if_pos rfl]
          exact hat'

end Folder
end BlobDepot
