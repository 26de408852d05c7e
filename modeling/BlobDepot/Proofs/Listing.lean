import BlobDepot.Object
import BlobDepot.Proofs.Catalog
import BlobDepot.Proofs.Path
import Mathlib.Data.List.Induction
import Mathlib.Data.List.Sort

/-!
# Rolled up listings

One level of a listing shows each entry whose key goes on with a name, the last of those under one
key, and one common prefix for all that goes on with a first segment and a slash.
-/
namespace BlobDepot.Listing

open BlobDepot.Path (IsName hasSlash)

variable {start name key : String} {level : Catalog Entry} {e : Entry}
  {l l' : List Entry}

theorem pairwise_le_mergeSort (l : List Entry) :
    (l.mergeSort fun a b => a.key ≤ b.key).Pairwise fun a b => a.key ≤ b.key := by
  have hsorted : (l.mergeSort fun a b => a.key ≤ b.key).Pairwise
      fun a b => decide (a.key ≤ b.key) = true := by
    refine List.pairwise_mergeSort (fun a b c hab hbc => ?_) (fun a b => ?_) l
    · exact decide_eq_true (Std.le_trans (of_decide_eq_true hab) (of_decide_eq_true hbc))
    · simpa using Std.le_total (a := a.key) (b := b.key)
  exact hsorted.imp of_decide_eq_true

/-- Sorted by their keys, entries of different keys are in increasing order of them. -/
theorem pairwise_mergeSort (h : (l.map Entry.key).Nodup) :
    (l.mergeSort fun a b => a.key ≤ b.key).Pairwise fun a b => a.key < b.key := by
  have hne : (l.mergeSort fun a b => a.key ≤ b.key).Pairwise fun a b => a.key ≠ b.key :=
    List.pairwise_map.1 (((List.mergeSort_perm l _).map Entry.key).nodup_iff.2 h)
  exact (pairwise_le_mergeSort l).imp₂ (fun _ _ => Std.lt_of_le_of_ne) hne

/-- An entry is not below the prefix, or it is folded into its first segment, or it goes on with
a name and stands for itself. -/
theorem add_cases (start : String) (level : Catalog Entry) (e : Entry) :
    (add start level e = level ∧ ∀ rest, e.key = start ++ rest → rest = "") ∨
      (∃ step rest, hasSlash step = false ∧ e.key = start ++ (step ++ "/" ++ rest) ∧
        add start level e =
          level.insertNew (start ++ step ++ "/") (.rolled (start ++ step ++ "/"))) ∨
      ∃ step, IsName step ∧ e.key = start ++ step ∧ add start level e = level.insert e.key e := by
  cases hafter : Text.after? start e.key with
  | none =>
    refine .inl ⟨by simp [add, hafter], fun rest hrest => ?_⟩
    rw [Text.after?_eq_some_iff.2 hrest] at hafter
    cases hafter
  | some rest =>
    have hkey : e.key = start ++ rest := Text.after?_eq_some_iff.1 hafter
    by_cases hempty : rest = ""
    · refine .inl ⟨by simp [add, hafter, hempty], fun rest' hrest' => ?_⟩
      rw [hkey, String.append_right_inj] at hrest'
      exact hrest'.symm.trans hempty
    · rcases Path.firstSegment_cases rest with ⟨hrest, hfirst⟩ | ⟨step, more, hstep, heq, hfirst⟩
      · exact .inr (.inr ⟨rest, ⟨hempty, hrest⟩, hkey, by simp [add, hafter, hempty, hfirst]⟩)
      · exact .inr (.inl ⟨step, more, hstep, heq ▸ hkey,
          by simp [add, hafter, hempty, hfirst]⟩)

theorem get?_add_name (hname : IsName name) (level : Catalog Entry) (e : Entry) :
    (add start level e).get? (start ++ name) =
      if e.key = start ++ name then some e else level.get? (start ++ name) := by
  rcases add_cases start level e with ⟨hadd, hrest⟩ | ⟨step, rest, -, hkey, hadd⟩ |
    ⟨step, -, hkey, hadd⟩
  · rw [hadd, if_neg fun hkey => hname.1 (hrest name hkey)]
  · have hne : e.key ≠ start ++ name := by
      rw [hkey, ne_eq, String.append_right_inj]
      exact (Path.append_slash_ne hname.2 step rest).symm
    rw [hadd, if_neg hne, Catalog.get?_insertNew,
      if_neg (Path.append_ne_append_slash hname start (start ++ step))]
  · rw [hadd, Catalog.get?_insert]
    simp only [eq_comm]

theorem get?_add_rolled (hname : hasSlash name = false) (level : Catalog Entry) (e : Entry) :
    (add start level e).get? (start ++ name ++ "/") =
      if Text.startsWith (start ++ name ++ "/") e.key then
        (level.get? (start ++ name ++ "/")).or (some (.rolled (start ++ name ++ "/")))
      else level.get? (start ++ name ++ "/") := by
  have hstarts : Text.startsWith (start ++ name ++ "/") e.key = true ↔
      ∃ rest, e.key = start ++ (name ++ "/" ++ rest) := by
    simp only [Text.startsWith_iff, String.append_assoc]
  rcases add_cases start level e with ⟨hadd, hrest⟩ | ⟨step, rest, hstep, hkey, hadd⟩ |
    ⟨step, hstep, hkey, hadd⟩
  · have hnot : ¬ Text.startsWith (start ++ name ++ "/") e.key = true := by
      intro h
      obtain ⟨rest, hkey⟩ := hstarts.1 h
      have hempty := hrest _ hkey
      simp at hempty
    rw [hadd, if_neg hnot]
  · have hiff : Text.startsWith (start ++ name ++ "/") e.key = true ↔
        start ++ name ++ "/" = start ++ step ++ "/" := by
      rw [hstarts, hkey, String.append_left_inj, String.append_right_inj]
      constructor
      · rintro ⟨rest', heq⟩
        rw [String.append_right_inj] at heq
        exact (Path.eq_of_append_slash_eq hstep hname heq).symm
      · rintro rfl
        exact ⟨rest, rfl⟩
    rw [hadd, Catalog.get?_insertNew]
    by_cases heq : start ++ name ++ "/" = start ++ step ++ "/"
    · rw [if_pos heq, if_pos (hiff.2 heq), heq]
    · rw [if_neg heq, if_neg fun h => heq (hiff.1 h)]
  · have hnot : ¬ Text.startsWith (start ++ name ++ "/") e.key = true := by
      intro h
      obtain ⟨rest, hkey'⟩ := hstarts.1 h
      rw [hkey, String.append_right_inj] at hkey'
      exact Path.append_slash_ne hstep.2 name rest hkey'
    have hne : start ++ name ++ "/" ≠ e.key := by
      rw [hkey]
      exact (Path.append_ne_append_slash hstep start (start ++ name)).symm
    rw [hadd, if_neg hnot, Catalog.get?_insert, if_neg hne]

theorem get?_foldl_add_name (hname : IsName name) (l : List Entry) :
    (l.foldl (add start) .empty).get? (start ++ name) =
      l.reverse.find? fun e => e.key = start ++ name := by
  induction l using List.reverseRecOn with
  | nil => rfl
  | append_singleton l e ih =>
    rw [List.foldl_append, List.foldl_cons, List.foldl_nil, get?_add_name hname, ih,
      List.reverse_concat, List.find?_cons]
    by_cases hkey : e.key = start ++ name
    · simp [hkey]
    · simp [hkey]

theorem get?_foldl_add_rolled (hname : hasSlash name = false) (l : List Entry) :
    (l.foldl (add start) .empty).get? (start ++ name ++ "/") =
      if l.any fun e => Text.startsWith (start ++ name ++ "/") e.key then
        some (.rolled (start ++ name ++ "/"))
      else none := by
  induction l using List.reverseRecOn with
  | nil => rfl
  | append_singleton l e ih =>
    rw [List.foldl_append, List.foldl_cons, List.foldl_nil, get?_add_rolled hname, ih,
      List.any_append, List.any_cons, List.any_nil, Bool.or_false]
    cases (l.any fun e => Text.startsWith (start ++ name ++ "/") e.key) <;>
      cases Text.startsWith (start ++ name ++ "/") e.key <;> rfl

theorem eq_of_get?_foldl_add (h : (l.foldl (add start) .empty).get? key = some e) :
    (∃ name, IsName name ∧ key = start ++ name) ∨
      ∃ name, hasSlash name = false ∧ key = start ++ name ++ "/" := by
  induction l using List.reverseRecOn with
  | nil => cases h
  | append_singleton l e' ih =>
    rw [List.foldl_append, List.foldl_cons, List.foldl_nil] at h
    rcases add_cases start (l.foldl (add start) .empty) e' with ⟨hadd, -⟩ |
      ⟨step, rest, hstep, -, hadd⟩ | ⟨step, hstep, hkey, hadd⟩
    · rw [hadd] at h
      exact ih h
    · rw [hadd, Catalog.get?_insertNew] at h
      by_cases heq : key = start ++ step ++ "/"
      · exact .inr ⟨step, hstep, heq⟩
      · rw [if_neg heq] at h
        exact ih h
    · rw [hadd, Catalog.get?_insert] at h
      by_cases heq : key = e'.key
      · exact .inl ⟨step, hstep, heq.trans hkey⟩
      · rw [if_neg heq] at h
        exact ih h

/-- One level of a listing: the last entry under each name, and a common prefix for each first
segment that a slash follows. -/
theorem mem_rollUp_iff :
    e ∈ rollUp start l ↔
      (∃ name, IsName name ∧ e.key = start ++ name ∧ e ∈ Catalog.latest Entry.key l) ∨
        ∃ name, hasSlash name = false ∧
          (∃ e' ∈ l, Text.startsWith (start ++ name ++ "/") e'.key = true) ∧
          e = .rolled (start ++ name ++ "/") := by
  rw [rollUp, Catalog.mem_values_iff]
  constructor
  · rintro ⟨key, hget⟩
    rcases eq_of_get?_foldl_add hget with ⟨name, hname, rfl⟩ | ⟨name, hname, rfl⟩
    · rw [get?_foldl_add_name hname, Catalog.find?_reverse_eq_some_iff] at hget
      exact .inl ⟨name, hname, hget.2, hget.1⟩
    · rw [get?_foldl_add_rolled hname] at hget
      split at hget
      · rename_i hany
        exact .inr ⟨name, hname, List.any_eq_true.1 hany, (Option.some.inj hget).symm⟩
      · cases hget
  · rintro (⟨name, hname, hkey, hlast⟩ | ⟨name, hname, hany, rfl⟩)
    · refine ⟨start ++ name, (get?_foldl_add_name hname l).trans ?_⟩
      exact Catalog.find?_reverse_eq_some_iff.2 ⟨hlast, hkey⟩
    · refine ⟨start ++ name ++ "/", ?_⟩
      rw [get?_foldl_add_rolled hname, if_pos (List.any_eq_true.2 hany)]

/-! ## The order of a level -/

theorem key_of_get?_foldl_add (h : (l.foldl (add start) .empty).get? key = some e) :
    e.key = key := by
  rcases eq_of_get?_foldl_add h with ⟨name, hname, rfl⟩ | ⟨name, hname, rfl⟩
  · rw [get?_foldl_add_name hname] at h
    simpa using List.find?_some h
  · rw [get?_foldl_add_rolled hname] at h
    split at h
    · cases h
      rfl
    · cases h

theorem pairwise_rollUp (start : String) (l : List Entry) :
    (rollUp start l).Pairwise fun a b => a.key < b.key := by
  rw [rollUp, Catalog.values, List.pairwise_map]
  refine (Catalog.sorted _).imp_of_mem fun {a b} ha hb hab => ?_
  rwa [key_of_get?_foldl_add (Catalog.get?_eq_some_iff.2 ha),
    key_of_get?_foldl_add (Catalog.get?_eq_some_iff.2 hb)]

theorem rollUp_eq_of_mem_iff (h : ∀ e, e ∈ rollUp start l ↔ e ∈ rollUp start l') :
    rollUp start l = rollUp start l' :=
  (pairwise_rollUp start l).eq_of_mem_iff (pairwise_rollUp start l') h

theorem latest_rollUp (start : String) (l : List Entry) :
    Catalog.latest Entry.key (rollUp start l) = rollUp start l :=
  Catalog.latest_eq_self (List.pairwise_map.2 ((pairwise_rollUp start l).imp String.ne_of_lt))

/-! ## What a level depends on -/

theorem add_of_not_below (h : ∀ rest, e.key = start ++ rest → rest = "")
    (level : Catalog Entry) : add start level e = level := by
  rcases add_cases start level e with ⟨hadd, -⟩ | ⟨step, rest, -, hkey, -⟩ |
    ⟨step, hstep, hkey, -⟩
  · exact hadd
  · exact absurd (h _ hkey) (by simp)
  · exact absurd (h step hkey) hstep.1

theorem rollUp_filter (start : String) (l : List Entry) :
    rollUp start (l.filter fun e => Text.startsWith start e.key ∧ e.key ≠ start) =
      rollUp start l := by
  have hadd : (fun level (e : Entry) =>
      if decide (Text.startsWith start e.key = true ∧ e.key ≠ start) = true then add start level e
      else level) = add start := by
    funext level e
    split
    · rfl
    · rename_i hnot
      refine (add_of_not_below (fun rest hkey => ?_) level).symm
      by_contra hrest
      refine hnot (decide_eq_true ⟨Text.startsWith_iff.2 ⟨rest, hkey⟩, ?_⟩)
      rwa [hkey, ne_eq, String.append_eq_left_iff]
  rw [rollUp, rollUp, List.foldl_filter, hadd]

theorem rollUp_perm (hl : (l.map Entry.key).Nodup) (h : l'.Perm l) :
    rollUp start l' = rollUp start l := by
  have hl' : (l'.map Entry.key).Nodup := (h.map Entry.key).nodup_iff.2 hl
  refine rollUp_eq_of_mem_iff fun e => ?_
  simp only [mem_rollUp_iff, Catalog.latest_eq_self hl, Catalog.latest_eq_self hl', h.mem_iff]

theorem rolled_mem_of_startsWith {e : Entry} (hname : hasSlash name = false)
    (he : e ∈ rollUp start l) (hstarts : Text.startsWith (start ++ name ++ "/") e.key = true) :
    .rolled (start ++ name ++ "/") ∈ rollUp start l := by
  obtain ⟨rest, hkey⟩ := Text.startsWith_iff.1 hstarts
  rcases mem_rollUp_iff.1 he with ⟨name', hname', hkey', -⟩ | ⟨name', hname', -, rfl⟩
  · rw [hkey', String.append_assoc, String.append_assoc, String.append_right_inj,
      ← String.append_assoc] at hkey
    exact absurd hkey (Path.append_slash_ne hname'.2 name rest)
  · have hslash : name' ++ "/" ++ "" = name ++ "/" ++ rest := by
      rw [String.append_empty, ← String.append_right_inj start]
      simpa only [Entry.rolled, String.append_assoc] using hkey
    rwa [← Path.eq_of_append_slash_eq hname' hname hslash]

theorem rollUp_rollUp (start : String) (l : List Entry) :
    rollUp start (rollUp start l) = rollUp start l := by
  refine rollUp_eq_of_mem_iff fun e => ?_
  rw [mem_rollUp_iff, latest_rollUp]
  constructor
  · rintro (⟨name, -, -, he⟩ | ⟨name, hname, ⟨e', he', hstarts⟩, rfl⟩)
    · exact he
    · exact rolled_mem_of_startsWith hname he' hstarts
  · intro he
    rcases mem_rollUp_iff.1 he with ⟨name, hname, hkey, -⟩ | ⟨name, hname, -, rfl⟩
    · exact .inl ⟨name, hname, hkey, he⟩
    · exact .inr ⟨name, hname, ⟨_, he, Text.startsWith_iff.2 ⟨"", by simp [Entry.rolled]⟩⟩, rfl⟩

/-- Rolling up is exact and stable. The level is in the order of the bytes of its keys, each key
once. It shows the last entry under each key that goes on from the prefix with a name, one common
prefix for each first segment that a slash follows, and nothing else. What is not strictly below
the prefix does not count, nor does the order of entries whose keys are all different, and a level
rolled up again stays as it is. -/
theorem rollUp_exact (start : String) (l : List Entry) :
    ((rollUp start l).map fun e => Text.bytes e.key).Pairwise (· < ·) ∧
    (∀ e, e ∈ rollUp start l ↔
      (∃ name, IsName name ∧ e.key = start ++ name ∧ e ∈ Catalog.latest Entry.key l) ∨
        ∃ name, hasSlash name = false ∧
          (∃ e' ∈ l, ∃ rest, e'.key = start ++ name ++ "/" ++ rest) ∧
          e = .rolled (start ++ name ++ "/")) ∧
    rollUp start (l.filter fun e => Text.startsWith start e.key ∧ e.key ≠ start) =
      rollUp start l ∧
    (∀ l' : List Entry, l'.Perm l → (l.map Entry.key).Nodup →
      rollUp start l' = rollUp start l) ∧
    rollUp start (rollUp start l) = rollUp start l := by
  refine ⟨?_, fun e => ?_, rollUp_filter start l, fun l' h hl => rollUp_perm hl h,
    rollUp_rollUp start l⟩
  · exact List.pairwise_map.2 ((pairwise_rollUp start l).imp Text.bytes_lt_of_lt)
  · rw [mem_rollUp_iff]
    simp only [Text.startsWith_iff]

/-- A level of an object, a directory of two, an empty segment and a common prefix. -/
theorem rollUp_exact_of_reversed :
    let l : List Entry := [.object "a/f1" 1 (some 10), .object "a/d/x" 2 none, .rolled "a/e/",
      .object "a/d/y" 3 (some 10), .object "a//z" 4 none, .object "a/" 5 none, .object "b" 6 none]
    l.reverse.Perm l ∧ (l.map Entry.key).Nodup ∧ rollUp "a/" l.reverse = rollUp "a/" l ∧
      rollUp "a/" l = [.rolled "a//", .rolled "a/d/", .rolled "a/e/",
        .object "a/f1" 1 (some 10)] := by
  intro l
  have hperm : l.reverse.Perm l := l.reverse_perm
  have hkeys : (l.map Entry.key).Nodup := by decide +kernel
  obtain ⟨-, -, -, horder, -⟩ := rollUp_exact "a/" l
  exact ⟨hperm, hkeys, horder l.reverse hperm hkeys, by decide +kernel⟩

end BlobDepot.Listing
