import BlobDepot.Proofs.Catalog
import BlobDepot.Proofs.Path
import BlobDepot.Tree.Frame

/-!
# Children and files of frames

The scan for the children of a path jumps, but it meets the first segment of everything that
stands below the path. The run of files below a path is all of them.
-/
namespace BlobDepot.Frame

variable {f : Frame} {start path name below : String} {info : FileInfo}
  {l : List (String × FileInfo)} {e : String × FileInfo}

/-! ## Children -/

/-- Behind an entry that does not start with a text nothing does. -/
theorem not_mem_of_after?_eq_none (hstart : start ≤ e.1) (hafter : Text.after? start e.1 = none)
    (hl : (e :: l).Pairwise fun a b => a.1 < b.1) (below : String) (info : FileInfo) :
    (start ++ below, info) ∉ e :: l := by
  intro hmem
  have hle : e.1 ≤ start ++ below := by
    rcases List.mem_cons.1 hmem with heq | hmem
    · exact Std.le_of_eq (congrArg Prod.fst heq).symm
    · exact Std.le_of_lt ((List.pairwise_cons.1 hl).1 _ hmem)
  have hs : Text.startsWith start e.1 = true :=
    Text.startsWith_of_le_of_le hstart hle (Text.startsWith_iff.2 ⟨below, rfl⟩)
  rw [Text.startsWith, hafter] at hs
  cases hs

/-- What the scan jumps over stands below the child it has met. -/
theorem mem_dropWhile_or_below (hl : l.Pairwise fun a b => a.1 < b.1)
    (hmem : (start ++ below, info) ∈ l) (hlow : start ++ name ++ "/" ≤ start ++ below) :
    (start ++ below, info) ∈ l.dropWhile (fun e => e.1 < pastChild start name) ∨
      ∃ rest, below = name ++ "/" ++ rest := by
  by_cases hpast : start ++ below < pastChild start name
  · obtain ⟨rest, hrest⟩ := Text.eq_append_slash_of_lt hlow hpast
    refine .inr ⟨rest, ?_⟩
    rwa [String.append_assoc, String.append_assoc, String.append_right_inj,
      ← String.append_assoc] at hrest
  · left
    rw [Catalog.dropWhile_lt_eq_filter hl]
    exact List.mem_filter.2 ⟨hmem, by simpa using hpast⟩

theorem mem_childNames_iff (hl : l.Pairwise fun a b => a.1 < b.1)
    (hstart : ∀ e ∈ l, start ≤ e.1) :
    name ∈ childNames start l ↔
      ∃ below info, (start ++ below, info) ∈ l ∧ (Path.firstSegment below).1 = name := by
  fun_induction childNames start l with
  | case1 => simp
  | case2 p i rest hafter =>
    have hnone := not_mem_of_after?_eq_none (hstart _ List.mem_cons_self) hafter hl
    simp [hnone]
  | case3 p i rest below hafter step hfirst ih =>
    obtain ⟨hlt, hrest⟩ := List.pairwise_cons.1 hl
    obtain rfl : p = start ++ below := Text.after?_eq_some_iff.1 hafter
    obtain ⟨hstep, more, hbelow⟩ := Path.firstSegment_eq_true_iff.1 hfirst
    have hsub := List.dropWhile_sublist (fun e => decide (e.1 < pastChild start step)) (l := rest)
    have ih := ih (hrest.sublist hsub)
      fun e he => hstart e (List.mem_cons_of_mem _ (hsub.subset he))
    rw [List.mem_cons, ih]
    constructor
    · rintro (rfl | ⟨below', info, hmem, hname⟩)
      · exact ⟨below, i, List.mem_cons_self, by rw [hfirst]⟩
      · exact ⟨below', info, List.mem_cons_of_mem _ (hsub.subset hmem), hname⟩
    · rintro ⟨below', info, hmem, hname⟩
      rcases List.mem_cons.1 hmem with heq | hmem
      · rw [Prod.mk.injEq, String.append_right_inj] at heq
        rw [heq.1, hfirst] at hname
        exact .inl hname.symm
      · have hlow : start ++ step ++ "/" ≤ start ++ below' := by
          refine Std.le_trans ?_ (Std.le_of_lt (hlt _ hmem))
          rw [hbelow, ← String.append_assoc, ← String.append_assoc]
          exact Text.le_append _ more
        -- what is skipped is below the child that was just found
        rcases mem_dropWhile_or_below hrest hmem hlow with hdrop | ⟨rest', rfl⟩
        · exact .inr ⟨below', info, hdrop, hname⟩
        · rw [Path.firstSegment_append_slash hstep] at hname
          exact .inl hname.symm
  | case4 p i rest below hafter step hfirst ih =>
    obtain ⟨hlt, hrest⟩ := List.pairwise_cons.1 hl
    obtain rfl : p = start ++ below := Text.after?_eq_some_iff.1 hafter
    have ih := ih hrest fun e he => hstart e (List.mem_cons_of_mem _ he)
    rw [List.mem_cons, ih]
    constructor
    · rintro (rfl | ⟨below', info, hmem, hname⟩)
      · exact ⟨below, i, List.mem_cons_self, by rw [hfirst]⟩
      · exact ⟨below', info, List.mem_cons_of_mem _ hmem, hname⟩
    · rintro ⟨below', info, hmem, hname⟩
      rcases List.mem_cons.1 hmem with heq | hmem
      · rw [Prod.mk.injEq, String.append_right_inj] at heq
        rw [heq.1, hfirst] at hname
        exact .inl hname.symm
      · exact .inr ⟨below', info, hmem, hname⟩

theorem mem_children_iff :
    name ∈ f.children path ↔ ∃ below info,
      f.files.get? (Path.lead path ++ below) = some info ∧ (Path.firstSegment below).1 = name := by
  have hsorted : (f.files.atLeast (Path.lead path)).Pairwise fun a b => a.1 < b.1 := by
    rw [Catalog.atLeast_eq_filter]
    exact f.files.sorted.filter _
  have hmem : ∀ e, e ∈ f.files.atLeast (Path.lead path) ↔
      e ∈ f.files.entries ∧ Path.lead path ≤ e.1 := by
    intro e
    rw [Catalog.atLeast_eq_filter, List.mem_filter, Bool.not_eq_true', decide_eq_false_iff_not,
      String.not_lt]
  rw [children, Catalog.mem_keys_ofKeys,
    mem_childNames_iff hsorted fun e he => ((hmem e).1 he).2]
  simp only [hmem, Catalog.get?_eq_some_iff, Text.le_append, and_true]

theorem pairwise_children (f : Frame) (path : String) : (f.children path).Pairwise (· < ·) :=
  Catalog.pairwise_keys _

/-! ## Files -/

theorem mem_filesBelow_iff :
    (below, info) ∈ f.filesBelow path ↔
      f.files.get? (Path.lead path ++ below) = some info := by
  rw [filesBelow, Catalog.under_eq_filter, Catalog.get?_eq_some_iff, List.mem_filterMap]
  constructor
  · rintro ⟨e, he, hafter⟩
    obtain ⟨rest, hrest, heq⟩ := Option.map_eq_some_iff.1 hafter
    cases heq
    rw [Text.after?_eq_some_iff] at hrest
    rw [← hrest]
    exact (List.mem_filter.1 he).1
  · intro h
    refine ⟨_, List.mem_filter.2 ⟨h, Text.startsWith_iff.2 ⟨below, rfl⟩⟩, ?_⟩
    simp

theorem pairwise_filesBelow (f : Frame) (path : String) :
    ((f.filesBelow path).map Prod.fst).Pairwise (· < ·) := by
  rw [filesBelow, Catalog.under_eq_filter, List.pairwise_map, List.pairwise_filterMap]
  refine (f.files.sorted.filter _).imp fun {a b} hab x hx y hy => ?_
  obtain ⟨rest, hrest, rfl⟩ := Option.map_eq_some_iff.1 hx
  obtain ⟨rest', hrest', rfl⟩ := Option.map_eq_some_iff.1 hy
  rw [Text.after?_eq_some_iff] at hrest hrest'
  rw [hrest, hrest'] at hab
  exact Text.lt_of_append_lt_append hab

end BlobDepot.Frame
