import BlobDepot.Proofs.Path
import Mathlib.Data.List.Induction
import Mathlib.Logic.Function.Iterate

/-!
# Steps from key to key

From a key that is made from a path, steps up and steps down to names never lead to a path with a
slash in front. They lead to one with a slash at its end only by going up to an empty segment of the
path they started from.

Steps up undo steps down to single segments, whatever the key. From a key that is made from a path
they lead to the root of its container, one for each segment.
-/
namespace BlobDepot.Key

open BlobDepot.Path (IsName hasSlash parts segments)

variable {start mid k : Key} {path p r : String} {steps more : List String} {n : Nat}

/-- What is reached from a key by steps to parents and to children with names. -/
inductive Reached (start : Key) : Key → Prop where
  | start : Reached start start
  | parent {k : Key} (h : Reached start k) : Reached start k.parent
  | child {k : Key} {name : String} (h : Reached start k) (hname : IsName name) :
      Reached start (k.child name)

theorem Reached.trans (h : Reached start mid) (h' : Reached mid k) : Reached start k := by
  induction h' with
  | start => exact h
  | parent _ ih => exact ih.parent
  | child _ hname ih => exact ih.child hname

/-! ## Slashes in front -/

theorem parent_path_ne_slash_append (h : ∀ r, k.path ≠ "/" ++ r) (r : String) :
    k.parent.path ≠ "/" ++ r := by
  intro heq
  rcases Path.parent_cases k.path with ⟨-, hparent⟩ | ⟨before, after, -, hpath, hparent⟩
  · have hempty : "" = "/" ++ r := hparent.symm.trans heq
    simp at hempty
  · have hbefore : before = "/" ++ r := hparent.symm.trans heq
    refine h (r ++ "/" ++ after) ?_
    rw [hpath, hbefore]
    simp only [String.append_assoc]

theorem child_path_ne_slash_append (h : ∀ r, k.path ≠ "/" ++ r) {name : String}
    (hname : IsName name) (r : String) : (k.child name).path ≠ "/" ++ r := by
  intro heq
  by_cases hroot : k.path = ""
  · have hslash : name = "/" ++ r := by
      rwa [child_path, lead, hroot, Path.lead_root, String.empty_append] at heq
    exact Path.append_slash_ne hname.2 "" r (by simpa using hslash)
  · obtain ⟨c, l, hl⟩ := List.exists_cons_of_ne_nil (mt String.toList_eq_nil_iff.1 hroot)
    have hchars := congrArg String.toList heq
    rw [child_path, lead, Path.lead, if_neg hroot] at hchars
    simp only [String.toList_append, hl, List.cons_append] at hchars
    have hc : c = '/' := (List.cons.inj hchars).1
    refine h (String.ofList l) ?_
    rw [← String.toList_inj, hl, hc]
    simp

theorem Reached.path_ne_slash_append (h : Reached start k) (hstart : ∀ r, start.path ≠ "/" ++ r) :
    ∀ r, k.path ≠ "/" ++ r := by
  induction h with
  | start => exact hstart
  | parent _ ih => exact parent_path_ne_slash_append ih
  | child _ hname ih => exact child_path_ne_slash_append ih hname

/-! ## Slashes at the end -/

/-- What is reached keeps a first part of the segments, and has names below it. -/
theorem Reached.parts_eq (h : Reached start k) (hstart : ∀ r, start.path ≠ "/" ++ r) :
    ∃ kept names, parts k.path = kept ++ names ∧ kept <+: parts start.path ∧
      ∀ n ∈ names, IsName n := by
  induction h with
  | start => exact ⟨_, [], (List.append_nil _).symm, List.prefix_rfl, nofun⟩
  | @parent k h ih =>
    obtain ⟨kept, names, hparts, hkept, hnames⟩ := ih
    have hparent : parts k.parent.path = (kept ++ names).dropLast := by
      rw [← hparts]
      exact Path.parts_parent (h.path_ne_slash_append hstart)
    by_cases hnil : names = []
    · refine ⟨kept.dropLast, [], ?_, (List.dropLast_prefix kept).trans hkept, nofun⟩
      rw [hparent, hnil, List.append_nil, List.append_nil]
    · refine ⟨kept, names.dropLast, ?_, hkept, fun n hn => ?_⟩
      · rw [hparent, List.dropLast_append_of_ne_nil hnil]
      · exact hnames n ((List.dropLast_sublist names).subset hn)
  | @child k name h hname ih =>
    obtain ⟨kept, names, hparts, hkept, hnames⟩ := ih
    refine ⟨kept, names ++ [name], ?_, hkept, fun n hn => ?_⟩
    · rw [← List.append_assoc, ← hparts]
      exact Path.parts_child hname
    · rcases List.mem_append.1 hn with hn | hn
      · exact hnames n hn
      · exact List.mem_singleton.1 hn ▸ hname

theorem exists_reached_of_parts_eq {kept more : List String} (hstart : ∀ r, start.path ≠ "/" ++ r)
    (h : parts start.path = kept ++ more) :
    ∃ k, Reached start k ∧ k.container = start.container ∧ parts k.path = kept := by
  induction more using List.reverseRecOn generalizing start with
  | nil => exact ⟨start, .start, rfl, by rw [h, List.append_nil]⟩
  | append_singleton more last ih =>
    have hparent : parts start.parent.path = kept ++ more := by
      have hdrop : parts start.parent.path = (parts start.path).dropLast :=
        Path.parts_parent hstart
      rw [hdrop, h, ← List.append_assoc, List.dropLast_concat]
    obtain ⟨k, hk, hcontainer, hparts⟩ := ih (parent_path_ne_slash_append hstart) hparent
    exact ⟨k, Reached.start.parent.trans hk, hcontainer, hparts⟩

theorem parts_append_slash (p : String) : parts (p ++ "/") = segments p ++ [""] := by
  have hempty : p ++ "/" = p ++ "/" ++ "" := by simp
  rw [hempty, Path.parts_append_slash, Path.segments_empty]

/-- A slash at the end of what is reached is the first of two in the path at the start. -/
theorem Reached.exists_of_append_slash (h : Reached start k) (hfront : ∀ r, start.path ≠ "/" ++ r)
    (hback : ∀ p, start.path ≠ p ++ "/") (hk : k.path = p ++ "/") :
    ∃ r, start.path = p ++ "//" ++ r := by
  obtain ⟨kept, names, hparts, ⟨more, hmore⟩, hnames⟩ := h.parts_eq hfront
  rw [hk, parts_append_slash] at hparts
  -- the last segment is empty, so that it is none of the names
  have hnil : names = [] := by
    by_contra hne
    have hlast := congrArg List.getLast? hparts
    rw [List.getLast?_concat, List.getLast?_append, List.getLast?_eq_some_getLast hne,
      Option.some_or, Option.some.injEq] at hlast
    exact (hnames _ (List.getLast_mem hne)).1 hlast.symm
  rw [hnil, List.append_nil] at hparts
  have hne : more ≠ [] := by
    rintro rfl
    rw [List.append_nil, ← hparts, ← parts_append_slash] at hmore
    exact hback p (Path.parts_inj hmore).symm
  refine ⟨Path.ofSegments more, ?_⟩
  rw [← Path.ofSegments_parts start.path, ← hmore, ← hparts, Path.ofSegments_append (by simp) hne,
    Path.ofSegments_append (Path.segments_ne_nil p) (by simp), Path.ofSegments_segments,
    Path.ofSegments_singleton]
  simp [String.append_assoc]

theorem reached_append_slash (hfront : ∀ r, start.path ≠ "/" ++ r)
    (hpath : start.path = p ++ "//" ++ r) : Reached start ⟨start.container, p ++ "/"⟩ := by
  have hparts : parts start.path = (segments p ++ [""]) ++ segments r := by
    have hsplit : p ++ "//" ++ r = p ++ "/" ++ "" ++ "/" ++ r := by
      simp [String.append_assoc]
    rw [hpath, hsplit, Path.parts_append_slash, Path.segments_append_slash, Path.segments_empty]
  obtain ⟨k, hk, hcontainer, hkept⟩ := exists_reached_of_parts_eq hfront hparts
  have heq : k = ⟨start.container, p ++ "/"⟩ := by
    rw [← parts_append_slash] at hkept
    rw [← hcontainer, ← Path.parts_inj hkept]
  exact heq ▸ hk

theorem ofPath_empty (container : String) : ofPath container "" = root container := rfl

/-- No path that is reached from a key made from a path has a slash in front. One with a slash at
its end is reached exactly where the path has a second slash behind that one; none is from the root
of a container. -/
theorem reached_path_ends (container path : String) :
    (∀ k, Reached (ofPath container path) k → ∀ r, k.path ≠ "/" ++ r) ∧
      (∀ p, (∃ k, Reached (ofPath container path) k ∧ k.path = p ++ "/") ↔
        ∃ r, Path.trim path = p ++ "//" ++ r) ∧
      ∀ k, Reached (root container) k → ∀ r, k.path ≠ "/" ++ r ∧ k.path ≠ r ++ "/" := by
  have hfront : ∀ path r, (ofPath container path).path ≠ "/" ++ r :=
    fun path => Path.trim_ne_slash_append path
  have hback : ∀ path p, (ofPath container path).path ≠ p ++ "/" :=
    fun path => Path.trim_ne_append_slash path
  refine ⟨fun k hk => hk.path_ne_slash_append (hfront path), fun p => ⟨?_, ?_⟩, fun k hk r => ?_⟩
  · rintro ⟨k, hk, hend⟩
    exact hk.exists_of_append_slash (hfront path) (hback path) hend
  · rintro ⟨r, hr⟩
    exact ⟨_, reached_append_slash (hfront path) hr, rfl⟩
  · rw [← ofPath_empty] at hk
    refine ⟨hk.path_ne_slash_append (hfront "") r, fun hr => ?_⟩
    obtain ⟨more, hmore⟩ := hk.exists_of_append_slash (hfront "") (hback "") hr
    have hempty : "" = r ++ "//" ++ more := hmore
    simp at hempty

/-- Up from a segment behind an empty one. -/
theorem parent_path_ends_in_slash :
    let start := ofPath "artifacts" "a//b"
    Reached start start.parent ∧ start.parent.path = "a" ++ "/" :=
  ⟨Reached.start.parent, by decide⟩

/-! ## There and back -/

/-- The key that is reached from another by one step after the other. -/
def descend (k : Key) (steps : List String) : Key :=
  steps.foldl child k

@[simp] theorem descend_nil (k : Key) : k.descend [] = k := rfl

@[simp] theorem descend_cons (k : Key) (step : String) (steps : List String) :
    k.descend (step :: steps) = (k.child step).descend steps := rfl

theorem descend_concat (k : Key) (steps : List String) (last : String) :
    k.descend (steps ++ [last]) = (k.descend steps).child last :=
  List.foldl_append

/-- As many steps up as there were steps down lead back to where those started. -/
theorem iterate_parent_descend (h : ∀ s ∈ steps, hasSlash s = false) :
    parent^[steps.length] (k.descend steps) = k := by
  induction steps using List.reverseRecOn with
  | nil => rfl
  | append_singleton steps last ih =>
    have hlast : hasSlash last = false := h last (by simp)
    rw [List.length_append, List.length_singleton, Function.iterate_succ_apply, descend_concat,
      parent_child _ hlast]
    exact ih fun s hs => h s (List.mem_append_left _ hs)

theorem child_parent_name (h : ∀ r, k.path ≠ "/" ++ r) : k.parent.child k.name = k := by
  rw [child, parent, name, Path.child_parent_name h]

theorem container_iterate_parent (k : Key) (n : Nat) :
    (parent^[n] k).container = k.container := by
  induction n with
  | zero => rfl
  | succ n ih =>
    rw [Function.iterate_succ_apply']
    exact ih

theorem parts_iterate_parent (h : ∀ r, k.path ≠ "/" ++ r) (n : Nat) :
    (∀ r, (parent^[n] k).path ≠ "/" ++ r) ∧
      (parts (parent^[n] k).path).length = (parts k.path).length - n := by
  induction n with
  | zero => exact ⟨h, rfl⟩
  | succ n ih =>
    obtain ⟨hfront, hlength⟩ := ih
    rw [Function.iterate_succ_apply']
    refine ⟨parent_path_ne_slash_append hfront, ?_⟩
    have hparent : parts (parent^[n] k).parent.path = (parts (parent^[n] k).path).dropLast :=
      Path.parts_parent hfront
    rw [hparent, List.length_dropLast, hlength, Nat.sub_sub]

theorem iterate_parent_eq_root_iff (h : ∀ r, k.path ≠ "/" ++ r) :
    parent^[n] k = root k.container ↔ (parts k.path).length ≤ n := by
  obtain ⟨-, hlength⟩ := parts_iterate_parent h n
  have hpath : (parent^[n] k).path = "" ↔ (parts k.path).length ≤ n := by
    rw [← Path.parts_eq_nil_iff, ← List.length_eq_zero_iff, hlength, Nat.sub_eq_zero_iff_le]
  rw [← hpath]
  constructor
  · intro hroot
    rw [hroot]
    rfl
  · intro hempty
    have hcontainer := container_iterate_parent k n
    cases hk : parent^[n] k
    rw [hk] at hempty hcontainer
    rw [root, ← hcontainer, ← hempty]

/-- Steps down to single segments, empty ones among them, are undone by as many steps up, from
every key, and each leads to a key of its name. A key that is made from a path is the child of its
parent by its name; steps up from it reach the root of the container with the last of its segments
and not before, and then stay there. -/
theorem steps_undone (k : Key) (steps : List String) (container path : String)
    (hsteps : ∀ s ∈ steps, hasSlash s = false) :
    parent^[steps.length] (k.descend steps) = k ∧
      (∀ before step, before ++ [step] <+: steps → (k.descend (before ++ [step])).name = step) ∧
        (ofPath container path).parent.child (ofPath container path).name = ofPath container path ∧
          (∀ n, parent^[n] (ofPath container path) = root container ↔
            (parts (Path.trim path)).length ≤ n) ∧
            (root container).parent = root container := by
  have hfront : ∀ r, (ofPath container path).path ≠ "/" ++ r := Path.trim_ne_slash_append path
  refine ⟨iterate_parent_descend hsteps, fun before step hbefore => ?_,
    child_parent_name hfront, fun n => iterate_parent_eq_root_iff hfront, parent_root container⟩
  rw [descend_concat]
  exact name_child _ (hsteps step (List.IsPrefix.subset hbefore (by simp)))

/-- Down by an empty segment and by a letter of two bytes from a path with a slash at its end; and
up from a path with an empty segment. -/
theorem steps_undone_by_empty_segments :
    let k : Key := ⟨"artifacts", "a/"⟩
    let start := ofPath "artifacts" "/job//x/"
    (∀ s ∈ ["", "é"], hasSlash s = false) ∧ parent^[2] (k.descend ["", "é"]) = k ∧
      (k.descend ["", "é"]).name = "é" ∧ start.parent.child start.name = start ∧
        parent^[3] start = root "artifacts" ∧ parent^[2] start ≠ root "artifacts" := by
  intro k start
  have hsteps : ∀ s ∈ ["", "é"], hasSlash s = false := by decide
  obtain ⟨hback, hname, hchild, hroot, -⟩ :=
    steps_undone k ["", "é"] "artifacts" "/job//x/" hsteps
  have hparts : (parts (Path.trim "/job//x/")).length = 3 := by decide
  refine ⟨hsteps, hback, hname [""] "é" List.prefix_rfl, hchild, (hroot 3).2 ?_, fun htwo => ?_⟩
  · exact Nat.le_of_eq hparts
  · exact absurd ((hroot 2).1 htwo) (by rw [hparts]; decide)

end BlobDepot.Key
