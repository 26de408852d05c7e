import BlobDepot.Key

/-!
# Segments and names

A name is a segment with something in it. A text goes on from its first segment with nothing or
with a slash, and the segments of a path are those on either side of any of its slashes.
-/
namespace BlobDepot

namespace Path

def IsName (s : String) : Prop :=
  s ≠ "" ∧ hasSlash s = false

instance (s : String) : Decidable (IsName s) :=
  inferInstanceAs (Decidable (s ≠ "" ∧ hasSlash s = false))

variable {path p r s step name rest below : String}

theorem hasSlash_eq_false_iff : hasSlash s = false ↔ '/' ∉ s.toList := by
  simp [hasSlash]

theorem toList_append_slash (s r : String) :
    (s ++ "/" ++ r).toList = s.toList ++ '/' :: r.toList := by
  simp

/-! ## The first and the last segment -/

theorem splitFirst_append {before after : List Char} (h : '/' ∉ before) :
    splitFirst (before ++ '/' :: after) = some (before, after) := by
  induction before with
  | nil => simp [splitFirst]
  | cons c before ih =>
    rw [List.mem_cons, not_or] at h
    simp [splitFirst, Ne.symm h.1, ih h.2]

theorem splitLast_append {before after : List Char} (h : '/' ∉ after) :
    splitLast (before ++ '/' :: after) = some (before, after) := by
  induction before with
  | nil => simp [splitLast, splitLast_eq_none.2 h]
  | cons c before ih => simp [splitLast, ih]

theorem firstSegment_of_not_hasSlash (h : hasSlash s = false) : firstSegment s = (s, false) := by
  rw [firstSegment, splitFirst_eq_none.2 (hasSlash_eq_false_iff.1 h)]

theorem firstSegment_append_slash (h : hasSlash name = false) (rest : String) :
    firstSegment (name ++ "/" ++ rest) = (name, true) := by
  rw [firstSegment, toList_append_slash, splitFirst_append (hasSlash_eq_false_iff.1 h)]
  simp

/-- A text is a segment, or a slash follows its first segment. -/
theorem firstSegment_cases (s : String) :
    (hasSlash s = false ∧ firstSegment s = (s, false)) ∨
      ∃ name rest, hasSlash name = false ∧ s = name ++ "/" ++ rest ∧
        firstSegment s = (name, true) := by
  cases hsplit : splitFirst s.toList with
  | none =>
    have hs : hasSlash s = false := hasSlash_eq_false_iff.2 (splitFirst_eq_none.1 hsplit)
    exact .inl ⟨hs, firstSegment_of_not_hasSlash hs⟩
  | some parts =>
    obtain ⟨before, after⟩ := parts
    obtain ⟨hs, hbefore⟩ := splitFirst_eq_some hsplit
    have hname : hasSlash (String.ofList before) = false :=
      hasSlash_eq_false_iff.2 (by simpa using hbefore)
    have heq : s = String.ofList before ++ "/" ++ String.ofList after := by
      rw [← String.toList_inj, toList_append_slash, hs]
      simp
    exact .inr ⟨_, _, hname, heq, by rw [heq, firstSegment_append_slash hname]⟩

theorem firstSegment_eq_true_iff :
    firstSegment s = (name, true) ↔ hasSlash name = false ∧ ∃ rest, s = name ++ "/" ++ rest := by
  constructor
  · intro h
    rcases firstSegment_cases s with ⟨-, hfirst⟩ | ⟨name', rest, hname, heq, hfirst⟩
    · rw [hfirst] at h
      cases h
    · rw [hfirst] at h
      cases h
      exact ⟨hname, rest, heq⟩
  · rintro ⟨hname, rest, rfl⟩
    exact firstSegment_append_slash hname rest

theorem eq_of_append_slash_eq {name' rest' : String} (h : hasSlash name = false)
    (h' : hasSlash name' = false) (heq : name ++ "/" ++ rest = name' ++ "/" ++ rest') :
    name = name' := by
  have hfirst := congrArg firstSegment heq
  rw [firstSegment_append_slash h, firstSegment_append_slash h'] at hfirst
  exact congrArg Prod.fst hfirst

theorem append_slash_ne (h : hasSlash s = false) (p r : String) : s ≠ p ++ "/" ++ r := by
  rintro rfl
  exact hasSlash_eq_false_iff.1 h (by simp)

theorem hasSlash_firstSegment (s : String) : hasSlash (firstSegment s).1 = false := by
  rcases firstSegment_cases s with ⟨hs, hfirst⟩ | ⟨name, rest, hname, -, hfirst⟩
  · rw [hfirst]
    exact hs
  · rw [hfirst]
    exact hname

theorem fst_firstSegment_eq_iff (h : hasSlash name = false) :
    (firstSegment s).1 = name ↔ s = name ∨ ∃ rest, s = name ++ "/" ++ rest := by
  constructor
  · rintro rfl
    rcases firstSegment_cases s with ⟨-, hfirst⟩ | ⟨name, rest, -, heq, hfirst⟩
    · exact .inl (by rw [hfirst])
    · exact .inr ⟨rest, by rw [hfirst, ← heq]⟩
  · rintro (rfl | ⟨rest, rfl⟩)
    · rw [firstSegment_of_not_hasSlash h]
    · rw [firstSegment_append_slash h]

theorem name_child (path : String) (h : hasSlash step = false) :
    Path.name (child path step) = step := by
  have hstep : '/' ∉ step.toList := hasSlash_eq_false_iff.1 h
  by_cases hpath : path = ""
  · rw [child, if_pos hpath, Path.name, splitLast_eq_none.2 hstep]
  · rw [child, if_neg hpath, Path.name, toList_append_slash, splitLast_append hstep]
    simp

/-! ## Ends of paths -/

theorem lead_eq_empty_iff : lead path = "" ↔ path = "" := by
  by_cases hpath : path = ""
  · simp [hpath]
  · simp [lead, hpath]

theorem ne_append_slash_of_getLast? (h : path.toList.getLast? ≠ some '/') (p : String) :
    path ≠ p ++ "/" := by
  rintro rfl
  simp at h

theorem trimEnd_of_not_hasSlash (h : hasSlash s = false) : trimEnd s = s := by
  have hall : ∀ c ∈ s.toList.reverse, ¬ ((c == '/') = true) := by
    intro c hc hslash
    apply hasSlash_eq_false_iff.1 h
    rw [← beq_iff_eq.1 hslash]
    exact List.mem_reverse.1 hc
  have hdrop : s.toList.reverse.dropWhile (· == '/') = s.toList.reverse := by
    cases hs : s.toList.reverse with
    | nil => rfl
    | cons c l => exact List.dropWhile_cons_of_neg (hall c (hs ▸ List.mem_cons_self))
  rw [trimEnd, hdrop, List.reverse_reverse, String.ofList_toList]

theorem trimEnd_append_slash (s : String) : trimEnd (s ++ "/") = trimEnd s := by
  simp [trimEnd]

theorem trim_ne_append_slash (path p : String) : trim path ≠ p ++ "/" := by
  intro h
  have hlast : (trim path).toList.getLast? = some '/' := by
    rw [h]
    simp
  rw [trim, String.toList_ofList, List.getLast?_reverse] at hlast
  have hhead := List.head?_dropWhile_not (· == '/')
    (path.toList.dropWhile (· == '/')).reverse
  rw [hlast] at hhead
  simp at hhead

theorem trim_ne_slash_append (path r : String) : trim path ≠ "/" ++ r := by
  intro h
  have hprefix : ((path.toList.dropWhile (· == '/')).reverse.dropWhile (· == '/')).reverse <+:
      path.toList.dropWhile (· == '/') := by
    rw [← List.reverse_suffix, List.reverse_reverse]
    exact List.dropWhile_suffix _
  have htrim := congrArg String.toList h
  rw [trim, String.toList_ofList, String.toList_append] at htrim
  obtain ⟨rest, hrest⟩ := htrim ▸ hprefix
  have hhead := List.head?_dropWhile_not (· == '/') path.toList
  rw [← hrest] at hhead
  simp at hhead

theorem append_ne_append_slash (h : IsName name) (s p : String) : s ++ name ≠ p ++ "/" := by
  intro heq
  have hname : name.toList ≠ [] := fun hnil => h.1 (String.toList_eq_nil_iff.1 hnil)
  have hlast : (s ++ name).toList.getLast? = some '/' := by
    rw [heq]
    simp
  rw [String.toList_append, List.getLast?_append, List.getLast?_eq_some_getLast hname,
    Option.some_or, Option.some.injEq] at hlast
  exact hasSlash_eq_false_iff.1 h.2 (hlast ▸ List.getLast_mem hname)

/-! ## Segments -/

theorem segmentChars_ne_nil (s : List Char) : segmentChars s ≠ [] := by
  cases s with
  | nil => simp [segmentChars]
  | cons c s =>
    simp only [segmentChars]
    split
    · simp
    · split <;> simp

theorem segmentChars_append_slash (p r : List Char) :
    segmentChars (p ++ '/' :: r) = segmentChars p ++ segmentChars r := by
  induction p with
  | nil => simp [segmentChars]
  | cons c p ih =>
    by_cases hc : c = '/'
    · simp [segmentChars, hc, ih]
    · obtain ⟨segment, more, hp⟩ := List.exists_cons_of_ne_nil (segmentChars_ne_nil p)
      simp [segmentChars, hc, ih, hp]

theorem segments_append_slash (p r : String) :
    segments (p ++ "/" ++ r) = segments p ++ segments r := by
  rw [segments, toList_append_slash, segmentChars_append_slash, List.map_append]
  rfl

theorem segmentChars_of_not_mem {l : List Char} (h : '/' ∉ l) : segmentChars l = [l] := by
  induction l with
  | nil => rfl
  | cons c l ih =>
    rw [List.mem_cons, not_or] at h
    simp [segmentChars, Ne.symm h.1, ih h.2]

theorem segments_of_not_hasSlash (h : hasSlash s = false) : segments s = [s] := by
  rw [segments, segmentChars_of_not_mem (hasSlash_eq_false_iff.1 h), List.map_singleton,
    String.ofList_toList]

/-- What is joined by slashes is found again between them. -/
theorem segmentChars_intercalate {ss : List (List Char)} (hne : ss ≠ [])
    (hss : ∀ s ∈ ss, '/' ∉ s) : segmentChars (['/'].intercalate ss) = ss := by
  induction ss with
  | nil => exact absurd rfl hne
  | cons s ss ih =>
    have hs : segmentChars s = [s] := segmentChars_of_not_mem (hss s List.mem_cons_self)
    cases ss with
    | nil => simpa using hs
    | cons t ss =>
      have hjoin : ['/'].intercalate (s :: t :: ss) = s ++ '/' :: ['/'].intercalate (t :: ss) := by
        simp [List.intercalate]
      rw [hjoin, segmentChars_append_slash, hs,
        ih (by simp) fun u hu => hss u (List.mem_cons_of_mem _ hu)]
      rfl

theorem not_mem_of_mem_segmentChars {l segment : List Char} (h : segment ∈ segmentChars l) :
    '/' ∉ segment := by
  induction l generalizing segment with
  | nil =>
    obtain rfl := List.mem_singleton.1 h
    exact List.not_mem_nil
  | cons c l ih =>
    by_cases hc : c = '/'
    · rw [segmentChars, if_pos hc] at h
      rcases List.mem_cons.1 h with rfl | hmem
      · exact List.not_mem_nil
      · exact ih hmem
    · obtain ⟨first, more, hl⟩ := List.exists_cons_of_ne_nil (segmentChars_ne_nil l)
      simp only [segmentChars, if_neg hc, hl] at h
      rw [hl] at ih
      rcases List.mem_cons.1 h with rfl | hmem
      · exact List.not_mem_cons_of_ne_of_not_mem (Ne.symm hc) (ih List.mem_cons_self)
      · exact ih (List.mem_cons_of_mem _ hmem)

theorem hasSlash_of_mem_segments (h : s ∈ segments path) : hasSlash s = false := by
  obtain ⟨segment, hsegment, rfl⟩ := List.mem_map.1 h
  rw [hasSlash_eq_false_iff, String.toList_ofList]
  exact not_mem_of_mem_segmentChars hsegment

theorem firstSegment_mem_segments (s : String) : (firstSegment s).1 ∈ segments s := by
  rcases firstSegment_cases s with ⟨hs, hfirst⟩ | ⟨name, rest, hname, heq, hfirst⟩
  · rw [hfirst, segments_of_not_hasSlash hs]
    exact List.mem_singleton_self s
  · rw [hfirst, heq, segments_append_slash, segments_of_not_hasSlash hname]
    exact List.mem_cons_self

theorem segments_empty : segments "" = [""] := rfl

theorem not_mem_segments_of_lead_append (h : "" ∉ segments (lead path ++ below)) :
    "" ∉ segments below := by
  by_cases hpath : path = ""
  · rwa [lead, if_pos hpath, String.empty_append] at h
  · rw [lead, if_neg hpath, segments_append_slash, List.mem_append, not_or] at h
    exact h.2

theorem ne_append_slash_of_not_mem_segments (h : path = "" ∨ "" ∉ segments path) (p : String) :
    path ≠ p ++ "/" := by
  rintro rfl
  rcases h with h | h
  · simp at h
  · have heq : p ++ "/" = p ++ "/" ++ "" := by simp
    rw [heq, segments_append_slash, segments_empty] at h
    exact h (List.mem_append_right _ (List.mem_singleton_self ""))

/-- A path without empty segments does not end in a slash and is not empty. -/
theorem ends_of_not_mem_segments (h : "" ∉ segments path) : path ≠ "" ∧ ∀ p, path ≠ p ++ "/" := by
  refine ⟨?_, ne_append_slash_of_not_mem_segments (.inr h)⟩
  rintro rfl
  rw [segments_empty] at h
  exact h (List.mem_singleton_self "")

/-! ## Paths as lists of segments -/

theorem segments_ne_nil (path : String) : segments path ≠ [] := by
  rw [segments, ne_eq, List.map_eq_nil_iff]
  exact segmentChars_ne_nil _

theorem ofSegments_append {ss ts : List String} (hs : ss ≠ []) (ht : ts ≠ []) :
    ofSegments (ss ++ ts) = ofSegments ss ++ "/" ++ ofSegments ts :=
  String.intercalate_append_of_ne_nil hs ht

theorem ofSegments_singleton (s : String) : ofSegments [s] = s :=
  String.intercalate_singleton

theorem ofSegments_map_segmentChars (l : List Char) :
    ofSegments ((segmentChars l).map String.ofList) = String.ofList l := by
  induction l with
  | nil => exact ofSegments_singleton _
  | cons c l ih =>
    obtain ⟨first, more, hl⟩ := List.exists_cons_of_ne_nil (segmentChars_ne_nil l)
    by_cases hc : c = '/'
    · have hcons : (segmentChars (c :: l)).map String.ofList =
          [""] ++ (segmentChars l).map String.ofList := by
        simp [segmentChars, hc]
      rw [hcons, ofSegments_append (by simp) (by simp [hl]), ih, ofSegments_singleton, hc,
        ← String.toList_inj]
      simp
    · have hcons : (segmentChars (c :: l)).map String.ofList =
          String.ofList (c :: first) :: more.map String.ofList := by
        simp [segmentChars, hc, hl]
      rw [hl, List.map_cons] at ih
      rw [hcons, ← String.toList_inj]
      cases more with
      | nil => simpa [ofSegments_singleton] using congrArg String.toList ih
      | cons second more =>
        simpa [ofSegments, String.intercalate_cons_cons] using congrArg String.toList ih

theorem ofSegments_segments (path : String) : ofSegments (segments path) = path := by
  rw [segments, ofSegments_map_segmentChars, String.ofList_toList]

theorem segments_ofSegments {ss : List String} (hne : ss ≠ [])
    (hss : ∀ s ∈ ss, hasSlash s = false) : segments (ofSegments ss) = ss := by
  induction ss with
  | nil => exact absurd rfl hne
  | cons s ss ih =>
    have hs : segments s = [s] := segments_of_not_hasSlash (hss s List.mem_cons_self)
    cases ss with
    | nil => rw [ofSegments_singleton, hs]
    | cons t ss =>
      have happend : ofSegments (s :: t :: ss) = s ++ "/" ++ ofSegments (t :: ss) :=
        String.intercalate_cons_cons
      rw [happend, segments_append_slash, hs,
        ih (by simp) fun u hu => hss u (List.mem_cons_of_mem _ hu)]
      rfl

/-- The segments of a path. The root has none. -/
def parts (path : String) : List String :=
  if path = "" then [] else segments path

@[simp] theorem parts_root : parts "" = [] := rfl

theorem parts_of_ne_empty (h : path ≠ "") : parts path = segments path := by
  rw [parts, if_neg h]

theorem ofSegments_parts (path : String) : ofSegments (parts path) = path := by
  by_cases h : path = ""
  · rw [h]
    rfl
  · rw [parts_of_ne_empty h, ofSegments_segments]

theorem parts_eq_nil_iff : parts path = [] ↔ path = "" := by
  by_cases h : path = ""
  · simp [h, parts]
  · simp [parts_of_ne_empty h, h, segments_ne_nil]

theorem parts_inj (h : parts p = parts r) : p = r := by
  rw [← ofSegments_parts p, h, ofSegments_parts]

theorem parts_append_slash (p r : String) : parts (p ++ "/" ++ r) = segments p ++ segments r := by
  rw [parts_of_ne_empty (by simp), segments_append_slash]

theorem parts_child (h : IsName step) : parts (child path step) = parts path ++ [step] := by
  by_cases hpath : path = ""
  · rw [child, if_pos hpath, hpath, parts_of_ne_empty h.1, segments_of_not_hasSlash h.2]
    rfl
  · rw [child, if_neg hpath, parts_append_slash, parts_of_ne_empty hpath,
      segments_of_not_hasSlash h.2]

theorem parent_cases (path : String) :
    (hasSlash path = false ∧ parent path = "") ∨ ∃ before after, hasSlash after = false ∧
      path = before ++ "/" ++ after ∧ parent path = before := by
  cases hsplit : splitLast path.toList with
  | none =>
    refine .inl ⟨hasSlash_eq_false_iff.2 (splitLast_eq_none.1 hsplit), ?_⟩
    rw [parent, hsplit]
  | some cut =>
    obtain ⟨before, after⟩ := cut
    obtain ⟨hchars, hafter⟩ := splitLast_eq_some hsplit
    refine .inr ⟨String.ofList before, String.ofList after, ?_, ?_, by rw [parent, hsplit]⟩
    · rwa [hasSlash_eq_false_iff, String.toList_ofList]
    · rw [← String.toList_inj, hchars, toList_append_slash, String.toList_ofList,
        String.toList_ofList]

theorem before_ne_empty {before after : String} (h : ∀ r, path ≠ "/" ++ r)
    (hpath : path = before ++ "/" ++ after) : before ≠ "" := by
  rintro rfl
  exact h after (by simpa using hpath)

/-- Above a path without a slash in front is what its parts but the last make. -/
theorem parts_parent (h : ∀ r, path ≠ "/" ++ r) : parts (parent path) = (parts path).dropLast := by
  rcases parent_cases path with ⟨hslash, hparent⟩ | ⟨before, after, hafter, hpath, hparent⟩
  · rw [hparent, parts_root, parts, segments_of_not_hasSlash hslash]
    split <;> rfl
  · have hbefore : before ≠ "" := before_ne_empty h hpath
    rw [hparent, hpath, parts_append_slash, segments_of_not_hasSlash hafter, List.dropLast_concat,
      parts_of_ne_empty hbefore]

/-! ## One step down and up again -/

theorem parent_of_not_hasSlash (h : hasSlash s = false) : parent s = "" := by
  rw [parent, splitLast_eq_none.2 (hasSlash_eq_false_iff.1 h)]

theorem parent_append_slash (path : String) (h : hasSlash step = false) :
    parent (path ++ "/" ++ step) = path := by
  rw [parent, toList_append_slash, splitLast_append (hasSlash_eq_false_iff.1 h)]
  exact String.ofList_toList

/-- Up from a step that is one segment, be it empty, is where the step was made. -/
theorem parent_child (path : String) (h : hasSlash step = false) :
    parent (child path step) = path := by
  by_cases hpath : path = ""
  · rw [child, if_pos hpath, parent_of_not_hasSlash h, hpath]
  · rw [child, if_neg hpath, parent_append_slash path h]

theorem name_of_not_hasSlash (h : hasSlash s = false) : Path.name s = s := by
  rw [Path.name, splitLast_eq_none.2 (hasSlash_eq_false_iff.1 h)]

theorem child_parent_name (h : ∀ r, path ≠ "/" ++ r) :
    child (parent path) (Path.name path) = path := by
  rcases parent_cases path with ⟨hslash, hparent⟩ | ⟨before, after, hafter, hpath, hparent⟩
  · rw [hparent, name_of_not_hasSlash hslash]
    rfl
  · have hbefore : before ≠ "" := before_ne_empty h hpath
    have hchild : child before after = path := by
      rw [child, if_neg hbefore, hpath]
    rw [hparent, ← hchild, name_child before hafter]

end Path

namespace Key

variable {k : Key} {step : String}

theorem name_child (k : Key) (h : Path.hasSlash step = false) : (k.child step).name = step :=
  Path.name_child k.path h

theorem parent_child (k : Key) (h : Path.hasSlash step = false) : (k.child step).parent = k := by
  rw [child, parent, Path.parent_child k.path h]

theorem lead_child (k : Key) (h : Path.IsName step) :
    (k.child step).lead = k.lead ++ step ++ "/" := by
  have hne : (k.child step).path ≠ "" := by
    rw [child_path]
    exact fun heq => h.1 (String.append_eq_empty_iff.1 heq).2
  rw [lead, Path.lead, if_neg hne, child_path]

end Key
end BlobDepot
