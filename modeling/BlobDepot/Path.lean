import BlobDepot.Text.Basic

/-!
# Paths of segments

A path is a text whose segments stand between slashes. The empty path is the root: it has no
segment to name, and everything lies below it.
-/
namespace BlobDepot.Path

def splitLast : List Char → Option (List Char × List Char)
  | [] => none
  | c :: rest =>
    match splitLast rest with
    | some (before, after) => some (c :: before, after)
    | none => if c = '/' then some ([], rest) else none

def splitFirst : List Char → Option (List Char × List Char)
  | [] => none
  | c :: rest =>
    if c = '/' then some ([], rest)
    else (splitFirst rest).map fun (before, after) => (c :: before, after)

theorem splitLast_eq_none {s : List Char} : splitLast s = none ↔ '/' ∉ s := by
  induction s with
  | nil => simp [splitLast]
  | cons c rest ih =>
    simp only [splitLast]
    split
    · rename_i hr
      have : ¬ ('/' ∉ rest) := fun hn => by simp [ih.2 hn] at hr
      simp [Decidable.not_not.1 this]
    · rename_i hr
      by_cases hc : c = '/'
      · simp [hc]
      · simp [hc, ih.1 hr, Ne.symm hc]

theorem splitLast_eq_some {s before after : List Char} (h : splitLast s = some (before, after)) :
    s = before ++ '/' :: after ∧ '/' ∉ after := by
  induction s generalizing before after with
  | nil => simp [splitLast] at h
  | cons c rest ih =>
    simp only [splitLast] at h
    split at h
    · rename_i b a hr
      obtain ⟨rfl, rfl⟩ : c :: b = before ∧ a = after := by simpa using h
      obtain ⟨hs, ha⟩ := ih hr
      exact ⟨by simp [← hs], ha⟩
    · rename_i hr
      split at h
      · rename_i hc
        obtain ⟨rfl, rfl⟩ : [] = before ∧ rest = after := by simpa using h
        exact ⟨by simp [hc], splitLast_eq_none.1 hr⟩
      · simp at h

theorem splitFirst_eq_some {s before after : List Char} (h : splitFirst s = some (before, after)) :
    s = before ++ '/' :: after ∧ '/' ∉ before := by
  induction s generalizing before after with
  | nil => simp [splitFirst] at h
  | cons c rest ih =>
    simp only [splitFirst] at h
    split at h
    · rename_i hc
      obtain ⟨rfl, rfl⟩ : [] = before ∧ rest = after := by simpa using h
      simp [hc]
    · rename_i hc
      obtain ⟨⟨b, a⟩, hr, hp⟩ := Option.map_eq_some_iff.1 h
      obtain ⟨rfl, rfl⟩ : c :: b = before ∧ a = after := by simpa using hp
      obtain ⟨hs, hb⟩ := ih hr
      exact ⟨by simp [← hs], by simp [hb, Ne.symm hc]⟩

theorem splitFirst_eq_none {s : List Char} : splitFirst s = none ↔ '/' ∉ s := by
  induction s with
  | nil => simp [splitFirst]
  | cons c rest ih =>
    by_cases hc : c = '/'
    · simp [splitFirst, hc]
    · simp [splitFirst, hc, ih, Ne.symm hc]

/-- The segments of a path: what stands between its slashes. -/
def segmentChars : List Char → List (List Char)
  | [] => [[]]
  | c :: rest =>
    if c = '/' then [] :: segmentChars rest
    else
      match segmentChars rest with
      | [] => [[c]]
      | s :: more => (c :: s) :: more

/-- The segments of a path; the empty path has one, which is empty. -/
def segments (path : String) : List String :=
  (segmentChars path.toList).map String.ofList

def ofSegments (ss : List String) : String :=
  "/".intercalate ss

def trim (path : String) : String :=
  String.ofList
    ((path.toList.dropWhile (· == '/')).reverse.dropWhile (· == '/')).reverse

def trimEnd (path : String) : String :=
  String.ofList (path.toList.reverse.dropWhile (· == '/')).reverse

def name (path : String) : String :=
  match splitLast path.toList with
  | some (_, after) => String.ofList after
  | none => path

/-- What stands before the last slash. The root is its own parent. -/
def parent (path : String) : String :=
  match splitLast path.toList with
  | some (before, _) => String.ofList before
  | none => ""

/-- The path one step below another. The step may be any text. -/
def child (path step : String) : String :=
  if path = "" then step else path ++ "/" ++ step

def lead (path : String) : String :=
  if path = "" then "" else path ++ "/"

@[simp] theorem lead_root : lead "" = "" := rfl

theorem child_eq (path step : String) : child path step = lead path ++ step := by
  by_cases h : path = ""
  · simp [child, lead, h]
  · simp [child, lead, h]

def firstSegment (path : String) : String × Bool :=
  match splitFirst path.toList with
  | some (before, _) => (String.ofList before, true)
  | none => (path, false)

def hasSlash (path : String) : Bool :=
  path.toList.contains '/'

end BlobDepot.Path
