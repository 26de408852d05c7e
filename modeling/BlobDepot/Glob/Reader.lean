import BlobDepot.Glob.Token

/-!
# Reading glob patterns

`Glob.parse` reads a pattern from its first character to its last. What two stars stand for depends
on the character before them, on the one after them, and on what their branch holds so far.
-/
namespace BlobDepot.Glob

inductive GlobError where
  | unclosedClass
  | invalidRange (low high : Char)
  | unopenedGroup
  | unclosedGroup
  | danglingEscape
  deriving DecidableEq, Repr, Inhabited

def GlobError.message : GlobError → String
  | unclosedClass => "unclosed character class; missing ']'"
  | invalidRange low high =>
    "invalid range; '" ++ low.toString ++ "' > '" ++ high.toString ++ "'"
  | unopenedGroup =>
    "unopened alternate group; missing '\x7b' (maybe escape '\x7d' with '[\x7d]'?)"
  | unclosedGroup =>
    "unclosed alternate group; missing '\x7d' (maybe escape '\x7b' with '[\x7b]'?)"
  | danglingEscape => "dangling '\\'"

/-! ## Classes -/

/-- The ranges of a class, last first, and whether a dash waits for its right end. -/
structure Ranges where
  found : List (Char × Char) := []
  open? : Bool := false

def Ranges.add (r : Ranges) (c : Char) : Except GlobError Ranges :=
  match r.open?, r.found with
  | true, (low, _) :: more =>
    if c < low then .error (.invalidRange low c) else .ok ⟨(low, c) :: more, false⟩
  | _, found => .ok ⟨(c, c) :: found, false⟩

/-- The ranges in the order in which they were read. A dash that still waits is a character. -/
def Ranges.done (r : Ranges) : List (Char × Char) :=
  (if r.open? then ('-', '-') :: r.found else r.found).reverse

/-- Reads a class up to its closing bracket. -/
def readRanges (r : Ranges) : List Char → Except GlobError (List (Char × Char) × List Char)
  | [] => .error .unclosedClass
  | c :: rest =>
    if c = ']' ∧ r.found ≠ [] then .ok (r.done, rest)
    else if c = '-' ∧ r.found ≠ [] ∧ !r.open? then readRanges { r with open? := true } rest
    else
      match r.add c with
      | .error e => .error e
      | .ok r => readRanges r rest

def readClass : List Char → Except GlobError (Token × List Char)
  | '!' :: rest | '^' :: rest => (readRanges {} rest).map fun (rs, rest) => (.oneOf true rs, rest)
  | s => (readRanges {} s).map fun (rs, rest) => (.oneOf false rs, rest)

theorem length_of_readRanges {r : Ranges} {s rest : List Char} {rs : List (Char × Char)}
    (h : readRanges r s = .ok (rs, rest)) : rest.length < s.length := by
  induction s generalizing r with
  | nil => simp [readRanges] at h
  | cons c more ih =>
    simp only [readRanges] at h
    split at h
    · obtain ⟨_, rfl⟩ : r.done = rs ∧ more = rest := by simpa using h
      simp
    · split at h
      · exact Nat.lt_succ_of_lt (ih h)
      · split at h
        · simp at h
        · exact Nat.lt_succ_of_lt (ih h)

theorem length_of_readClass {s rest : List Char} {t : Token}
    (h : readClass s = .ok (t, rest)) : rest.length < s.length := by
  have key : ∀ {n : Bool} {s rest : List Char} {t : Token},
      (readRanges {} s).map (fun (rs, rest) => (Token.oneOf n rs, rest)) = .ok (t, rest) →
      rest.length < s.length := by
    intro n s rest t h
    cases hr : readRanges {} s with
    | error e => simp [hr, Except.map] at h
    | ok p =>
      obtain ⟨rs, rest'⟩ := p
      simp only [hr, Except.map, Except.ok.injEq, Prod.mk.injEq] at h
      exact h.2 ▸ length_of_readRanges hr
  unfold readClass at h
  split at h
  · exact Nat.lt_succ_of_lt (key h)
  · exact Nat.lt_succ_of_lt (key h)
  · exact key h

/-! ## Sequences and groups -/

/-- A group under way: the branch around it and its finished branches, last first. -/
structure Group where
  around : List Token
  branches : List (List Token) := []

/-- A pattern under way: its open groups, innermost first, and the branch being read, whose last
token is first. -/
structure Draft where
  groups : List Group := []
  branch : List Token := []

namespace Draft

def push (d : Draft) (t : Token) : Draft :=
  { d with branch := t :: d.branch }

/-- Puts a token in place of the last one, unless that stands for any depth already. -/
def swap (d : Draft) (t : Token) : Draft :=
  match d.branch with
  | .leading :: _ | .trailing :: _ => d
  | branch => { d with branch := t :: branch.tail }

def openGroup (d : Draft) : Draft :=
  ⟨{ around := d.branch } :: d.groups, []⟩

/-- Begins the next branch of the innermost group. A comma outside groups is a character. -/
def comma (d : Draft) : Draft :=
  match d.groups with
  | [] => d.push (.literal ',')
  | g :: rest => ⟨{ g with branches := d.branch.reverse :: g.branches } :: rest, []⟩

def closeGroup (d : Draft) : Except GlobError Draft :=
  match d.groups with
  | [] => .error .unopenedGroup
  | g :: rest =>
    .ok ⟨rest, .choice (d.branch.reverse :: g.branches).reverse :: g.around⟩

/-- Adds two stars that stand between `prev` and `next`, and whether they take the slash after
them. -/
def twoStars (d : Draft) (prev next : Option Char) : Draft × Bool :=
  let plain := ((d.push .run).push .run, false)
  if d.branch.isEmpty then
    match next with
    | none => (d.push .leading, false)
    | some c => if c = '/' then (d.push .leading, true) else plain
  else if prev = some '/' ∨ (!d.groups.isEmpty ∧ (prev = some ',' ∨ prev = some '\x7b')) then
    match next with
    | none => (d.swap .trailing, false)
    | some c =>
      if c = '/' then (d.swap .between, true)
      else if (c = ',' ∨ c = '\x7d') ∧ !d.groups.isEmpty then (d.swap .trailing, false)
      else plain
  else plain

end Draft

/-- Reads what follows a draft and the character before it. -/
def readFrom (d : Draft) (prev : Option Char) (s : List Char) : Except GlobError Draft :=
  match s with
  | [] => .ok d
  | '?' :: rest => readFrom (d.push .one) (some '?') rest
  | '*' :: '*' :: rest =>
    match d.twoStars prev rest.head? with
    | (d, true) => readFrom d (some '/') rest.tail
    | (d, false) => readFrom d (some '*') rest
  | '*' :: rest => readFrom (d.push .run) (some '*') rest
  | '[' :: rest =>
    match h : readClass rest with
    | .error e => .error e
    | .ok (t, rest') =>
      have := length_of_readClass h
      readFrom (d.push t) (some ']') rest'
  | '\x7b' :: rest => readFrom d.openGroup (some '\x7b') rest
  | '\x7d' :: rest =>
    match d.closeGroup with
    | .error e => .error e
    | .ok d => readFrom d (some '\x7d') rest
  | ',' :: rest => readFrom d.comma (some ',') rest
  | '\\' :: rest =>
    match rest with
    | [] => .error .danglingEscape
    | c :: rest => readFrom (d.push (.literal c)) (some c) rest
  | c :: rest => readFrom (d.push (.literal c)) (some c) rest
termination_by s.length
decreasing_by all_goals simp_all <;> omega

def parse (s : String) : Except GlobError (List Token) :=
  match readFrom {} none s.toList with
  | .error e => .error e
  | .ok d => if d.groups.isEmpty then .ok d.branch.reverse else .error .unclosedGroup

end BlobDepot.Glob
