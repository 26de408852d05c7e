/-!
# Punycode

A label with characters beyond ASCII is written as its ASCII characters and a series of gaps
between the others in increasing order. Each gap is a number whose digits have thresholds of
their own, and the thresholds follow the gaps seen before. `encode` writes a label and `decode?`
reads one.
-/
namespace BlobDepot.Url.Punycode

def digit (d : Nat) : Char :=
  if d < 26 then Char.ofNat (0x61 + d) else Char.ofNat (0x30 + d - 26)

def threshold (position bias : Nat) : Nat :=
  if position ≤ bias then 1 else if bias + 26 ≤ position then 26 else position - bias

theorem threshold_pos (position bias : Nat) : 1 ≤ threshold position bias := by
  unfold threshold
  split
  · omega
  · split <;> omega

/-- Divides a gap until it is small, counting positions. -/
def shrink (gap position : Nat) : Nat × Nat :=
  if 455 < gap then shrink (gap / 35) (position + 36) else (gap, position)
termination_by gap
decreasing_by exact Nat.div_lt_self (by omega) (by omega)

/-- The bias after a gap. -/
def adapt (gap seen : Nat) (isFirst : Bool) : Nat :=
  let scaled := if isFirst then gap / 700 else gap / 2
  let (small, position) := shrink (scaled + scaled / seen) 0
  position + 36 * small / (small + 38)

def digits (bias position gap : Nat) : List Char :=
  let t := threshold position bias
  if gap < t then [digit gap]
  else digit (t + (gap - t) % (36 - t)) :: digits bias (position + 36) ((gap - t) / (36 - t))
termination_by gap
decreasing_by
  have h := threshold_pos position bias
  exact Nat.lt_of_le_of_lt (Nat.div_le_self _ _) (by omega)

/-- What has been written and what the next gap depends on. -/
structure Progress where
  out : List Char
  gap : Nat := 0
  bias : Nat := 72
  seen : Nat

/-- Passes a character while the code point `code` is being placed. -/
def pass (basic code : Nat) (p : Progress) (c : Char) : Progress :=
  if c.toNat < code then { p with gap := p.gap + 1 }
  else if c.toNat = code then
    { out := p.out ++ digits p.bias 36 p.gap
      bias := adapt p.gap (p.seen + 1) (p.seen = basic)
      seen := p.seen + 1 }
  else p

/-- Places code points in increasing order, the next one being at least `least`. -/
def place (label : List Char) (basic : Nat) : List Nat → Nat → Progress → Progress
  | [], _, p => p
  | code :: rest, least, p =>
    let p := { p with gap := p.gap + (code - least) * (p.seen + 1) }
    let p := label.foldl (pass basic code) p
    place label basic rest (code + 1) { p with gap := p.gap + 1 }

def encode (label : List Char) : List Char :=
  let plain := label.filter fun c => c.toNat < 0x80
  let codes := ((label.filter fun c => 0x80 ≤ c.toNat).map Char.toNat).mergeSort.eraseDups
  let lead := if plain.isEmpty then [] else plain ++ ['-']
  lead ++ (place label plain.length codes 0x80 { out := [], seen := plain.length }).out

/-! ## Reading -/

def digitValue? (c : Char) : Option Nat :=
  if c.isLower then some (c.toNat - 0x61)
  else if c.isDigit then some (c.toNat - 0x30 + 26)
  else none

def limit : Nat := UInt32.size

/-- Reads a gap, least digit first: what it adds to `sum`, and the rest. -/
def gapFrom? (bias position weight sum : Nat) : List Char → Option (Nat × List Char)
  | [] => none
  | c :: rest => do
    let d ← digitValue? c
    let t := threshold position bias
    let sum := sum + d * weight
    if limit ≤ sum then none
    else if d < t then pure (sum, rest)
    else
      let weight := weight * (36 - t)
      if limit ≤ weight then none else gapFrom? bias (position + 36) weight sum rest

theorem length_of_gapFrom? {bias position weight sum n : Nat} {s rest : List Char}
    (h : gapFrom? bias position weight sum s = some (n, rest)) : rest.length < s.length := by
  induction s generalizing position weight sum with
  | nil => simp [gapFrom?] at h
  | cons c s ih =>
    cases hd : digitValue? c with
    | none => simp [gapFrom?, hd] at h
    | some d =>
      simp only [gapFrom?, hd, Option.bind_eq_bind, Option.bind_some] at h
      split at h
      · simp at h
      · split at h
        · obtain ⟨-, rfl⟩ : sum + d * weight = n ∧ s = rest := by simpa using h
          simp
        · split at h
          · simp at h
          · exact Nat.lt_succ_of_lt (ih h)

/-- Reads gaps and puts the characters they stand for into a label, from a code point and a place
on. -/
def insertFrom? (bias code place : Nat) (label : List Char) (s : List Char) :
    Option (List Char) :=
  match s with
  | [] => some label
  | c :: s =>
    match h : gapFrom? bias 36 1 place (c :: s) with
    | none => none
    | some (n, rest) =>
      have := length_of_gapFrom? h
      let seen := label.length + 1
      let code := code + n / seen
      if code.isValidChar then
        insertFrom? (adapt (n - place) seen (place = 0)) code (n % seen + 1)
          (label.insertIdx (n % seen) (Char.ofNat code)) rest
      else none
termination_by s.length
decreasing_by
  simp only [List.length_cons] at this ⊢
  omega

/-- The label of an ASCII form in lower case. -/
def decode? (s : List Char) : Option (List Char) :=
  match s.reverse.span (· ≠ '-') with
  | (gaps, '-' :: plain) =>
    if plain = [] then none else insertFrom? 72 0x80 0 plain.reverse gaps.reverse
  | _ => insertFrom? 72 0x80 0 [] s

end BlobDepot.Url.Punycode
