/-!
# Text, prefixes, parts and bytes

A text starts with another when its characters do. `Text.after?` is what follows the other,
`Text.split` cuts a text at separators, `Text.numeral?` reads digits, and `Text.bytes` writes a
text in UTF-8.
-/
namespace BlobDepot.Text

/-- What follows the characters `p` in `s`, when `s` starts with them. -/
def dropChars? : List Char → List Char → Option (List Char)
  | [], s => some s
  | _ :: _, [] => none
  | a :: p, b :: s => if a = b then dropChars? p s else none

theorem dropChars?_eq_some_iff {p s r : List Char} :
    dropChars? p s = some r ↔ s = p ++ r := by
  induction p generalizing s with
  | nil => simp [dropChars?]
  | cons a p ih =>
    cases s with
    | nil => simp [dropChars?]
    | cons b s =>
      by_cases h : a = b
      · simp [dropChars?, h, ih]
      · simp [dropChars?, h, Ne.symm h]

/-- What follows `p` in `s`, when `s` starts with `p`. -/
def after? (p s : String) : Option String :=
  (dropChars? p.toList s.toList).map String.ofList

theorem after?_eq_some_iff {p s r : String} : after? p s = some r ↔ s = p ++ r := by
  constructor
  · intro h
    obtain ⟨x, hx, rfl⟩ := Option.map_eq_some_iff.1 h
    rw [← String.toList_inj, String.toList_append, String.toList_ofList]
    exact dropChars?_eq_some_iff.1 hx
  · rintro rfl
    have h : dropChars? p.toList (p ++ r).toList = some r.toList :=
      dropChars?_eq_some_iff.2 String.toList_append
    rw [after?, h, Option.map_some, String.ofList_toList]

@[simp] theorem after?_append (p r : String) : after? p (p ++ r) = some r :=
  after?_eq_some_iff.2 rfl

def startsWith (p s : String) : Bool :=
  (after? p s).isSome

theorem startsWith_iff {p s : String} : startsWith p s = true ↔ ∃ r, s = p ++ r := by
  simp [startsWith, Option.isSome_iff_exists, after?_eq_some_iff]

def split (isSep : Char → Bool) (s : List Char) : List (List Char) :=
  s.foldr (fun c parts =>
    if isSep c then [] :: parts
    else match parts with
      | [] => [[c]]
      | p :: more => (c :: p) :: more) [[]]

def hexValue? (c : Char) : Option Nat :=
  if '0' ≤ c ∧ c ≤ '9' then some (c.toNat - 48)
  else if 'a' ≤ c ∧ c ≤ 'f' then some (c.toNat - 87)
  else if 'A' ≤ c ∧ c ≤ 'F' then some (c.toNat - 55)
  else none

def numeral? (radix : Nat) (s : List Char) : Option Nat :=
  s.foldlM (fun n c => do
    let d ← hexValue? c
    if d < radix then pure (radix * n + d) else none) 0

def bytes (s : String) : List UInt8 :=
  s.toList.flatMap String.utf8EncodeChar

/-- The two hexadecimal digits of a byte, letters in upper case or in lower case. -/
def hexByte (upper : Bool) (b : UInt8) : List Char :=
  let digit (n : Nat) : Char :=
    if n < 10 then Char.ofNat (48 + n) else Char.ofNat ((if upper then 55 else 87) + n)
  [digit (b.toNat / 16), digit (b.toNat % 16)]

end BlobDepot.Text
