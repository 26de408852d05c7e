import BlobDepot.Glob.Match
import Mathlib.Computability.Language

/-!
# The language of a pattern

A token stands for the texts of a language over bytes, and a sequence of tokens for the product of
the languages of its tokens. The tables by which patterns are matched tell of every tail of a path
whether it is in such a language.
-/
namespace BlobDepot.Glob

/-! ## Languages of tokens -/

def oneByte (test : UInt8 → Bool) : Language UInt8 :=
  {w | ∃ b, test b = true ∧ w = [b]}

def slashless : Language UInt8 :=
  {w | slash ∉ w}

def upToSlash : Language UInt8 :=
  1 + ⊤ * {[slash]}

mutual

def Token.language : Token → Language UInt8
  | .literal c => {String.utf8EncodeChar c}
  | .one => oneByte (· ≠ slash)
  | .run => slashless
  | .leading => upToSlash
  | .trailing => {[slash]} * ⊤
  | .between => {[slash]} * upToSlash
  | .oneOf negated ranges => oneByte (inClass negated ranges)
  | .choice branches => if areBlank branches then 1 else languageOfAny branches

def languageOf : List Token → Language UInt8
  | [] => 1
  | t :: ts => t.language * languageOf ts

/-- What one of some sequences stands for. Blank ones are passed over. -/
def languageOfAny : List (List Token) → Language UInt8
  | [] => 0
  | ts :: rest => if isBlank ts then languageOfAny rest else languageOf ts + languageOfAny rest

end

variable {K L M : Language UInt8} {s w : List UInt8} {k k' : Table} {b : UInt8}

/-! ## First bytes -/

/-- What may follow a byte in the texts of a language. -/
def afterByte (b : UInt8) (L : Language UInt8) : Language UInt8 :=
  {w | b :: w ∈ L}

theorem nil_mem_mul_iff : [] ∈ K * L ↔ [] ∈ K ∧ [] ∈ L := by
  rw [Language.mem_mul]
  constructor
  · rintro ⟨u, hu, v, hv, h⟩
    obtain ⟨rfl, rfl⟩ := List.append_eq_nil_iff.1 h
    exact ⟨hu, hv⟩
  · rintro ⟨hK, hL⟩
    exact ⟨[], hK, [], hL, rfl⟩

/-- A text of a product starts with the second factor, or with the first. -/
theorem cons_mem_mul_iff :
    b :: s ∈ K * L ↔ ([] ∈ K ∧ b :: s ∈ L) ∨ s ∈ afterByte b K * L := by
  rw [Language.mem_mul, Language.mem_mul]
  constructor
  · rintro ⟨u, hu, v, hv, h⟩
    cases u with
    | nil => exact .inl ⟨hu, h ▸ hv⟩
    | cons c u =>
      obtain ⟨rfl, rfl⟩ := List.cons.inj h
      exact .inr ⟨u, hu, v, hv, rfl⟩
  · rintro (⟨hK, hL⟩ | ⟨u, hu, v, hv, rfl⟩)
    · exact ⟨[], hK, _, hL, rfl⟩
    · exact ⟨b :: u, hu, v, hv, rfl⟩

theorem nil_not_mem_oneByte (test : UInt8 → Bool) : [] ∉ oneByte test := by
  rintro ⟨c, -, h⟩
  cases h

theorem cons_mem_oneByte_mul_iff {test : UInt8 → Bool} :
    b :: s ∈ oneByte test * L ↔ test b = true ∧ s ∈ L := by
  rw [Language.mem_mul]
  constructor
  · rintro ⟨u, ⟨c, hc, rfl⟩, v, hv, h⟩
    obtain ⟨rfl, rfl⟩ := List.cons.inj h
    exact ⟨hc, hv⟩
  · rintro ⟨hb, hs⟩
    exact ⟨[b], ⟨b, hb, rfl⟩, s, hs, rfl⟩

theorem nil_mem_slashless : [] ∈ slashless :=
  List.not_mem_nil

theorem cons_mem_slashless_iff : b :: s ∈ slashless ↔ b ≠ slash ∧ s ∈ slashless := by
  have hcons : slash ∈ b :: s ↔ slash = b ∨ slash ∈ s := List.mem_cons
  exact hcons.not.trans (not_or.trans (and_congr_left' ne_comm))

theorem cons_mem_slashless_mul_iff :
    b :: s ∈ slashless * L ↔ b :: s ∈ L ∨ (b ≠ slash ∧ s ∈ slashless * L) := by
  rw [cons_mem_mul_iff, and_iff_right nil_mem_slashless, Language.mem_mul, Language.mem_mul]
  refine or_congr_right ⟨?_, ?_⟩
  · rintro ⟨u, hu, v, hv, rfl⟩
    obtain ⟨hb, hu⟩ := cons_mem_slashless_iff.1 hu
    exact ⟨hb, u, hu, v, hv, rfl⟩
  · rintro ⟨hb, u, hu, v, hv, rfl⟩
    exact ⟨u, cons_mem_slashless_iff.2 ⟨hb, hu⟩, v, hv, rfl⟩

theorem nil_mem_top : [] ∈ (⊤ : Language UInt8) :=
  trivial

theorem cons_mem_top_mul_iff : b :: s ∈ ⊤ * L ↔ b :: s ∈ L ∨ s ∈ ⊤ * L := by
  rw [cons_mem_mul_iff, and_iff_right nil_mem_top]
  rfl

theorem oneByte_eq (b : UInt8) : oneByte (· = b) = {[b]} := by
  ext w
  constructor
  · rintro ⟨c, hc, rfl⟩
    rw [of_decide_eq_true hc]
    rfl
  · rintro rfl
    exact ⟨b, decide_eq_true rfl, rfl⟩

theorem singleton_cons (b : UInt8) (bs : List UInt8) :
    ({b :: bs} : Language UInt8) = oneByte (· = b) * {bs} := by
  rw [oneByte_eq]
  ext w
  rw [Language.mem_mul]
  constructor
  · rintro rfl
    exact ⟨[b], rfl, bs, rfl, rfl⟩
  · rintro ⟨u, rfl, v, rfl, rfl⟩
    rfl

/-! ## Tables -/

namespace Table

/-- A table tells of every tail of a text whether it is in a language. -/
inductive Tells (L : Language UInt8) : List UInt8 → Table → Prop where
  | nil {e : Bool} (h : e = true ↔ [] ∈ L) : Tells L [] [e]
  | cons {b : UInt8} {s : List UInt8} {e : Bool} {k : Table} (h : e = true ↔ b :: s ∈ L)
      (hk : Tells L s k) : Tells L (b :: s) (e :: k)

theorem Tells.headD (h : Tells L s k) : k.headD false = true ↔ s ∈ L := by
  cases h with
  | nil h => exact h
  | cons h _ => exact h

theorem tells_atEnd (s : List UInt8) : Tells 1 s (atEnd s) := by
  induction s with
  | nil => exact .nil (by simp)
  | cons b s ih => exact .cons (by simp) ih

theorem Tells.byte (h : Tells L s k) (test : UInt8 → Bool) :
    Tells (oneByte test * L) s (byte test s k) := by
  induction h with
  | nil _ => exact .nil ⟨nofun, fun h => absurd (nil_mem_mul_iff.1 h).1 (nil_not_mem_oneByte test)⟩
  | cons _ hk ih =>
    refine .cons ?_ ih
    rw [cons_mem_oneByte_mul_iff, ← hk.headD, Bool.and_eq_true]

theorem Tells.bytes (h : Tells L s k) (bs : List UInt8) :
    Tells ({bs} * L) s (bs.foldr (fun b k => k.byte (· = b) s) k) := by
  induction bs with
  | nil => exact (one_mul L).symm ▸ h
  | cons b bs ih =>
    rw [singleton_cons, mul_assoc]
    exact ih.byte (· = b)

theorem Tells.run (h : Tells L s k) : Tells (slashless * L) s (run s k) := by
  induction h with
  | nil h => exact .nil (h.trans (nil_mem_mul_iff.trans (and_iff_right nil_mem_slashless)).symm)
  | cons h _ ih =>
    refine .cons ?_ ih
    rw [cons_mem_slashless_mul_iff, ← h, ← ih.headD]
    simp

theorem Tells.anything (h : Tells L s k) : Tells (⊤ * L) s k.anything := by
  induction h with
  | nil h => exact .nil (h.trans (nil_mem_mul_iff.trans (and_iff_right nil_mem_top)).symm)
  | cons h hk ih =>
    -- there is an entry behind this one, for the tail behind the byte
    cases hk <;> exact .cons (by rw [cons_mem_top_mul_iff, ← h, ← ih.headD, Bool.or_eq_true]) ih

theorem Tells.pastSlash (h : Tells L s k) :
    Tells (⊤ * (oneByte (· = slash) * L)) s (pastSlash s k) := by
  induction h with
  | nil h =>
    refine .nil ⟨nofun, fun h => ?_⟩
    exact absurd (nil_mem_mul_iff.1 (nil_mem_mul_iff.1 h).2).1 (nil_not_mem_oneByte _)
  | cons h hk ih =>
    refine .cons ?_ ih
    rw [cons_mem_top_mul_iff, cons_mem_oneByte_mul_iff, ← hk.headD, ← ih.headD, Bool.or_eq_true,
      Bool.and_eq_true]

theorem Tells.or (h : Tells L s k) (h' : Tells M s k') : Tells (L + M) s (k.or k') := by
  induction h generalizing k' with
  | nil h =>
    cases h' with
    | nil h' => exact .nil (by simp [Language.mem_add, h, h'])
  | cons h hk ih =>
    cases h' with
    | cons h' hk' => exact .cons (by simp [Language.mem_add, h, h']) (ih hk')

theorem Tells.leading (h : Tells L s k) : Tells (upToSlash * L) s (leading s k) := by
  rw [upToSlash, add_mul, one_mul, mul_assoc, ← oneByte_eq]
  exact h.or h.pastSlash

theorem Tells.nothing (h : Tells L s k) : Tells 0 s (k.map fun _ => false) := by
  induction h with
  | nil _ => exact .nil (by simp)
  | cons _ _ ih => exact .cons (by simp) ih

end Table

/-! ## Tokens -/

open Table (Tells)

mutual

theorem Token.tells_before : ∀ (t : Token) {L : Language UInt8} {k : Table},
    Tells L s k → Tells (t.language * L) s (t.before s k)
  | .literal c, _, _, h => h.bytes (String.utf8EncodeChar c)
  | .one, _, _, h => h.byte _
  | .run, _, _, h => h.run
  | .leading, _, _, h => h.leading
  | .trailing, _, _, h => by
    rw [Token.language, mul_assoc, ← oneByte_eq]
    exact h.anything.byte _
  | .between, _, _, h => by
    rw [Token.language, mul_assoc, ← oneByte_eq]
    exact h.leading.byte _
  | .oneOf negated ranges, _, _, h => h.byte _
  | .choice branches, L, _, h => by
    rw [Token.language, Token.before]
    cases areBlank branches with
    | true => exact (one_mul L).symm ▸ h
    | false => exact tells_anyBefore branches h

theorem tells_allBefore : ∀ (ts : List Token) {L : Language UInt8} {k : Table},
    Tells L s k → Tells (languageOf ts * L) s (allBefore s ts k)
  | [], L, _, h => (one_mul L).symm ▸ h
  | t :: ts, _, _, h => by
    rw [languageOf, mul_assoc]
    exact t.tells_before (tells_allBefore ts h)

theorem tells_anyBefore : ∀ (branches : List (List Token)) {L : Language UInt8} {k : Table},
    Tells L s k → Tells (languageOfAny branches * L) s (anyBefore s branches k)
  | [], L, _, h => (zero_mul L).symm ▸ h.nothing
  | ts :: rest, _, _, h => by
    rw [languageOfAny, anyBefore]
    cases isBlank ts with
    | true => exact tells_anyBefore rest h
    | false =>
      rw [if_neg Bool.false_ne_true, if_neg Bool.false_ne_true, add_mul]
      exact (tells_allBefore ts h).or (tells_anyBefore rest h)

end

/-- Matching decides the language of a pattern. -/
theorem accepts_iff (ts : List Token) (w : List UInt8) :
    accepts ts w = true ↔ w ∈ languageOf ts := by
  have htells := tells_allBefore ts (Table.tells_atEnd w)
  rw [mul_one] at htells
  exact htells.headD

end BlobDepot.Glob
