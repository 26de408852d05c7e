import BlobDepot.Proofs.Json.Grammar
import Mathlib.Data.List.DropRight

/-!
# Reading JSON

The reader reads every text of the grammar as the value that it is a text of. Each of its parts
stops where the text of that part ends, whatever follows; only a number needs something behind it
that it does not go on with.
-/
namespace BlobDepot.Json

variable {c : Char} {w s r : List Char} {v : Json} {n depth : Nat}

/-! ## Blanks -/

theorem isBlank_iff : isBlank c = true ↔ c = ' ' ∨ c = '\n' ∨ c = '\t' ∨ c = '\r' := by
  simp [isBlank, or_assoc]

theorem skipBlanks_append (h : IsBlanks w) (r : List Char) :
    skipBlanks (w ++ r) = skipBlanks r :=
  List.dropWhile_append_of_pos fun c hc => isBlank_iff.2 (h c hc)

theorem skipBlanks_cons (h : isBlank c = false) (r : List Char) :
    skipBlanks (c :: r) = c :: r :=
  List.dropWhile_cons_of_neg (by simp [h])

/-! ## Numbers -/

/-- No number goes on with what is first in the text. -/
def Ends (r : List Char) : Prop :=
  ∀ c ∈ r.head?, c.isDigit = false ∧ c ≠ '.' ∧ c ≠ 'e' ∧ c ≠ 'E'

theorem Ends.nil : Ends [] := nofun

theorem Ends.cons (hdigit : c.isDigit = false) (hpoint : c ≠ '.') (he : c ≠ 'e') (hE : c ≠ 'E') :
    Ends (c :: r) := fun d hd => by
  obtain rfl := Option.some.inj hd
  exact ⟨hdigit, hpoint, he, hE⟩

theorem Ends.comma : Ends (',' :: r) :=
  .cons rfl (by decide) (by decide) (by decide)

theorem Ends.bracket : Ends (']' :: r) :=
  .cons rfl (by decide) (by decide) (by decide)

theorem Ends.brace : Ends ('\x7d' :: r) :=
  .cons rfl (by decide) (by decide) (by decide)

theorem Ends.blanks_append (hr : Ends r) (h : IsBlanks w) : Ends (w ++ r) := by
  cases w with
  | nil => exact hr
  | cons c w =>
    rcases h c List.mem_cons_self with rfl | rfl | rfl | rfl <;>
      exact Ends.cons rfl (by decide) (by decide) (by decide)

theorem readDigits_append (h : IsDigits w) (hr : ∀ c ∈ r.head?, c.isDigit = false) :
    readDigits (w ++ r) = some (w, r) := by
  have htake : (w ++ r).takeWhile Char.isDigit = w := by
    rw [List.takeWhile_append_of_pos h.2]
    cases r with
    | nil => simp
    | cons c r => simp [hr c rfl]
  have hdrop : (w ++ r).dropWhile Char.isDigit = r := by
    rw [List.dropWhile_append_of_pos h.2]
    cases r with
    | nil => rfl
    | cons c r => exact List.dropWhile_cons_of_neg (by simp [hr c rfl])
  rw [readDigits, htake, hdrop]
  cases w with
  | nil => exact absurd rfl h.1
  | cons c w => rfl

theorem readWhole_append (h : IsWhole w) (hr : ∀ c ∈ r.head?, c.isDigit = false) :
    readWhole (w ++ r) = some (w, r) := by
  cases h with
  | zero => rfl
  | @digits c w hc h =>
    rw [List.cons_append, readWhole]
    · exact readDigits_append h hr
    · rintro rest heq
      exact hc (List.cons.inj heq).1

theorem readFraction_append (h : IsDecimals w) (hr : ∀ c ∈ r.head?, c.isDigit = false ∧ c ≠ '.') :
    readFraction (w ++ r) = some (w, r) := by
  cases h with
  | absent =>
    rw [List.nil_append, readFraction]
    rintro rest rfl
    exact (hr '.' rfl).2 rfl
  | point h =>
    rw [List.cons_append, readFraction, readDigits_append h fun c hc => (hr c hc).1]
    rfl

theorem readExponent_append (h : IsPower w) (hr : Ends r) :
    readExponent (w ++ r) = some (w, r) := by
  have hdigit : ∀ c ∈ r.head?, c.isDigit = false := fun c hc => (hr c hc).1
  cases h with
  | absent =>
    cases r with
    | nil => rfl
    | cons c r =>
      obtain ⟨-, -, he, hE⟩ := hr c rfl
      exact if_neg (not_or.2 ⟨he, hE⟩)
  | @plain e w he h =>
    cases w with
    | nil => exact absurd rfl h.1
    | cons d w =>
      have hd : d.isDigit = true := h.2 d List.mem_cons_self
      have hsign : ¬(d = '+' ∨ d = '-') := by
        rintro (rfl | rfl) <;> exact Bool.false_ne_true hd
      have hdigits : readDigits (d :: (w ++ r)) = some (d :: w, r) := readDigits_append h hdigit
      rw [List.cons_append, List.cons_append, readExponent, if_pos he]
      dsimp only
      rw [if_neg hsign, hdigits]
      rfl
  | signed he hs h =>
    rw [List.cons_append, List.cons_append, readExponent, if_pos he]
    dsimp only
    rw [if_pos hs, readDigits_append h hdigit]
    rfl

/-- Neither decimals nor a power of ten start with a digit. -/
theorem not_isDigit_power_append (h : IsPower w) (hr : Ends r) :
    ∀ c ∈ (w ++ r).head?, c.isDigit = false ∧ c ≠ '.' := by
  rintro c hc
  cases h with
  | absent => exact ⟨(hr c hc).1, (hr c hc).2.1⟩
  | plain he _ | signed he _ _ =>
    obtain rfl := Option.some.inj hc
    rcases he with rfl | rfl <;> decide

theorem not_isDigit_decimals_append (h : IsDecimals w)
    (hr : ∀ c ∈ r.head?, c.isDigit = false ∧ c ≠ '.') :
    ∀ c ∈ (w ++ r).head?, c.isDigit = false := by
  rintro c hc
  cases h with
  | absent => exact (hr c hc).1
  | point _ =>
    obtain rfl := Option.some.inj hc
    rfl

theorem readUnsigned_append {whole decimals power : List Char} (hw : IsWhole whole)
    (hd : IsDecimals decimals) (hp : IsPower power) (hr : Ends r) :
    readUnsigned (whole ++ decimals ++ power ++ r) = some (whole ++ decimals ++ power, r) := by
  have hpower := not_isDigit_power_append hp hr
  have hwhole := readWhole_append hw (not_isDigit_decimals_append hd hpower)
  rw [List.append_assoc, List.append_assoc, readUnsigned, hwhole]
  dsimp only [Option.bind_eq_bind, Option.bind_some]
  rw [readFraction_append hd hpower]
  dsimp only [Option.bind_some]
  rw [readExponent_append hp hr]
  rfl

theorem IsWhole.exists_cons (h : IsWhole w) : ∃ c s, w = c :: s ∧ c.isDigit = true := by
  cases h with
  | zero => exact ⟨_, _, rfl, rfl⟩
  | digits _ h => exact ⟨_, _, rfl, h.2 _ List.mem_cons_self⟩

theorem readNumber_append (h : IsNumber w) (hr : Ends r) : readNumber (w ++ r) = some (w, r) := by
  cases h with
  | plain hw hd hp =>
    rw [readNumber]
    · exact readUnsigned_append hw hd hp hr
    · rintro rest heq
      obtain ⟨c, s, rfl, hc⟩ := hw.exists_cons
      obtain ⟨rfl, -⟩ := List.cons.inj heq
      exact Bool.false_ne_true hc
  | negative hw hd hp =>
    rw [List.cons_append, readNumber, readUnsigned_append hw hd hp hr]
    rfl

/-! ## Texts -/

theorem IsHexDigit.hexValue? (h : IsHexDigit n c) : Text.hexValue? c = some n ∧ n < 16 := by
  have hall : ∀ m < 16, "0123456789abcdef".toList[m]?.bind Text.hexValue? = some m ∧
      "0123456789ABCDEF".toList[m]?.bind Text.hexValue? = some m := by decide
  rcases h with h | h
  · have hn : n < 16 := (List.getElem?_eq_some_iff.1 h).1
    have hvalue := (hall n hn).1
    rw [h] at hvalue
    exact ⟨hvalue, hn⟩
  · have hn : n < 16 := (List.getElem?_eq_some_iff.1 h).1
    have hvalue := (hall n hn).2
    rw [h] at hvalue
    exact ⟨hvalue, hn⟩

theorem readPieces_piece_append {p : Piece} (h : SpellsPiece p w) (s : List Char) :
    readPieces (w ++ s) = (readPieces s).map fun q => (p :: q.1, q.2) := by
  cases h with
  | @plain c hlow hquote hback =>
    have hchar : ¬(c.toNat < 0x20 || c = '\\') = true := by simp [hlow, hback]
    rw [List.singleton_append, readPieces]
    · rw [if_neg hchar]
      cases readPieces s <;> rfl
    · exact hquote
    · exact fun _ _ _ _ _ heq => absurd heq hback
    · exact fun _ _ heq => absurd heq hback
  | short h =>
    simp only [shortEscapes, List.mem_cons, Prod.mk.injEq, List.not_mem_nil, or_false] at h
    rcases h with ⟨rfl, rfl⟩ | ⟨rfl, rfl⟩ | ⟨rfl, rfl⟩ | ⟨rfl, rfl⟩ | ⟨rfl, rfl⟩ | ⟨rfl, rfl⟩ |
        ⟨rfl, rfl⟩ | ⟨rfl, rfl⟩ <;>
      cases hs : readPieces s <;> simp [readPieces, shortEscape?, hs]
  | @unit x y z t a b c d ha hb hc hd =>
    have hcode : unit? a b c d = some (x * 4096 + y * 256 + z * 16 + t) := by
      rw [unit?, ha.hexValue?.1, hb.hexValue?.1, hc.hexValue?.1, hd.hexValue?.1]
      dsimp only [Option.bind_eq_bind, Option.bind_some]
      congr 1
      omega
    simp only [List.cons_append, List.nil_append]
    rw [readPieces, hcode]
    cases readPieces s <;> rfl

theorem readPieces_append {ps : List Piece} (h : SpellsPieces ps w) (r : List Char) :
    readPieces (w ++ '"' :: r) = some (ps, r) := by
  induction h with
  | nil => rfl
  | cons h _ ih =>
    rw [List.append_assoc, readPieces_piece_append h, ih]
    rfl

theorem toNat_lt_or_lt (c : Char) : c.toNat < 0xD800 ∨ 0xDFFF < c.toNat :=
  c.valid.imp id fun h => h.1

theorem joinPieces_unit (c : Char) (ps : List Piece) :
    joinPieces (.unit c.toNat :: ps) = (joinPieces ps).map (c :: ·) := by
  have hc := toNat_lt_or_lt c
  have hhigh : ¬(0xD800 ≤ c.toNat ∧ c.toNat < 0xDC00) := by omega
  have hlow : ¬(0xDC00 ≤ c.toNat ∧ c.toNat < 0xE000) := by omega
  have hhalf : ¬(0xD800 ≤ c.toNat ∧ c.toNat < 0xE000) := by omega
  cases ps with
  | nil => simp [joinPieces, hhalf]
  | cons p ps =>
    cases p with
    | char d => simp [joinPieces, hhalf]
    | unit low => rw [joinPieces, if_neg hhigh, if_neg hlow, Char.ofNat_toNat]

theorem joinPieces_of_standsFor {ps : List Piece} {cs : List Char} (h : StandsFor ps cs) :
    joinPieces ps = some cs := by
  induction h with
  | nil => rfl
  | char _ ih => rw [joinPieces, ih, Option.map_some]
  | unit _ ih => rw [joinPieces_unit, ih, Option.map_some]
  | pair hhigh hlow hc _ ih =>
    rw [joinPieces, if_pos hhigh, if_pos hlow, ih, ← hc, Char.ofNat_toNat, Option.map_some]

theorem toNat_ofNat (h : n.isValidChar) : (Char.ofNat n).toNat = n := by
  rw [Char.ofNat, dif_pos h]
  rfl

theorem standsFor_unit {code : Nat} {ps : List Piece} {cs : List Char} (hlt : code < 0x10000)
    (hcode : ¬(0xD800 ≤ code ∧ code < 0xE000)) (h : StandsFor ps cs) :
    StandsFor (.unit code :: ps) (Char.ofNat code :: cs) := by
  have hvalid : code.isValidChar := by
    simp only [Nat.isValidChar]
    omega
  have hunit := StandsFor.unit (c := Char.ofNat code) h
  rwa [toNat_ofNat hvalid] at hunit

theorem standsFor_of_joinPieces {ps : List Piece} {cs : List Char}
    (hps : ∀ n, .unit n ∈ ps → n < 0x10000) (h : joinPieces ps = some cs) : StandsFor ps cs := by
  fun_induction joinPieces ps generalizing cs with
  | case1 =>
    obtain rfl := Option.some.inj h
    exact .nil
  | case2 c rest ih =>
    obtain ⟨ds, hds, rfl⟩ := Option.map_eq_some_iff.1 h
    exact .char (ih (fun n hn => hps n (List.mem_cons_of_mem _ hn)) hds)
  | case3 high low rest hhigh hlow ih =>
    obtain ⟨ds, hds, rfl⟩ := Option.map_eq_some_iff.1 h
    have hrest : ∀ n, .unit n ∈ rest → n < 0x10000 := fun n hn =>
      hps n (List.mem_cons_of_mem _ (List.mem_cons_of_mem _ hn))
    refine .pair hhigh hlow (toNat_ofNat ?_) (ih hrest hds)
    simp only [Nat.isValidChar]
    omega
  | case4 | case5 | case7 => cases h
  | case6 code low rest hhigh hlow ih =>
    obtain ⟨ds, hds, rfl⟩ := Option.map_eq_some_iff.1 h
    refine standsFor_unit (hps code List.mem_cons_self) ?_
      (ih (fun n hn => hps n (List.mem_cons_of_mem _ hn)) hds)
    omega
  | case8 code rest _ hcode ih =>
    obtain ⟨ds, hds, rfl⟩ := Option.map_eq_some_iff.1 h
    exact standsFor_unit (hps code List.mem_cons_self) hcode
      (ih (fun n hn => hps n (List.mem_cons_of_mem _ hn)) hds)

theorem SpellsPieces.lt_of_unit_mem {ps : List Piece} (h : SpellsPieces ps w) :
    ∀ n, .unit n ∈ ps → n < 0x10000 := by
  induction h with
  | nil => nofun
  | cons h _ ih =>
    intro n hn
    rcases List.mem_cons.1 hn with rfl | hn
    · cases h with
      | unit ha hb hc hd =>
        have hx := ha.hexValue?.2
        have hy := hb.hexValue?.2
        have hz := hc.hexValue?.2
        have ht := hd.hexValue?.2
        omega
    · exact ih n hn

theorem readText_append {chars : Option (List Char)} (h : SpellsText chars w) :
    ∃ s, w = '"' :: s ∧ ∀ r, readText (s ++ r) = some (chars, r) := by
  cases h with
  | @chars ps cs w h hc =>
    refine ⟨_, rfl, fun r => ?_⟩
    rw [List.append_assoc, readText, List.singleton_append, readPieces_append h,
      ← joinPieces_of_standsFor hc]
    rfl
  | @unpaired ps w h hc =>
    have hnone : joinPieces ps = none :=
      Option.eq_none_iff_forall_ne_some.2 fun cs hcs =>
        hc cs (standsFor_of_joinPieces h.lt_of_unit_mem hcs)
    refine ⟨_, rfl, fun r => ?_⟩
    rw [List.append_assoc, readText, List.singleton_append, readPieces_append h, ← hnone]
    rfl

/-! ## Values -/

theorem IsNumber.exists_cons (h : IsNumber w) :
    ∃ c s, w = c :: s ∧ (c.isDigit = true ∨ c = '-') := by
  cases h with
  | plain hw _ _ =>
    obtain ⟨c, s, rfl, hc⟩ := hw.exists_cons
    exact ⟨c, _, rfl, .inl hc⟩
  | negative _ _ _ => exact ⟨_, _, rfl, .inr rfl⟩

/-- A value starts neither with a blank nor with the bracket that closes an array. -/
theorem Spells.exists_cons (h : Spells v w) :
    ∃ c s, w = c :: s ∧ isBlank c = false ∧ c ≠ ']' := by
  cases h with
  | null | isTrue | isFalse | noItems _ | items _ | noFields _ | fields _ =>
    exact ⟨_, _, rfl, rfl, by decide⟩
  | number h =>
    obtain ⟨c, s, rfl, hc⟩ := h.exists_cons
    refine ⟨c, s, rfl, Bool.eq_false_iff.2 fun hblank => ?_, ?_⟩
    · rcases isBlank_iff.1 hblank with rfl | rfl | rfl | rfl <;> simp at hc
    · rintro rfl
      simp at hc
  | text h =>
    obtain ⟨s, rfl, -⟩ := readText_append h
    exact ⟨_, _, rfl, rfl, by decide⟩

theorem SpellsItems.exists_cons {vs : List Json} (h : SpellsItems vs w) (r : List Char) :
    ∃ c s, skipBlanks (w ++ r) = c :: s ∧ c ≠ ']' := by
  have htext : ∀ {v w}, IsText v w → ∀ r, ∃ c s, skipBlanks (w ++ r) = c :: s ∧ c ≠ ']' := by
    rintro v _ ⟨ha, h, -⟩ r
    obtain ⟨c, s, rfl, hblank, hc⟩ := h.exists_cons
    rw [List.append_assoc, skipBlanks_append ha]
    exact ⟨c, _, skipBlanks_cons hblank _, hc⟩
  cases h with
  | one h => exact htext h r
  | cons h _ =>
    rw [List.append_assoc]
    exact htext h _

theorem SpellsFields.exists_cons {fs : List (Option (List Char) × Json)} (h : SpellsFields fs w)
    (r : List Char) : ∃ s, skipBlanks (w ++ r) = '"' :: s := by
  have hfield : ∀ {k v w}, SpellsField k v w → ∀ r, ∃ s, skipBlanks (w ++ r) = '"' :: s := by
    rintro k v _ ⟨ha, hk, -, -⟩ r
    obtain ⟨s, rfl, -⟩ := readText_append hk
    rw [List.append_assoc, skipBlanks_append ha]
    exact ⟨_, skipBlanks_cons rfl _⟩
  cases h with
  | one h => exact hfield h r
  | cons h _ =>
    rw [List.append_assoc]
    exact hfield h _

/-! Each step of the reader drops the blanks in front of it, so it does not matter if they have been
dropped before. -/

theorem readValue_blanks_append (h : IsBlanks w) (depth : Nat) (s : List Char) :
    readValue depth (w ++ s) = readValue depth s := by
  cases depth with
  | zero => rfl
  | succ depth => rw [readValue, readValue, skipBlanks_append h]

theorem readItems_skipBlanks (depth : Nat) (s : List Char) :
    readItems depth (skipBlanks s) = readItems depth s := by
  have hvalue : ∀ depth, readValue depth (skipBlanks s) = readValue depth s := fun depth => by
    cases depth with
    | zero => rfl
    | succ depth => rw [readValue, readValue, skipBlanks, skipBlanks, List.dropWhile_idempotent]
  cases depth with
  | zero => rfl
  | succ depth => rw [readItems, readItems, hvalue]

theorem readFields_skipBlanks (depth : Nat) (s : List Char) :
    readFields depth (skipBlanks s) = readFields depth s := by
  cases depth with
  | zero => rfl
  | succ depth => rw [readFields, readFields, skipBlanks, skipBlanks, List.dropWhile_idempotent]

theorem readValue_number (h : IsNumber w) (r : List Char) :
    readValue (depth + 1) (w ++ r) = (readNumber (w ++ r)).map fun q => (.number q.1, q.2) := by
  obtain ⟨c, s, rfl, hc⟩ := h.exists_cons
  have hskip : skipBlanks (c :: s ++ r) = c :: s ++ r := by
    obtain ⟨d, t, heq, hblank, -⟩ := (Spells.number h).exists_cons
    rw [heq]
    exact skipBlanks_cons hblank _
  rw [readValue, hskip]
  split
  -- none of the other values starts like a number
  case h_7 => rfl
  all_goals
    rename_i heq
    obtain ⟨rfl, -⟩ := List.cons.inj heq
    simp at hc

theorem readValue_items {vs : List Json} (h : SpellsItems vs w) (r : List Char) :
    readValue (depth + 1) ('[' :: (w ++ r)) =
      (readItems depth (w ++ r)).map fun q => (.array q.1, q.2) := by
  obtain ⟨c, s, heq, hc⟩ := h.exists_cons r
  rw [readValue, skipBlanks_cons rfl]
  simp only [heq]
  rw [← readItems_skipBlanks depth (w ++ r), heq]
  split
  · rename_i heq
    exact absurd (List.cons.inj heq).1 hc
  · rfl

theorem readValue_fields {fs : List (Option (List Char) × Json)} (h : SpellsFields fs w)
    (r : List Char) :
    readValue (depth + 1) ('\x7b' :: (w ++ r)) =
      (readFields depth (w ++ r)).map fun q => (.object q.1, q.2) := by
  obtain ⟨s, heq⟩ := h.exists_cons r
  rw [readValue, skipBlanks_cons rfl]
  simp only [heq]
  rw [← readFields_skipBlanks depth (w ++ r), heq]
  rfl

/-! A value is read and then what is behind it. -/

section Behind

variable {rest : List Char} (hv : readValue depth s = some (v, rest))

include hv

theorem readItems_last (hrest : skipBlanks rest = ']' :: r) :
    readItems (depth + 1) s = some ([v], r) := by
  rw [readItems, hv]
  dsimp only [Option.bind_eq_bind, Option.bind_some]
  rw [hrest]
  rfl

theorem readItems_more (hrest : skipBlanks rest = ',' :: r) :
    readItems (depth + 1) s = (readItems depth r).map fun q => (v :: q.1, q.2) := by
  rw [readItems, hv]
  simp only [Option.bind_eq_bind, Option.bind_some, hrest]
  cases readItems depth r <;> rfl

variable {k : Option (List Char)} {a n b : List Char} (ha : IsBlanks a) (hk : SpellsText k n)
  (hb : IsBlanks b)

include ha hk hb

theorem readFields_last (hrest : skipBlanks rest = '\x7d' :: r) :
    readFields (depth + 1) (a ++ (n ++ (b ++ ':' :: s))) = some ([(k, v)], r) := by
  obtain ⟨t, rfl, hread⟩ := readText_append hk
  rw [readFields, skipBlanks_append ha, List.cons_append, skipBlanks_cons rfl]
  simp only [hread, Option.bind_eq_bind, Option.bind_some]
  rw [skipBlanks_append hb, skipBlanks_cons rfl]
  simp only [hv, hrest, Option.bind_some]
  rfl

theorem readFields_more (hrest : skipBlanks rest = ',' :: r) :
    readFields (depth + 1) (a ++ (n ++ (b ++ ':' :: s))) =
      (readFields depth r).map fun q => ((k, v) :: q.1, q.2) := by
  obtain ⟨t, rfl, hread⟩ := readText_append hk
  rw [readFields, skipBlanks_append ha, List.cons_append, skipBlanks_cons rfl]
  simp only [hread, Option.bind_eq_bind, Option.bind_some]
  rw [skipBlanks_append hb, skipBlanks_cons rfl]
  simp only [hv, hrest, Option.bind_some]
  cases readFields depth r <;> rfl

end Behind

-- by recursion on how the text is derived; no step down into a value goes deeper than the text is
-- long, for each of them reads a character
mutual

theorem Spells.readValue_append {v : Json} {w : List Char} :
    Spells v w → ∀ {depth : Nat} {r : List Char}, w.length ≤ depth → Ends r →
      readValue depth (w ++ r) = some (v, r)
  | .null, depth + 1, r, _, _ => rfl
  | .isTrue, depth + 1, r, _, _ => rfl
  | .isFalse, depth + 1, r, _, _ => rfl
  | .number h, depth + 1, r, _, hr => by
    rw [readValue_number h, readNumber_append h hr, Option.map_some]
  | .number h, 0, r, hdepth, _ => by
    obtain ⟨c, s, rfl, -⟩ := h.exists_cons
    cases hdepth
  | .text h, depth, r, hdepth, _ => by
    obtain ⟨s, rfl, hread⟩ := readText_append h
    cases depth with
    | zero => cases hdepth
    | succ depth =>
      rw [List.cons_append, readValue, skipBlanks_cons rfl]
      simp only [hread, Option.map_some]
  | .noItems h, depth + 1, r, _, _ => by
    rw [List.cons_append, readValue, skipBlanks_cons rfl]
    simp only [List.append_assoc, skipBlanks_append h]
    rfl
  | .items h, depth + 1, r, hdepth, _ => by
    simp only [List.length_cons, List.length_append, List.length_nil] at hdepth
    rw [List.cons_append, List.append_assoc, readValue_items h, List.singleton_append,
      h.readItems_append (by omega), Option.map_some]
  | .noFields h, depth + 1, r, _, _ => by
    rw [List.cons_append, readValue, skipBlanks_cons rfl]
    simp only [List.append_assoc, skipBlanks_append h]
    rfl
  | .fields h, depth + 1, r, hdepth, _ => by
    simp only [List.length_cons, List.length_append, List.length_nil] at hdepth
    rw [List.cons_append, List.append_assoc, readValue_fields h, List.singleton_append,
      h.readFields_append (by omega), Option.map_some]

theorem IsText.readValue_append {v : Json} {w : List Char} :
    IsText v w → ∀ {depth : Nat} {r : List Char}, w.length ≤ depth → Ends r →
      ∃ rest, readValue depth (w ++ r) = some (v, rest) ∧ skipBlanks rest = skipBlanks r
  | @IsText.between v a w b ha h hb, depth, r, hdepth, hr => by
    simp only [List.length_append] at hdepth
    refine ⟨b ++ r, ?_, skipBlanks_append hb r⟩
    rw [List.append_assoc, readValue_blanks_append ha, List.append_assoc]
    exact h.readValue_append (by omega) (hr.blanks_append hb)

theorem SpellsItems.readItems_append {vs : List Json} {w : List Char} :
    SpellsItems vs w → ∀ {depth : Nat} {r : List Char}, w.length < depth →
      readItems depth (w ++ ']' :: r) = some (vs, r)
  | .one h, depth + 1, r, hdepth => by
    obtain ⟨rest, hread, hrest⟩ := h.readValue_append (Nat.le_of_lt_succ hdepth) Ends.bracket
    exact readItems_last hread hrest
  | @SpellsItems.cons v vs w s h hs, depth + 1, r, hdepth => by
    simp only [List.length_append, List.length_cons] at hdepth
    have hfits : w.length ≤ depth := by omega
    obtain ⟨rest, hread, hrest⟩ := h.readValue_append hfits Ends.comma
    rw [List.append_assoc, List.cons_append, readItems_more hread hrest,
      hs.readItems_append (by omega), Option.map_some]

/-- A field is the last one, or more are behind it. -/
theorem SpellsField.readFields_append {k : Option (List Char)} {v : Json} {w : List Char} :
    SpellsField k v w → ∀ {depth : Nat} (r : List Char), w.length ≤ depth →
      readFields (depth + 1) (w ++ '\x7d' :: r) = some ([(k, v)], r) ∧
      readFields (depth + 1) (w ++ ',' :: r) =
        (readFields depth r).map fun q => ((k, v) :: q.1, q.2)
  | @SpellsField.named k v a n b w ha hk hb h, depth, r, hdepth => by
    simp only [List.length_append, List.length_cons] at hdepth
    have hfits : w.length ≤ depth := by omega
    simp only [List.append_assoc, List.cons_append]
    constructor
    · obtain ⟨rest, hread, hrest⟩ := h.readValue_append hfits Ends.brace
      exact readFields_last hread ha hk hb hrest
    · obtain ⟨rest, hread, hrest⟩ := h.readValue_append hfits Ends.comma
      exact readFields_more hread ha hk hb hrest

theorem SpellsFields.readFields_append {fs : List (Option (List Char) × Json)} {w : List Char} :
    SpellsFields fs w → ∀ {depth : Nat} {r : List Char}, w.length < depth →
      readFields depth (w ++ '\x7d' :: r) = some (fs, r)
  | .one h, depth + 1, r, hdepth => (h.readFields_append r (Nat.le_of_lt_succ hdepth)).1
  | .cons h hs, depth + 1, r, hdepth => by
    simp only [List.length_append, List.length_cons] at hdepth
    rw [List.append_assoc, List.cons_append, (h.readFields_append _ (by omega)).2,
      hs.readFields_append (by omega), Option.map_some]

end

/-- Every text of the grammar is read as the value that it is a text of. -/
theorem parse_of_isText {s : String} (h : IsText v s.toList) : parse s = some v := by
  obtain ⟨rest, hread, hrest⟩ := h.readValue_append (Nat.le_succ s.toList.length) Ends.nil
  rw [List.append_nil] at hread
  rw [parse, hread]
  exact if_pos hrest

end BlobDepot.Json
