import BlobDepot.Proofs.Json.Reading

/-!
# Writing JSON

What a value is written as is a text of the grammar, as long as the numbers in it are numbers. So it
is read as the same value again.
-/
namespace BlobDepot.Json

variable {c : Char} {v : Json} {n : Nat}

/-! ## Texts -/

theorem isHexDigit_hexByte (b : UInt8) : ∃ x y, Text.hexByte false b = [x, y] ∧
    IsHexDigit (b.toNat / 16) x ∧ IsHexDigit (b.toNat % 16) y := by
  have hall : ∀ m < 16, "0123456789abcdef".toList[m]? =
      some (if m < 10 then Char.ofNat (48 + m) else Char.ofNat (87 + m)) := by decide
  have hb := b.toNat_lt
  exact ⟨_, _, rfl, .inl (hall _ (by omega)), .inl (hall _ (by omega))⟩

theorem exists_piece_escape (c : Char) :
    ∃ p, SpellsPiece p (escape c) ∧ ∀ {ps cs}, StandsFor ps cs → StandsFor (p :: ps) (c :: cs) := by
  unfold escape
  split
  case h_1 | h_2 | h_3 | h_4 | h_5 => exact ⟨_, .short (by decide), .char⟩
  rename_i hquote hback _ _ _
  have heq : ∀ {m}, c.toNat = m → c = Char.ofNat m := fun h => by rw [← h, Char.ofNat_toNat]
  split
  · rename_i h
    obtain rfl := heq h
    exact ⟨_, .short (by decide), .char⟩
  split
  · rename_i h
    obtain rfl := heq h
    exact ⟨_, .short (by decide), .char⟩
  split
  · rename_i hlow
    have hbyte : (UInt8.ofNat c.toNat).toNat = c.toNat := by
      rw [UInt8.toNat_ofNat', Nat.mod_eq_of_lt (by omega)]
    obtain ⟨x, y, hxy, hx, hy⟩ := isHexDigit_hexByte (UInt8.ofNat c.toNat)
    have hzero : IsHexDigit 0 '0' := .inl rfl
    have hpiece := SpellsPiece.unit hzero hzero hx hy
    rw [hbyte] at hpiece
    have hcode : 0 * 4096 + 0 * 256 + c.toNat / 16 * 16 + c.toNat % 16 = c.toNat := by omega
    rw [hcode] at hpiece
    rw [hxy]
    exact ⟨_, hpiece, .unit⟩
  · rename_i hlow
    exact ⟨_, .plain (Nat.not_lt.1 hlow) hquote hback, .char⟩

theorem exists_pieces_flatMap_escape (cs : List Char) :
    ∃ ps, SpellsPieces ps (cs.flatMap escape) ∧ StandsFor ps cs := by
  induction cs with
  | nil => exact ⟨[], .nil, .nil⟩
  | cons c cs ih =>
    obtain ⟨ps, hps, hcs⟩ := ih
    obtain ⟨p, hp, hc⟩ := exists_piece_escape c
    exact ⟨p :: ps, .cons hp hps, hc hcs⟩

theorem not_standsFor_half (cs : List Char) : ¬ StandsFor [.unit 0xD800] cs := by
  intro h
  have hjoin := joinPieces_of_standsFor h
  cases hjoin

theorem spellsText_quote (chars : Option (List Char)) : SpellsText chars (quote chars) := by
  cases chars with
  | none =>
    have hpiece : SpellsPiece (.unit 0xD800) ['\\', 'u', 'd', '8', '0', '0'] :=
      .unit (x := 13) (y := 8) (z := 0) (t := 0) (.inl rfl) (.inl rfl) (.inl rfl) (.inl rfl)
    exact .unpaired (.cons hpiece .nil) not_standsFor_half
  | some cs =>
    obtain ⟨ps, hps, hcs⟩ := exists_pieces_flatMap_escape cs
    exact .chars hps hcs

/-! ## Numbers -/

theorem exists_cons_toDigits (h : 0 < n) : ∃ c w, Nat.toDigits 10 n = c :: w ∧ c ≠ '0' := by
  induction n using Nat.strongRecOn with
  | ind n ih =>
    by_cases hlt : n < 10
    · have hall : ∀ m < 10, 0 < m → m.digitChar ≠ '0' := by decide
      exact ⟨_, [], Nat.toDigits_of_lt_base hlt, hall n hlt h⟩
    · obtain ⟨c, w, heq, hc⟩ := ih (n / 10) (by omega) (by omega)
      refine ⟨c, w ++ [(n % 10).digitChar], ?_, hc⟩
      rw [Nat.toDigits_of_base_le (by decide) (Nat.not_lt.1 hlt), heq, List.cons_append]

theorem isNumber_toDigits (n : Nat) : IsNumber (Nat.toDigits 10 n) := by
  have hwhole : IsWhole (Nat.toDigits 10 n) := by
    by_cases hzero : n = 0
    · rw [hzero, Nat.toDigits_zero]
      exact .zero
    · obtain ⟨c, w, heq, hc⟩ := exists_cons_toDigits (Nat.pos_of_ne_zero hzero)
      rw [heq]
      refine .digits hc ⟨List.cons_ne_nil c w, fun d hd => ?_⟩
      exact Nat.isDigit_of_mem_toDigits (by decide) (Nat.le_refl 10) (heq ▸ hd)
  have hnumber := IsNumber.plain hwhole .absent .absent
  rwa [List.append_nil, List.append_nil] at hnumber

theorem natural?_ofNat (n : Nat) : (ofNat n).natural? = some n := by
  have hdigits : (Nat.toDigits 10 n).all Char.isDigit = true :=
    List.all_eq_true.2 fun _ => Nat.isDigit_of_mem_toDigits (by decide) (Nat.le_refl 10)
  rw [ofNat, natural?, if_pos hdigits]
  exact congrArg some (Nat.ofDigitChars_toDigits (by decide) (Nat.le_refl 10))

/-! ## Values -/

mutual

def IsProper : Json → Prop
  | .number w => IsNumber w
  | .array vs => AreProper vs
  | .object fs => HasProperFields fs
  | .null | .bool _ | .text _ => True

def AreProper : List Json → Prop
  | [] => True
  | v :: vs => v.IsProper ∧ AreProper vs

def HasProperFields : List (Option (List Char) × Json) → Prop
  | [] => True
  | (_, v) :: fs => v.IsProper ∧ HasProperFields fs

end

theorem IsBlanks.nil : IsBlanks [] := nofun

theorem Spells.isText {w : List Char} (h : Spells v w) : IsText v w := by
  have htext := IsText.between .nil h .nil
  rwa [List.append_nil] at htext

theorem spellsField_quote {w : List Char} (k : Option (List Char)) (h : Spells v w) :
    SpellsField k v (quote k ++ ':' :: w) :=
  .named .nil (spellsText_quote k) .nil h.isText

mutual

theorem spells_write : ∀ v : Json, v.IsProper → Spells v v.write
  | .null, _ => .null
  | .bool true, _ => .isTrue
  | .bool false, _ => .isFalse
  | .number _, h => .number h
  | .text chars, _ => .text (spellsText_quote chars)
  | .array [], _ => .noItems .nil
  | .array (v :: vs), h => by
    obtain ⟨w, heq, hw⟩ := exists_items_write (v :: vs) (List.cons_ne_nil v vs) h
    rw [write, heq]
    exact .items hw
  | .object [], _ => .noFields .nil
  | .object (f :: fs), h => by
    obtain ⟨w, heq, hw⟩ := exists_fields_write (f :: fs) (List.cons_ne_nil f fs) h
    rw [write, heq]
    exact .fields hw

theorem exists_items_write : ∀ vs : List Json, vs ≠ [] → AreProper vs →
    ∃ w, writeItems vs = w ++ [']'] ∧ SpellsItems vs w
  | [], hne, _ => absurd rfl hne
  | [v], _, h => ⟨_, rfl, .one (spells_write v h.1).isText⟩
  | v :: u :: vs, _, h => by
    obtain ⟨w, heq, hw⟩ := exists_items_write (u :: vs) (List.cons_ne_nil u vs) h.2
    refine ⟨_, ?_, .cons (spells_write v h.1).isText hw⟩
    rw [writeItems, heq, List.append_assoc, List.cons_append]

theorem exists_fields_write : ∀ fs : List (Option (List Char) × Json), fs ≠ [] →
    HasProperFields fs → ∃ w, writeFields fs = w ++ ['\x7d'] ∧ SpellsFields fs w
  | [], hne, _ => absurd rfl hne
  | [(k, v)], _, h => by
    refine ⟨_, ?_, .one (spellsField_quote k (spells_write v h.1))⟩
    rw [writeFields, List.append_assoc, List.cons_append]
  | (k, v) :: f :: fs, _, h => by
    obtain ⟨w, heq, hw⟩ := exists_fields_write (f :: fs) (List.cons_ne_nil f fs) h.2
    refine ⟨_, ?_, .cons (spellsField_quote k (spells_write v h.1)) hw⟩
    rw [writeFields, heq]
    simp only [List.append_assoc, List.cons_append]

end

/-- What is written is read as the same value again. -/
theorem parse_render (h : v.IsProper) : parse v.render = some v := by
  refine parse_of_isText ?_
  rw [render, String.toList_ofList]
  exact (spells_write v h).isText

end BlobDepot.Json
