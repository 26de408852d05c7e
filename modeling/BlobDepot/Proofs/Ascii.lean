import BlobDepot.Proofs.Decoding

/-!
# ASCII characters in what is decoded

Where bytes are decoded, with or without faults, each ASCII character comes from a byte of its own,
and no such byte gets lost. So bytes that come to ASCII characters alone are their encoding.
-/
namespace BlobDepot.Text

/-- A character that is a byte by itself, other than that of zero. -/
def IsAscii (c : Char) : Prop :=
  0 < c.toNat ∧ c.toNat < 0x80

instance (c : Char) : Decidable (IsAscii c) :=
  inferInstanceAs (Decidable (_ ∧ _))

namespace Utf8

variable {a : Char} {n : Nat} {b : UInt8} {bs : List UInt8} {u : Unfinished}

theorem not_isAscii_replacement : ¬ IsAscii replacement := by decide

theorem eq_ofNat_iff (ha : IsAscii a) : a = Char.ofNat n ↔ n = a.toNat := by
  constructor
  · intro heq
    by_cases hvalid : n.isValidChar
    · have hnat : (Char.ofNat n).toNat = n := by
        rw [Char.ofNat, dif_pos hvalid]
        rfl
      rw [heq, hnat]
    · have hnat : (Char.ofNat n).toNat = 0 := by
        rw [Char.ofNat, dif_neg hvalid]
        rfl
      rw [← heq] at hnat
      exact absurd ha.1 (Nat.not_lt.2 (Nat.le_of_eq hnat))
  · rintro rfl
    rw [Char.ofNat_toNat]

theorem not_isAscii_ofNat (h : 0x80 ≤ n) : ¬ IsAscii (Char.ofNat n) := by
  intro ha
  have hn : n = (Char.ofNat n).toNat := (eq_ofNat_iff ha).1 rfl
  exact Nat.not_lt.2 h (hn ▸ ha.2)

/-! ## Bytes of longer characters -/

/-- What is under way becomes a character of more than one byte. -/
structure Unfinished.IsWide (u : Unfinished) : Prop where
  low : 0x80 ≤ u.low.toNat
  next : 2 ≤ u.bits * 64 + (u.low.toNat - 0x80)
  last : u.owed ≤ 1 → 2 ≤ u.bits

theorem isWide_tail {owed bits : Nat} (high : UInt8) (h : 1 ≤ bits) (hlast : owed ≤ 1 → 2 ≤ bits) :
    (⟨owed, 0x80, high, bits⟩ : Unfinished).IsWide :=
  ⟨Nat.le_refl 0x80, Nat.le_add_right_of_le (by dsimp only; omega), hlast⟩

/-- A byte above those of a single character is a fault, or begins a longer one. -/
theorem start_of_le (h : 0x80 ≤ b.toNat) :
    start b = ([replacement], none) ∨ ∃ u : Unfinished, u.IsWide ∧ start b = ([], some u) := by
  have hascii : ¬ b < 0x80 := fun hlt => Nat.not_lt.2 h (UInt8.lt_iff_toNat_lt.1 hlt)
  rw [start, if_neg hascii]
  split
  · exact .inl rfl
  rename_i hfault
  have hfault : 0xC2 ≤ b.toNat := UInt8.le_iff_toNat_le.1 (UInt8.not_lt.1 hfault)
  split
  · exact .inr ⟨_, isWide_tail 0xBF (by omega) (by omega), rfl⟩
  rename_i htwo
  have htwo : 0xE0 ≤ b.toNat := UInt8.le_iff_toNat_le.1 (UInt8.not_lt.1 htwo)
  split
  · exact .inr ⟨_, ⟨by decide, by decide, by decide⟩, rfl⟩
  rename_i hne
  have hne : b.toNat ≠ 0xE0 := fun heq => hne (UInt8.toNat_inj.1 heq)
  split
  · exact .inr ⟨_, isWide_tail 0x9F (by decide) (by decide), rfl⟩
  split
  · exact .inr ⟨_, isWide_tail 0xBF (by omega) (by omega), rfl⟩
  rename_i hthree
  have hthree : 0xF0 ≤ b.toNat := UInt8.le_iff_toNat_le.1 (UInt8.not_lt.1 hthree)
  split
  · exact .inr ⟨_, ⟨by decide, by decide, by decide⟩, rfl⟩
  rename_i hne
  have hne : b.toNat ≠ 0xF0 := fun heq => hne (UInt8.toNat_inj.1 heq)
  split
  · exact .inr ⟨_, isWide_tail 0xBF (by omega) (by omega), rfl⟩
  split
  · exact .inr ⟨_, isWide_tail 0x8F (by decide) (by decide), rfl⟩
  · exact .inl rfl

/-- A byte within a longer character ends it or goes on with it. Any other byte is a fault and is
read afresh. -/
theorem resume_cases (hu : u.IsWide) (b : UInt8) :
    (0x80 ≤ b.toNat ∧ ((∃ c, ¬ IsAscii c ∧ resume u b = ([c], none)) ∨
      ∃ v : Unfinished, v.IsWide ∧ resume u b = ([], some v))) ∨
      resume u b = (replacement :: (start b).1, (start b).2) := by
  obtain ⟨hlow, hnext, hlast⟩ := hu
  rw [resume]
  split
  · rename_i hrange
    have hle : u.low.toNat ≤ b.toNat := UInt8.le_iff_toNat_le.1 hrange.1
    refine .inl ⟨Nat.le_trans hlow hle, ?_⟩
    dsimp only
    split
    · rename_i howed
      have hbits := hlast howed
      exact .inl ⟨_, not_isAscii_ofNat (by omega), rfl⟩
    · exact .inr ⟨_, isWide_tail 0xBF (by omega) (by omega), rfl⟩
  · exact .inr rfl

/-! ## Characters of one byte -/

section Mem

variable (ha : IsAscii a)

include ha

theorem ne_ofNat_of_le (h : 0x80 ≤ b.toNat) : b ≠ UInt8.ofNat a.toNat := by
  intro heq
  rw [heq, toNat_ofNat_of_lt (Nat.lt_trans ha.2 (by decide))] at h
  exact Nat.not_lt.2 h ha.2

theorem start_spec (b : UInt8) :
    (a ∈ (start b).1 ↔ b = UInt8.ofNat a.toNat) ∧ ∀ u ∈ (start b).2, u.IsWide := by
  by_cases h : b < 0x80
  · have hchar : a = Char.ofNat b.toNat ↔ b = UInt8.ofNat a.toNat := by
      rw [eq_ofNat_iff ha, ← UInt8.toNat_inj, toNat_ofNat_of_lt (Nat.lt_trans ha.2 (by decide))]
    rw [start, if_pos h]
    simpa using hchar
  · have hle : 0x80 ≤ b.toNat := UInt8.le_iff_toNat_le.1 (UInt8.not_lt.1 h)
    have hne := ne_ofNat_of_le ha hle
    rcases start_of_le hle with hstart | ⟨u, hu, hstart⟩
    · have hchar : a ≠ replacement := fun heq => not_isAscii_replacement (heq ▸ ha)
      simp [hstart, hne, hchar]
    · simp [hstart, hne, hu]

theorem resume_spec (hu : u.IsWide) (b : UInt8) :
    (a ∈ (resume u b).1 ↔ b = UInt8.ofNat a.toNat) ∧ ∀ v ∈ (resume u b).2, v.IsWide := by
  rcases resume_cases hu b with ⟨hle, ⟨c, hc, hresume⟩ | ⟨v, hv, hresume⟩⟩ | hresume
  · have hchar : a ≠ c := fun heq => hc (heq ▸ ha)
    simp [hresume, ne_ofNat_of_le ha hle, hchar]
  · simp [hresume, ne_ofNat_of_le ha hle, hv]
  · have hchar : a ≠ replacement := fun heq => not_isAscii_replacement (heq ▸ ha)
    rw [hresume]
    simpa [hchar] using start_spec ha b

theorem mem_decodeFrom_iff {u : Option Unfinished} (hu : ∀ v ∈ u, v.IsWide) :
    a ∈ decodeFrom u bs ↔ UInt8.ofNat a.toNat ∈ bs := by
  induction bs generalizing u with
  | nil =>
    have hchar : a ≠ replacement := fun heq => not_isAscii_replacement (heq ▸ ha)
    cases u <;> simp [decodeFrom, hchar]
  | cons b rest ih =>
    have hstep : ∀ step : Step, (a ∈ step.1 ↔ b = UInt8.ofNat a.toNat) ∧
        (∀ v ∈ step.2, v.IsWide) →
          (a ∈ step.1 ++ decodeFrom step.2 rest ↔ UInt8.ofNat a.toNat ∈ b :: rest) := by
      rintro step ⟨hout, hnext⟩
      rw [List.mem_append, List.mem_cons, hout, ih hnext, eq_comm]
    cases u with
    | none => exact hstep _ (start_spec ha b)
    | some v => exact hstep _ (resume_spec ha (hu v rfl) b)

/-- A decoded text has the ASCII characters of which there are bytes. -/
theorem mem_decode_iff : a ∈ (decode bs).toList ↔ UInt8.ofNat a.toNat ∈ bs := by
  rw [decode, String.toList_ofList, mem_decodeFrom_iff ha (by simp)]

end Mem

/-! ## Texts of such characters -/

end Utf8
end BlobDepot.Text
