import BlobDepot.Transfer.Policy
import Mathlib.Order.Lattice.Nat

/-!
# Waits

A wait is computed in 64 bits. Each step on the way stops at the largest number where the result
does not fit, and the ceiling is never above that number; so what comes out in the end is what
unbounded arithmetic gives.
-/
namespace BlobDepot.Policy

def largest : Nat := 2 ^ 64 - 1

theorem le_largest_of_lt {k : Nat} (h : k < 2 ^ 64) : k ≤ largest :=
  Nat.le_pred_of_lt h

theorem largest_le {k : Nat} (h : 2 ^ 64 ≤ k) : largest ≤ k :=
  Nat.le_trans (Nat.sub_le _ _) h

theorem toNat_min (a b : UInt64) : (min a b).toNat = min a.toNat b.toNat := by
  have hmin : min a b = if a ≤ b then a else b := rfl
  rw [hmin]
  split
  · rename_i h
    exact (Nat.min_eq_left (UInt64.le_iff_toNat_le.1 h)).symm
  · rename_i h
    exact (Nat.min_eq_right (Nat.le_of_not_le (UInt64.le_iff_toNat_le.not.1 h))).symm

theorem toNat_powerOfTwo (n : UInt32) : (powerOfTwo n).toNat = min (2 ^ n.toNat) largest := by
  rw [powerOfTwo]
  split
  · rename_i h
    have hlt : n.toNat < 64 := UInt32.lt_iff_toNat_lt.1 h
    have hpow : 2 ^ n.toNat < 2 ^ 64 := Nat.pow_lt_pow_right Nat.one_lt_two hlt
    rw [Nat.min_eq_left (le_largest_of_lt hpow), UInt64.toNat_shiftLeft, UInt32.toNat_toUInt64,
      Nat.mod_eq_of_lt hlt, UInt64.toNat_one, Nat.one_shiftLeft, Nat.mod_eq_of_lt hpow]
  · rename_i h
    have hle : 64 ≤ n.toNat := UInt32.le_iff_toNat_le.1 (UInt32.not_lt.1 h)
    have hpow : 2 ^ 64 ≤ 2 ^ n.toNat := Nat.pow_le_pow_right Nat.two_pos hle
    exact (Nat.min_eq_right (largest_le hpow)).symm

theorem toNat_cappedMul (a b : UInt64) :
    (cappedMul a b).toNat = min (a.toNat * b.toNat) largest := by
  rw [cappedMul]
  split
  · rename_i h
    rw [Nat.min_eq_left (le_largest_of_lt h), UInt64.toNat_mul, Nat.mod_eq_of_lt h]
  · rename_i h
    exact (Nat.min_eq_right (largest_le (Nat.not_lt.1 h))).symm

/-- A power that stands in for a larger one goes unnoticed: with a base of zero the product is zero
all the same, and with any other it is above the ceiling. -/
theorem min_cappedProduct (power base : Nat) {ceiling : Nat} (h : ceiling ≤ largest) :
    min (min (min power largest * base) largest) ceiling = min (power * base) ceiling := by
  rw [Nat.min_assoc, Nat.min_eq_right h]
  rcases Nat.le_total power largest with hle | hle
  · rw [Nat.min_eq_left hle]
  rw [Nat.min_eq_right hle]
  cases base with
  | zero => rfl
  | succ k =>
    have hlarge : ceiling ≤ largest * (k + 1) := h.trans (Nat.le_mul_of_pos_right _ k.succ_pos)
    rw [Nat.min_eq_right hlarge,
      Nat.min_eq_right (hlarge.trans (Nat.mul_le_mul_right _ hle))]

theorem toNat_backoffMillis (p : Policy) (n : UInt32) :
    (p.backoffMillis n).toNat = min (2 ^ n.toNat * p.base.toNat) p.ceiling.toNat := by
  rw [backoffMillis, toNat_min, toNat_cappedMul, toNat_powerOfTwo,
    min_cappedProduct _ _ (le_largest_of_lt p.ceiling.toNat_lt)]

/-- The wait after an attempt is the base, doubled once for each attempt, or the ceiling if that is
less, whatever the number of the attempt. So waits never get shorter and never exceed the
ceiling. -/
theorem backoff_exact (p : Policy) :
    (∀ n : UInt32,
      p.backoff n = .ofMillis (min (2 ^ n.toNat * p.base.toNat) p.ceiling.toNat)) ∧
    (∀ n m : UInt32, n ≤ m → (p.backoff n).nanos ≤ (p.backoff m).nanos) ∧
    ∀ n : UInt32, (p.backoff n).nanos ≤ (spanOf p.ceiling).nanos := by
  have hexact : ∀ n : UInt32,
      p.backoff n = .ofMillis (min (2 ^ n.toNat * p.base.toNat) p.ceiling.toNat) := fun n => by
    rw [backoff, spanOf, toNat_backoffMillis]
  refine ⟨hexact, fun n m h => ?_, fun n => ?_⟩
  · have hpow : 2 ^ n.toNat ≤ 2 ^ m.toNat :=
      Nat.pow_le_pow_right Nat.two_pos (UInt32.le_iff_toNat_le.1 h)
    rw [hexact, hexact]
    exact Nat.mul_le_mul_right _ (min_le_min_right _ (Nat.mul_le_mul_right _ hpow))
  · rw [hexact]
    exact Nat.mul_le_mul_right _ (Nat.min_le_right _ _)

/-- The largest base and ceiling, on both sides of the last shift that fits. -/
theorem backoff_exact_at_last_shift :
    let p : Policy := { base := 0xFFFFFFFFFFFFFFFF, ceiling := 0xFFFFFFFFFFFFFFFF }
    (p.backoff 63).nanos ≤ (p.backoff 64).nanos ∧ p.backoff 64 = .ofMillis (2 ^ 64 - 1) := by
  intro p
  obtain ⟨hexact, hmono, -⟩ := backoff_exact p
  exact ⟨hmono 63 64 (by decide), (hexact 64).trans (by decide)⟩

end BlobDepot.Policy
