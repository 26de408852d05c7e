import BlobDepot.Proofs.Ascii
import BlobDepot.Proofs.Text
import BlobDepot.Span
import Mathlib.Data.List.Count

/-!
# Line feeds in texts and bytes

Where bytes are decoded, with or without faults, each line feed comes from a byte of its own, and no
such byte gets lost. Where a text is encoded no other character gives one.
-/
namespace BlobDepot

namespace Text

def IsOneLine (s : String) : Prop :=
  '\n' ∉ s.toList

instance (s : String) : Decidable (IsOneLine s) :=
  inferInstanceAs (Decidable (_ ∉ _))

@[simp] theorem isOneLine_append {s t : String} :
    IsOneLine (s ++ t) ↔ IsOneLine s ∧ IsOneLine t := by
  simp [IsOneLine]

theorem isOneLine_toString (n : Nat) : IsOneLine (toString n) := by
  intro hmem
  have hdigit : ('\n' : Char).isDigit = true :=
    Nat.isDigit_of_mem_toDigits (by decide) (Nat.le_refl 10) (Nat.toList_repr ▸ hmem)
  cases hdigit

theorem Utf8.isOneLine_decode_iff {bs : List UInt8} : IsOneLine (decode bs) ↔ 0x0A ∉ bs :=
  not_congr (mem_decode_iff (a := '\n') (by decide))

theorem count_bytes (s : String) : (bytes s).count 0x0A = s.toList.count '\n' :=
  count_ascii_bytes (show '\n'.toNat < 0x80 by decide) s

end Text

/-! ## Spans -/

theorem Span.isOneLine_inUnit (width : Nat) {unit : String} (hunit : Text.IsOneLine unit)
    (nanos : Nat) : Text.IsOneLine (inUnit width unit nanos) := by
  have hdecimals : ∀ part, '\n' ∉ decimals width part := by
    intro part hmem
    have hpadded := (List.dropWhile_sublist _).subset (List.mem_reverse.1 hmem)
    rcases List.mem_append.1 (List.mem_reverse.1 hpadded) with hzero | hdigit
    · cases List.eq_of_mem_replicate hzero
    · have hdigit := Nat.isDigit_of_mem_toDigits (by decide) (Nat.le_refl 10) hdigit
      cases hdigit
  dsimp only [inUnit]
  split
  · exact Text.isOneLine_append.2 ⟨Text.isOneLine_toString _, hunit⟩
  · simp only [Text.isOneLine_append]
    refine ⟨⟨⟨Text.isOneLine_toString _, by decide⟩, ?_⟩, hunit⟩
    rw [Text.IsOneLine, String.toList_ofList]
    exact hdecimals _

theorem Span.isOneLine_render (s : Span) : Text.IsOneLine s.render := by
  rw [render]
  split
  · exact isOneLine_inUnit 9 (by decide) _
  split
  · exact isOneLine_inUnit 6 (by decide) _
  split
  · exact isOneLine_inUnit 3 (by decide) _
  · exact isOneLine_inUnit 0 (by decide) _

end BlobDepot
