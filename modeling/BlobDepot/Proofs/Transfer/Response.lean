import BlobDepot.Transfer.Response

/-!
# Bodies as failures show them

A body that arrives in chunks is read until more bytes are at hand than are shown. What is shown
does not depend on where the chunks were cut: it is the text of the first bytes of all that arrive.
-/
namespace BlobDepot

/-- Bytes behind the limit do not change what is shown once there are some. -/
theorem truncate_append_of_lt {got : List UInt8} {limit : Nat} (h : limit < got.length)
    (more : List UInt8) : truncate (got ++ more) limit = truncate got limit := by
  have htake : (got ++ more).take limit = got.take limit :=
    List.take_append_of_le_length (Nat.le_of_lt h)
  have hlong : limit < (got ++ more).length := by
    rw [List.length_append]
    omega
  simp only [truncate, htake, if_pos hlong, if_pos h]

theorem truncate_collect (limit : Nat) (got : List UInt8) (parts : List (List UInt8)) :
    truncate (collect limit got parts) limit = truncate (got ++ parts.flatten) limit := by
  induction parts generalizing got with
  | nil => simp [collect]
  | cons part parts ih =>
    by_cases h : got.length ≤ limit
    · simp [collect, h, ih, List.append_assoc]
    · simp [collect, h, truncate_append_of_lt (Nat.lt_of_not_le h)]

theorem Body.shown_eq_truncate (limit : Nat) (b : Body) :
    b.shown limit = truncate b.bytes limit := by
  cases b with
  | whole data => rfl
  | chunks parts complete => simp [Body.shown, Body.bytes, truncate_collect]

end BlobDepot
