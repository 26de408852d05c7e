import BlobDepot.Text.Basic
import Mathlib.Order.Defs.LinearOrder

/-!
# The order of texts

Texts that start alike stand together. Texts are in the order of their characters, which is that of
their bytes: the bytes of a character come before those of a higher one, whatever follows. An ASCII
character is its byte, and no other character has that byte.
-/
namespace BlobDepot.Text

/-! ## Prefixes -/

theorem eq_append_of_not_lex {p s r : List Char} (h : ¬ List.Lex (· < ·) s p)
    (h' : ¬ List.Lex (· < ·) (p ++ r) s) : ∃ t, s = p ++ t := by
  induction p generalizing s with
  | nil => exact ⟨s, rfl⟩
  | cons a p ih =>
    cases s with
    | nil => exact absurd List.Lex.nil h
    | cons b s =>
      have hba : ¬ b < a := fun hlt => h (.rel hlt)
      have hab : ¬ a < b := fun hlt => h' (.rel hlt)
      obtain rfl : a = b := Char.le_antisymm (Char.not_lt.1 hba) (Char.not_lt.1 hab)
      obtain ⟨t, rfl⟩ := ih (fun hlex => h (.cons hlex)) (fun hlex => h' (.cons hlex))
      exact ⟨t, rfl⟩

theorem le_append (start r : String) : start ≤ start ++ r := by
  intro hlt
  have hlex : List.Lex (· < ·) (start ++ r).toList start.toList := hlt
  rw [String.toList_append] at hlex
  exact List.le_append_left hlex

theorem le_of_startsWith {start k : String} (h : startsWith start k = true) : start ≤ k := by
  obtain ⟨r, rfl⟩ := startsWith_iff.1 h
  exact le_append start r

theorem startsWith_empty (s : String) : startsWith "" s = true :=
  startsWith_iff.2 ⟨s, by simp⟩

/-- What stands between a text and one that starts with it starts with it too. -/
theorem startsWith_of_le_of_le {start k k' : String} (hk : start ≤ k) (hle : k ≤ k')
    (h : startsWith start k' = true) : startsWith start k = true := by
  obtain ⟨r, rfl⟩ := startsWith_iff.1 h
  have hlist : ¬ List.Lex (· < ·) (start.toList ++ r.toList) k.toList := by
    rw [← String.toList_append]
    exact hle
  obtain ⟨t, ht⟩ := eq_append_of_not_lex hk hlist
  refine startsWith_iff.2 ⟨String.ofList t, ?_⟩
  rw [← String.toList_inj, String.toList_append, String.toList_ofList, ht]

theorem lt_of_append_lt_append {start s r : String} (h : start ++ s < start ++ r) : s < r := by
  have hcancel : ∀ p : List Char, List.Lex (· < ·) (p ++ s.toList) (p ++ r.toList) →
      List.Lex (· < ·) s.toList r.toList := by
    intro p hlex
    induction p with
    | nil => exact hlex
    | cons c p ih =>
      cases hlex with
      | rel hlt => exact absurd hlt Std.lt_irrefl
      | cons hlex => exact ih hlex
  have hlex : List.Lex (· < ·) (start ++ s).toList (start ++ r).toList := h
  rw [String.toList_append, String.toList_append] at hlex
  exact hcancel start.toList hlex

theorem eq_slash_of_lt {c : Char} (hlow : ¬ c < '/') (hhigh : c < '0') : c = '/' := by
  have hle : '/'.val.toNat ≤ c.val.toNat := Nat.le_of_not_lt hlow
  have hlt : c.val.toNat < '0'.val.toNat := hhigh
  have hval : c.val.toNat = '/'.val.toNat := Nat.le_antisymm (Nat.le_of_lt_succ hlt) hle
  exact Char.ext (UInt32.toNat_inj.1 hval)

theorem eq_append_slash_of_lex {p s : List Char} (hlow : ¬ List.Lex (· < ·) s (p ++ ['/']))
    (hhigh : List.Lex (· < ·) s (p ++ ['0'])) : ∃ t, s = p ++ '/' :: t := by
  induction p generalizing s with
  | nil =>
    cases s with
    | nil => exact absurd List.Lex.nil hlow
    | cons c s =>
      have hslash : ¬ c < '/' := fun hlt => hlow (.rel hlt)
      have hzero : c < '0' := by
        cases hhigh with
        | rel hlt => exact hlt
        | cons hlex => cases hlex
      exact ⟨s, by rw [eq_slash_of_lt hslash hzero]; rfl⟩
  | cons a p ih =>
    cases s with
    | nil => exact absurd List.Lex.nil hlow
    | cons b s =>
      have hba : ¬ b < a := fun hlt => hlow (.rel hlt)
      cases hhigh with
      | rel hlt => exact absurd hlt hba
      | cons hlex =>
        obtain ⟨t, rfl⟩ := ih (fun hlow' => hlow (.cons hlow')) hlex
        exact ⟨t, rfl⟩

/-- The digit zero is the character after the slash: what stands between a text with the one and
the same text with the other starts with the text and a slash. -/
theorem eq_append_slash_of_lt {p s : String} (hlow : p ++ "/" ≤ s) (hhigh : s < p ++ "0") :
    ∃ r, s = p ++ "/" ++ r := by
  have hlow' : ¬ List.Lex (· < ·) s.toList (p.toList ++ ['/']) := by
    intro hlex
    refine hlow (show List.Lex (· < ·) s.toList (p ++ "/").toList from ?_)
    rwa [String.toList_append]
  have hhigh' : List.Lex (· < ·) s.toList (p.toList ++ ['0']) := by
    have hlex : List.Lex (· < ·) s.toList (p ++ "0").toList := hhigh
    rwa [String.toList_append] at hlex
  obtain ⟨t, ht⟩ := eq_append_slash_of_lex hlow' hhigh'
  refine ⟨String.ofList t, ?_⟩
  rw [← String.toList_inj, ht]
  simp

theorem append_slash_lt (p r : String) : p ++ "/" ++ r < p ++ "0" := by
  have hlex : List.Lex (· < ·) ('/' :: r.toList) ['0'] := .rel (by decide)
  have hchars : List.Lex (· < ·) (p.toList ++ '/' :: r.toList) (p.toList ++ ['0']) := by
    induction p.toList with
    | nil => exact hlex
    | cons c l ih => exact .cons ih
  show List.Lex (· < ·) (p ++ "/" ++ r).toList (p ++ "0").toList
  simpa using hchars

/-! ## Bytes -/

section Bytes

variable {v w : Nat} {x y : List UInt8}

theorem cons_ofNat_lt {a b : Nat} (hb : b < 256) (h : a < b ∨ a = b ∧ x < y) :
    UInt8.ofNat a :: x < UInt8.ofNat b :: y := by
  rcases h with hlt | ⟨rfl, hlt⟩
  · refine List.Lex.rel ?_
    rw [UInt8.lt_iff_toNat_lt, UInt8.toNat_ofNat', UInt8.toNat_ofNat']
    omega
  · exact List.Lex.cons hlt

theorem lastByte_lt (h : v % 64 < w % 64) (x y : List UInt8) :
    UInt8.ofNat (v % 64 + 128) :: x < UInt8.ofNat (w % 64 + 128) :: y :=
  cons_ofNat_lt (by omega) (.inl (by omega))

theorem lastTwoBytes_lt (h : v % 4096 < w % 4096) (x y : List UInt8) :
    UInt8.ofNat (v / 64 % 64 + 128) :: UInt8.ofNat (v % 64 + 128) :: x <
      UInt8.ofNat (w / 64 % 64 + 128) :: UInt8.ofNat (w % 64 + 128) :: y := by
  apply cons_ofNat_lt (by omega)
  by_cases hlt : v / 64 % 64 < w / 64 % 64
  · exact .inl (by omega)
  · exact .inr ⟨by omega, lastByte_lt (by omega) x y⟩

theorem lastThreeBytes_lt (h : v % 262144 < w % 262144) (x y : List UInt8) :
    UInt8.ofNat (v / 4096 % 64 + 128) :: UInt8.ofNat (v / 64 % 64 + 128) ::
        UInt8.ofNat (v % 64 + 128) :: x <
      UInt8.ofNat (w / 4096 % 64 + 128) :: UInt8.ofNat (w / 64 % 64 + 128) ::
        UInt8.ofNat (w % 64 + 128) :: y := by
  apply cons_ofNat_lt (by omega)
  by_cases hlt : v / 4096 % 64 < w / 4096 % 64
  · exact .inl (by omega)
  · exact .inr ⟨by omega, lastTwoBytes_lt (by omega) x y⟩

/-- The bytes of the lower of two characters come first, whatever follows. -/
theorem utf8EncodeChar_append_lt {c d : Char} (h : c < d) (x y : List UInt8) :
    String.utf8EncodeChar c ++ x < String.utf8EncodeChar d ++ y := by
  have hlt : c.val.toNat < d.val.toNat := h
  have hd : d.val.toNat < 0x110000 := by
    rcases d.valid with hlow | ⟨-, hhigh⟩
    · exact Nat.lt_trans hlow (by decide)
    · exact hhigh
  simp only [String.utf8EncodeChar]
  generalize c.val.toNat = v at hlt
  generalize d.val.toNat = w at hlt hd
  -- more bytes start higher, and as many are compared from the first one on
  split
  · repeat' split
    all_goals exact cons_ofNat_lt (by omega) (.inl (by omega))
  split
  · split
    · omega
    split
    · apply cons_ofNat_lt (by omega)
      by_cases hquot : v / 64 < w / 64
      · exact .inl (by omega)
      · exact .inr ⟨by omega, lastByte_lt (by omega) x y⟩
    repeat' split
    all_goals exact cons_ofNat_lt (by omega) (.inl (by omega))
  split
  · split
    · omega
    split
    · omega
    split
    · apply cons_ofNat_lt (by omega)
      by_cases hquot : v / 4096 < w / 4096
      · exact .inl (by omega)
      · exact .inr ⟨by omega, lastTwoBytes_lt (by omega) x y⟩
    · exact cons_ofNat_lt (by omega) (.inl (by omega))
  · split
    · omega
    split
    · omega
    split
    · omega
    apply cons_ofNat_lt (by omega)
    by_cases hquot : v / 262144 < w / 262144
    · exact .inl (by omega)
    · exact .inr ⟨by omega, lastThreeBytes_lt (by omega) x y⟩

end Bytes

theorem bytes_lt_of_lt {s t : String} (h : s < t) : bytes s < bytes t := by
  have hlex : List.Lex (· < ·) s.toList t.toList := h
  rw [bytes, bytes]
  generalize s.toList = l at hlex
  generalize t.toList = l' at hlex
  induction hlex with
  | @nil d l =>
    rw [List.flatMap_nil, List.flatMap_cons]
    obtain ⟨b, bs, hd⟩ := List.exists_cons_of_ne_nil (String.utf8EncodeChar_ne_nil (c := d))
    rw [hd]
    exact List.Lex.nil
  | @cons c l l' _ ih =>
    rw [List.flatMap_cons, List.flatMap_cons]
    exact List.append_left_lt ih
  | @rel c l d l' hlt =>
    rw [List.flatMap_cons, List.flatMap_cons]
    exact utf8EncodeChar_append_lt hlt _ _

theorem bytes_lt_bytes_iff {s t : String} : bytes s < bytes t ↔ s < t := by
  refine ⟨fun h => ?_, bytes_lt_of_lt⟩
  by_contra hlt
  have hle : t ≤ s := String.not_lt.1 hlt
  by_cases heq : t = s
  · rw [heq] at h
    exact Std.lt_irrefl h
  · exact Std.lt_irrefl (Std.lt_trans h (bytes_lt_of_lt (Std.lt_of_le_of_ne hle heq)))

/-! ## ASCII characters in bytes -/

section Ascii

variable {a : Char} (ha : a.toNat < 0x80)

include ha

/-- No other character has the byte of an ASCII character among its bytes. -/
theorem count_utf8EncodeChar (c : Char) :
    (String.utf8EncodeChar c).count (UInt8.ofNat a.toNat) = if c = a then 1 else 0 := by
  have hval : c = a ↔ c.val.toNat = a.toNat := by
    rw [← Char.toNat_inj]
    rfl
  have hd : c.val.toNat < 0x110000 := by
    rcases c.valid with hlow | ⟨-, hhigh⟩
    · exact Nat.lt_trans hlow (by decide)
    · exact hhigh
  have hbyte : ∀ {n : Nat}, n < 256 → (UInt8.ofNat a.toNat = UInt8.ofNat n ↔ n = a.toNat) := by
    intro n hn
    rw [← UInt8.toNat_inj, UInt8.toNat_ofNat', UInt8.toNat_ofNat', Nat.mod_eq_of_lt hn,
      Nat.mod_eq_of_lt (by omega), eq_comm]
  have hhigh : ∀ {n : Nat}, 0x80 ≤ n → n < 256 → UInt8.ofNat a.toNat ≠ UInt8.ofNat n :=
    fun hle hlt => mt (hbyte hlt).1 (by omega)
  simp only [String.utf8EncodeChar, hval]
  generalize c.val.toNat = v at hd
  split
  · simp only [List.count_singleton, beq_iff_eq, eq_comm (b := UInt8.ofNat a.toNat),
      hbyte (show v < 256 by omega)]
  have hne : v ≠ a.toNat := by omega
  rw [if_neg hne, List.count_eq_zero]
  split
  · simp only [List.mem_cons, List.not_mem_nil, or_false, not_or]
    exact ⟨hhigh (by omega) (by omega), hhigh (by omega) (by omega)⟩
  split
  · simp only [List.mem_cons, List.not_mem_nil, or_false, not_or]
    exact ⟨hhigh (by omega) (by omega), hhigh (by omega) (by omega), hhigh (by omega) (by omega)⟩
  · simp only [List.mem_cons, List.not_mem_nil, or_false, not_or]
    exact ⟨hhigh (by omega) (by omega), hhigh (by omega) (by omega), hhigh (by omega) (by omega),
      hhigh (by omega) (by omega)⟩

/-- The bytes of a text have an ASCII character as often as the text has it. -/
theorem count_ascii_bytes (s : String) :
    (bytes s).count (UInt8.ofNat a.toNat) = s.toList.count a := by
  rw [bytes]
  induction s.toList with
  | nil => rfl
  | cons c l ih =>
    rw [List.flatMap_cons, List.count_append, ih, count_utf8EncodeChar ha, List.count_cons,
      Nat.add_comm]
    simp

end Ascii

end BlobDepot.Text
