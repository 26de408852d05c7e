import BlobDepot.Text.Utf8
import Mathlib.Data.List.Basic

/-!
# Decoding of texts and of parts of them

What a text is encoded as is decoded to the text again. Bytes that stop within a character are one
fault, and no byte of any fault gives more than three bytes when what it became is encoded again.
-/
namespace BlobDepot.Text

def encode (cs : List Char) : List UInt8 :=
  cs.flatMap String.utf8EncodeChar

@[simp] theorem encode_nil : encode [] = [] := rfl

@[simp] theorem encode_cons (c : Char) (cs : List Char) :
    encode (c :: cs) = String.utf8EncodeChar c ++ encode cs :=
  List.flatMap_cons

@[simp] theorem encode_append (cs ds : List Char) : encode (cs ++ ds) = encode cs ++ encode ds :=
  List.flatMap_append

theorem bytes_ofList (cs : List Char) : bytes (String.ofList cs) = encode cs := by
  rw [bytes, String.toList_ofList, encode]

theorem bytes_append (s t : String) : bytes (s ++ t) = bytes s ++ bytes t := by
  rw [bytes, String.toList_append, List.flatMap_append]
  rfl

namespace Utf8

variable {n : Nat} {c : Char} {cs : List Char} {u : Unfinished} {b : UInt8}
  {bs rest : List UInt8}

/-! ## First bytes -/

theorem toNat_ofNat_of_lt (h : n < 256) : (UInt8.ofNat n).toNat = n := by
  rw [UInt8.toNat_ofNat', Nat.mod_eq_of_lt h]

theorem start_of_lt (h : b.toNat < 0x80) : start b = ([Char.ofNat b.toNat], none) :=
  if_pos (UInt8.lt_iff_toNat_lt.2 h)

theorem start_two (h : 2 ≤ n) (hn : n < 32) :
    start (UInt8.ofNat (n + 0xC0)) = ([], some ⟨1, 0x80, 0xBF, n⟩) := by
  have hb : (UInt8.ofNat (n + 0xC0)).toNat = n + 0xC0 := toNat_ofNat_of_lt (by omega)
  simp only [start, UInt8.lt_iff_toNat_lt, hb, UInt8.reduceToNat]
  rw [if_neg (by omega), if_neg (by omega), if_pos (by omega), Nat.add_sub_cancel]

/-- The second of three bytes neither repeats what two bytes hold nor makes a surrogate. -/
theorem start_three (hn : n < 16) :
    start (UInt8.ofNat (n + 0xE0)) =
      ([], some ⟨2, if n = 0 then 0xA0 else 0x80, if n = 13 then 0x9F else 0xBF, n⟩) := by
  have hb : (UInt8.ofNat (n + 0xE0)).toNat = n + 0xE0 := toNat_ofNat_of_lt (by omega)
  simp only [start, UInt8.lt_iff_toNat_lt, ← UInt8.toNat_inj, hb, UInt8.reduceToNat]
  rw [if_neg (by omega), if_neg (by omega), if_neg (by omega)]
  by_cases hzero : n = 0
  · rw [if_pos (by omega), hzero]
    rfl
  by_cases hgap : n = 13
  · rw [if_neg (by omega), if_pos (by omega), hgap]
    rfl
  · rw [if_neg (by omega), if_neg (by omega), if_pos (by omega), if_neg hzero, if_neg hgap,
      Nat.add_sub_cancel]

/-- The second of four bytes neither repeats what three bytes hold nor exceeds the last
character. -/
theorem start_four (hn : n < 5) :
    start (UInt8.ofNat (n + 0xF0)) =
      ([], some ⟨3, if n = 0 then 0x90 else 0x80, if n = 4 then 0x8F else 0xBF, n⟩) := by
  obtain rfl | rfl | rfl | rfl | rfl : n = 0 ∨ n = 1 ∨ n = 2 ∨ n = 3 ∨ n = 4 := by omega
  all_goals rfl

/-! ## Characters under way -/

/-- From a character under way these bytes lead to the end of the one with a number. -/
inductive Finishes : Unfinished → List UInt8 → Nat → Prop where
  | last {u : Unfinished} {b : UInt8} (hlow : u.low ≤ b) (hhigh : b ≤ u.high)
      (howed : u.owed = 1) : Finishes u [b] (u.bits * 64 + (b.toNat - 0x80))
  | next {u : Unfinished} {b : UInt8} {bs : List UInt8} {v : Nat} (hlow : u.low ≤ b)
      (hhigh : b ≤ u.high) (howed : 1 < u.owed)
      (h : Finishes ⟨u.owed - 1, 0x80, 0xBF, u.bits * 64 + (b.toNat - 0x80)⟩ bs v) :
      Finishes u (b :: bs) v

variable {v : Nat}

theorem Finishes.decodeFrom_append (h : Finishes u bs v) (rest : List UInt8) :
    decodeFrom (some u) (bs ++ rest) = Char.ofNat v :: decodeFrom none rest := by
  induction h with
  | last hlow hhigh howed =>
    simp only [List.cons_append, List.nil_append, decodeFrom, resume, if_pos (And.intro hlow hhigh),
      if_pos (Nat.le_of_eq howed)]
  | next hlow hhigh howed h ih =>
    simp only [List.cons_append, decodeFrom, resume, if_pos (And.intro hlow hhigh),
      if_neg (Nat.not_le.2 howed), List.nil_append]
    exact ih

/-- With some of these bytes missing the character is a fault. -/
theorem Finishes.decodeFrom_take (h : Finishes u bs v) (hn : n < bs.length) :
    decodeFrom (some u) (bs.take n) = [replacement] := by
  induction h generalizing n with
  | last hlow hhigh howed =>
    obtain rfl : n = 0 := Nat.lt_one_iff.1 hn
    rfl
  | next hlow hhigh howed h ih =>
    cases n with
    | zero => rfl
    | succ n =>
      simp only [List.take_succ_cons, decodeFrom, resume, if_pos (And.intro hlow hhigh),
        if_neg (Nat.not_le.2 howed), List.nil_append]
      exact ih (Nat.lt_of_succ_lt_succ hn)

/-! ## Characters -/

section Tails

variable {owed bits : Nat} {low high : UInt8} (hn : n < 64)

include hn

theorem toNat_tail : (UInt8.ofNat (n + 0x80)).toNat = n + 0x80 :=
  toNat_ofNat_of_lt (by omega)

theorem finishes_next (hlow : low.toNat ≤ n + 0x80) (hhigh : n + 0x80 ≤ high.toNat)
    (h : Finishes ⟨owed + 1, 0x80, 0xBF, bits * 64 + n⟩ bs v) :
    Finishes ⟨owed + 2, low, high, bits⟩ (.ofNat (n + 0x80) :: bs) v := by
  rw [← toNat_tail hn] at hlow hhigh
  refine .next (UInt8.le_iff_toNat_le.2 hlow) (UInt8.le_iff_toNat_le.2 hhigh)
    (Nat.succ_lt_succ owed.succ_pos) ?_
  rwa [toNat_tail hn, Nat.add_sub_cancel]

theorem tail_range : (0x80 : UInt8).toNat ≤ n + 0x80 ∧ n + 0x80 ≤ (0xBF : UInt8).toNat := by
  simp only [UInt8.reduceToNat]
  omega

theorem finishes_last (hv : bits * 64 + n = v) :
    Finishes ⟨1, 0x80, 0xBF, bits⟩ [.ofNat (n + 0x80)] v := by
  have hrange := tail_range hn
  rw [← toNat_tail hn] at hrange
  have h := Finishes.last (u := ⟨1, 0x80, 0xBF, bits⟩) (UInt8.le_iff_toNat_le.2 hrange.1)
    (UInt8.le_iff_toNat_le.2 hrange.2) rfl
  rwa [toNat_tail hn, Nat.add_sub_cancel, hv] at h

end Tails

/-- A character is encoded as one low byte, or as a byte that begins it and those that finish
it. -/
theorem encodeChar_cases (c : Char) :
    (∃ b : UInt8, b.toNat < 0x80 ∧ b.toNat = c.toNat ∧ String.utf8EncodeChar c = [b]) ∨
      ∃ b u bs, start b = ([], some u) ∧ Finishes u bs c.toNat ∧
        String.utf8EncodeChar c = b :: bs := by
  have hvalid : c.toNat < 0xD800 ∨ 0xDFFF < c.toNat ∧ c.toNat < 0x110000 := c.valid
  have hval : c.val.toNat = c.toNat := rfl
  simp only [String.utf8EncodeChar, hval]
  generalize c.toNat = v at hvalid
  split
  · have hb : (UInt8.ofNat v).toNat = v := toNat_ofNat_of_lt (by omega)
    exact .inl ⟨_, by omega, hb, rfl⟩
  split
  · have hlead : v / 64 % 32 = v / 64 := by omega
    have hnumber : v / 64 * 64 + v % 64 = v := by omega
    rw [hlead]
    exact .inr ⟨_, _, _, start_two (by omega) (by omega), finishes_last (by omega) hnumber, rfl⟩
  split
  · have hlead : v / 4096 % 16 = v / 4096 := by omega
    have hnumber : (v / 4096 * 64 + v / 64 % 64) * 64 + v % 64 = v := by omega
    have hlast := finishes_last (by omega) hnumber
    rw [hlead]
    refine .inr ⟨_, _, _, start_three (by omega), finishes_next (by omega) ?_ ?_ hlast, rfl⟩
    · split <;> simp only [UInt8.reduceToNat] <;> omega
    · split <;> simp only [UInt8.reduceToNat] <;> omega
  · have hlead : v / 262144 % 8 = v / 262144 := by omega
    have hnumber : ((v / 262144 * 64 + v / 4096 % 64) * 64 + v / 64 % 64) * 64 + v % 64 = v := by
      omega
    have hrange := tail_range (n := v / 64 % 64) (by omega)
    have hlast := finishes_next (by omega) hrange.1 hrange.2 (finishes_last (by omega) hnumber)
    rw [hlead]
    refine .inr ⟨_, _, _, start_four (by omega), finishes_next (by omega) ?_ ?_ hlast, rfl⟩
    · split <;> simp only [UInt8.reduceToNat] <;> omega
    · split <;> simp only [UInt8.reduceToNat] <;> omega

theorem decodeFrom_encodeChar (c : Char) (rest : List UInt8) :
    decodeFrom none (String.utf8EncodeChar c ++ rest) = c :: decodeFrom none rest := by
  rcases encodeChar_cases c with ⟨b, hb, hc, heq⟩ | ⟨b, u, bs, hstart, hfinish, heq⟩
  · rw [heq, List.singleton_append, decodeFrom, start_of_lt hb, hc, Char.ofNat_toNat]
    rfl
  · rw [heq, List.cons_append, decodeFrom, hstart, hfinish.decodeFrom_append, Char.ofNat_toNat]
    rfl

/-- A character that is cut off is one fault. -/
theorem decodeFrom_take_encodeChar (hpos : 0 < n)
    (hn : n < (String.utf8EncodeChar c).length) :
    decodeFrom none ((String.utf8EncodeChar c).take n) = [replacement] := by
  obtain ⟨k, rfl⟩ : ∃ k, n = k + 1 := ⟨n - 1, by omega⟩
  rcases encodeChar_cases c with ⟨b, -, -, heq⟩ | ⟨b, u, bs, hstart, hfinish, heq⟩
  · rw [heq, List.length_singleton] at hn
    omega
  · rw [heq, List.length_cons] at hn
    rw [heq, List.take_succ_cons, decodeFrom, hstart,
      hfinish.decodeFrom_take (Nat.lt_of_succ_lt_succ hn)]
    rfl

theorem decodeFrom_encode (cs : List Char) (rest : List UInt8) :
    decodeFrom none (encode cs ++ rest) = cs ++ decodeFrom none rest := by
  induction cs with
  | nil => rfl
  | cons c cs ih => rw [encode_cons, List.append_assoc, decodeFrom_encodeChar, ih]; rfl

theorem decodeFrom_none_encode (cs : List Char) : decodeFrom none (encode cs) = cs := by
  have hchars : decodeFrom none (encode cs ++ []) = cs ++ [] := decodeFrom_encode cs []
  rwa [List.append_nil, List.append_nil] at hchars

theorem decode_bytes (s : String) : decode (bytes s) = s := by
  have hchars : decodeFrom none (bytes s) = s.toList := decodeFrom_none_encode s.toList
  rw [decode, hchars, String.ofList_toList]

theorem encode_injective : Function.Injective encode :=
  Function.LeftInverse.injective decodeFrom_none_encode

/-! ## The length of what is decoded -/

/-- The bytes of the fault that a character under way may come to. -/
def pending : Option Unfinished → Nat
  | none => 0
  | some _ => 3

@[simp] theorem utf8Size_replacement : replacement.utf8Size = 3 := by decide

theorem utf8Size_ofNat_of_lt (h : n < 0x80) : (Char.ofNat n).utf8Size = 1 := by
  have hvalid : n.isValidChar := .inl (by omega)
  have hnat : (Char.ofNat n).val.toNat = n := by
    rw [Char.ofNat, dif_pos hvalid]
    rfl
  rw [Char.utf8Size_eq_one_iff, UInt32.le_iff_toNat_le, hnat]
  exact Nat.le_of_lt_succ h

theorem length_start_le (b : UInt8) :
    (encode (start b).1).length + pending (start b).2 ≤ 3 := by
  rw [start]
  split
  · rename_i h
    simp [utf8Size_ofNat_of_lt (UInt8.lt_iff_toNat_lt.1 h), pending]
  · repeat' split
    all_goals simp [pending]

theorem length_resume_le (u : Unfinished) (b : UInt8) :
    (encode (resume u b).1).length + pending (resume u b).2 ≤ 6 := by
  rw [resume]
  split
  · dsimp only
    split
    · have hsize := Char.utf8Size_le_four (Char.ofNat (u.bits * 64 + (b.toNat - 0x80)))
      simp only [encode_cons, encode_nil, List.append_nil, String.length_utf8EncodeChar, pending]
      omega
    · simp [pending]
  · have hstart := length_start_le b
    simp only [encode_cons, List.length_append, String.length_utf8EncodeChar,
      utf8Size_replacement]
    omega

/-- No byte adds more than three to what is decoded. -/
theorem length_decodeFrom_le (u : Option Unfinished) (bs : List UInt8) :
    (encode (decodeFrom u bs)).length ≤ 3 * bs.length + pending u := by
  -- what the bytes of an unfinished character may still cost is counted as pending
  induction bs generalizing u with
  | nil => cases u <;> simp [decodeFrom, pending]
  | cons b bs ih =>
    have hstep : ∀ step : Step, (encode (step.1 ++ decodeFrom step.2 bs)).length ≤
        3 * bs.length + ((encode step.1).length + pending step.2) := by
      intro step
      have hrest := ih step.2
      rw [encode_append, List.length_append]
      omega
    rw [List.length_cons]
    cases u with
    | none =>
      have hcost := length_start_le b
      refine Nat.le_trans (hstep (start b)) ?_
      rw [pending]
      omega
    | some u =>
      have hcost := length_resume_le u b
      refine Nat.le_trans (hstep (resume u b)) ?_
      rw [pending]
      omega

theorem decodeFrom_replicate (n : Nat) :
    decodeFrom none (List.replicate n 0xFF) = List.replicate n replacement := by
  induction n with
  | zero => rfl
  | succ n ih =>
    rw [List.replicate_succ, List.replicate_succ, decodeFrom, ← ih]
    rfl

end Utf8

/-! ## Texts that are cut off -/

section Cut

variable {limit : Nat} {cs : List Char} {text kept : String}

/-- The longest start of a text that takes no more than so many bytes. -/
structure IsFitting (text : String) (limit : Nat) (kept : String) : Prop where
  starts : startsWith kept text = true
  fits : (bytes kept).length ≤ limit
  longest (start : String) : startsWith start text = true → (bytes start).length ≤ limit →
    startsWith start kept = true

/-- A text can be cut after so many bytes without cutting a character. -/
def IsBoundary (text : String) (limit : Nat) : Prop :=
  ∃ start, startsWith start text = true ∧ (bytes start).length = limit

theorem startsWith_iff_toList {p s : String} :
    startsWith p s = true ↔ p.toList <+: s.toList := by
  rw [startsWith_iff]
  constructor
  · rintro ⟨r, rfl⟩
    exact ⟨r.toList, String.toList_append.symm⟩
  · rintro ⟨r, hr⟩
    refine ⟨String.ofList r, String.toList_inj.1 ?_⟩
    rw [String.toList_append, String.toList_ofList, hr]

theorem length_encode_le {p s : List Char} (h : p <+: s) :
    (encode p).length ≤ (encode s).length := by
  obtain ⟨r, rfl⟩ := h
  rw [encode_append, List.length_append]
  exact Nat.le_add_right _ _

theorem IsFitting.unique {other : String} (h : IsFitting text limit kept)
    (h' : IsFitting text limit other) : kept = other := by
  have hle := startsWith_iff_toList.1 (h'.longest kept h.starts h.fits)
  have hge := startsWith_iff_toList.1 (h.longest other h'.starts h'.fits)
  exact String.toList_inj.1 (hle.eq_of_length_le hge.length_le)

theorem IsFitting.isBoundary_iff (h : IsFitting text limit kept) :
    IsBoundary text limit ↔ (bytes kept).length = limit := by
  constructor
  · rintro ⟨start, hstart, hlength⟩
    have hstart := h.longest start hstart (Nat.le_of_eq hlength)
    have hle := length_encode_le (startsWith_iff_toList.1 hstart)
    exact Nat.le_antisymm h.fits (hlength ▸ hle)
  · exact fun hlength => ⟨kept, h.starts, hlength⟩

theorem exists_fitting (limit : Nat) (cs : List Char) :
    ∃ kept rest, cs = kept ++ rest ∧ (encode kept).length ≤ limit ∧
      ∀ c ∈ rest.head?, limit < (encode kept).length + (String.utf8EncodeChar c).length := by
  induction cs generalizing limit with
  | nil => exact ⟨[], [], rfl, Nat.zero_le _, nofun⟩
  | cons c cs ih =>
    by_cases hfits : (String.utf8EncodeChar c).length ≤ limit
    · obtain ⟨kept, rest, rfl, hkept, hnext⟩ := ih (limit - (String.utf8EncodeChar c).length)
      refine ⟨c :: kept, rest, rfl, ?_, fun d hd => ?_⟩
      · rw [encode_cons, List.length_append]
        exact Nat.add_le_of_le_sub' hfits hkept
      · have hd := hnext d hd
        rw [encode_cons, List.length_append]
        omega
    · refine ⟨[], c :: cs, rfl, Nat.zero_le _, fun d hd => ?_⟩
      obtain rfl := Option.some.inj hd
      exact Nat.lt_add_left _ (Nat.not_le.1 hfits)

/-- What fits is decoded, and what is cut off after it is one fault. -/
theorem decodeFrom_take_encode {kept rest : List Char} (hkept : (encode kept).length ≤ limit)
    (hnext : ∀ c ∈ rest.head?, limit < (encode kept).length + (String.utf8EncodeChar c).length)
    (hlimit : limit ≤ (encode (kept ++ rest)).length) :
    Utf8.decodeFrom none ((encode (kept ++ rest)).take limit) =
      if (encode kept).length = limit then kept else kept ++ [Utf8.replacement] := by
  have htake : (encode (kept ++ rest)).take limit =
      encode kept ++ (encode rest).take (limit - (encode kept).length) := by
    rw [encode_append, List.take_append, List.take_of_length_le hkept]
  rw [htake, Utf8.decodeFrom_encode]
  split
  · rename_i heq
    rw [heq, Nat.sub_self, List.take_zero, Utf8.decodeFrom, List.append_nil]
  · rename_i hne
    cases rest with
    | nil =>
      rw [List.append_nil] at hlimit
      exact absurd (Nat.le_antisymm hkept hlimit) hne
    | cons c rest =>
      have hlt := hnext c rfl
      have hcut : (encode (c :: rest)).take (limit - (encode kept).length) =
          (String.utf8EncodeChar c).take (limit - (encode kept).length) := by
        rw [encode_cons, List.take_append_of_le_length (by omega)]
      rw [hcut, Utf8.decodeFrom_take_encodeChar (by omega) (by omega)]

theorem isFitting_of_next (kept rest : List Char) (hkept : (encode kept).length ≤ limit)
    (hnext : ∀ c ∈ rest.head?, limit < (encode kept).length + (String.utf8EncodeChar c).length) :
    IsFitting (String.ofList (kept ++ rest)) limit (String.ofList kept) where
  starts := by
    rw [startsWith_iff_toList, String.toList_ofList, String.toList_ofList]
    exact List.prefix_append kept rest
  fits := by rwa [bytes_ofList]
  longest start hstart hfits := by
    rw [startsWith_iff_toList, String.toList_ofList] at hstart ⊢
    rcases List.prefix_or_prefix_of_prefix hstart (List.prefix_append kept rest) with h | h
    · exact h
    · -- a longer start would have the character that does not fit
      obtain ⟨more, hmore⟩ := h
      rw [← hmore, List.prefix_append_right_inj] at hstart
      cases more with
      | nil => exact ⟨[], by rw [← hmore, List.append_nil, List.append_nil]⟩
      | cons c more =>
        obtain ⟨after, hafter⟩ := hstart
        have hlt := hnext c (by rw [← hafter]; rfl)
        have hlength : (encode (kept ++ c :: more)).length ≤ limit := hmore ▸ hfits
        rw [encode_append, encode_cons, List.length_append, List.length_append] at hlength
        omega

/-- A text whose bytes are cut reads as the characters that are whole, with one fault after them if
the cut is within a character. -/
theorem decode_take_bytes {text : String} (h : limit ≤ (bytes text).length) :
    ∃ kept, IsFitting text limit kept ∧
      (IsBoundary text limit → Utf8.decode ((bytes text).take limit) = kept) ∧
      (¬ IsBoundary text limit →
        (bytes kept).length < limit ∧
          Utf8.decode ((bytes text).take limit) = kept ++ "\uFFFD") := by
  obtain ⟨kept, rest, htext, hkept, hnext⟩ := exists_fitting limit text.toList
  have hfitting := isFitting_of_next kept rest hkept hnext
  have hdecode := decodeFrom_take_encode hkept hnext (by rwa [← htext])
  rw [← htext, String.ofList_toList] at hfitting
  rw [← htext] at hdecode
  have hread : Utf8.decode ((bytes text).take limit) =
      String.ofList (Utf8.decodeFrom none ((encode text.toList).take limit)) := rfl
  rw [hread, hdecode, hfitting.isBoundary_iff, bytes_ofList]
  refine ⟨_, hfitting, fun heq => by rw [if_pos heq], fun hne => ⟨?_, ?_⟩⟩
  · rw [bytes_ofList]
    exact Nat.lt_of_le_of_ne hkept hne
  · rw [if_neg hne, String.ofList_append]
    rfl

end Cut

end BlobDepot.Text
