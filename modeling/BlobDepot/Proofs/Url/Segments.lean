import BlobDepot.Proofs.Decoding
import BlobDepot.Proofs.Path
import BlobDepot.Url.Segments

/-!
# Segments that a URL shows

What is percent-encoded can be read again, so that encoding tells any two texts apart. A path that
is built from raw segments shows some of them: two lists of raw segments make one path if and only
if the same segments are left of them.
-/
namespace BlobDepot

/-! ## Percent encoding -/

namespace Text.Percent

variable {set : Encoded} {c x : Char} {s t : List Char}

theorem hexValue?_digit {n : Nat} (h : n < 16) :
    hexValue? (if n < 10 then Char.ofNat (48 + n) else Char.ofNat (55 + n)) = some n := by
  have hall : ∀ n < 16,
      hexValue? (if n < 10 then Char.ofNat (48 + n) else Char.ofNat (55 + n)) = some n := by decide
  exact hall n h

theorem decode_cons (h : c ≠ '%') (s : List Char) :
    decode (c :: s) = String.utf8EncodeChar c ++ decode s := by
  rw [decode]
  rintro a b rest rfl -
  exact h rfl

theorem decode_encodeByte (b : UInt8) (s : List Char) :
    decode (encodeByte b ++ s) = b :: decode s := by
  have hb : b.toNat < 256 := UInt8.toNat_lt b
  simp only [encodeByte, hexByte, List.cons_append, List.nil_append, decode, if_true,
    hexValue?_digit (show b.toNat / 16 < 16 by omega),
    hexValue?_digit (show b.toNat % 16 < 16 by omega)]
  rw [Nat.div_add_mod, UInt8.ofNat_toNat]

theorem decode_encodeBytes (bs : List UInt8) (s : List Char) :
    decode (bs.flatMap encodeByte ++ s) = bs ++ decode s := by
  induction bs with
  | nil => rfl
  | cons b bs ih =>
    rw [List.flatMap_cons, List.append_assoc, decode_encodeByte, ih, List.cons_append]

/-- A character that is not encoded is ASCII and stands for itself. -/
theorem encodeChar_cases (set : Encoded) (c : Char) :
    (c.toNat < 0x80 ∧ set c = false ∧ encodeChar set c = [c]) ∨
      encodeChar set c = (String.utf8EncodeChar c).flatMap encodeByte := by
  by_cases hplain : (c.toNat < 0x80 && !set c) = true
  · have hcases := hplain
    rw [Bool.and_eq_true, decide_eq_true_iff, Bool.not_eq_true'] at hcases
    exact .inl ⟨hcases.1, hcases.2, if_pos hplain⟩
  · exact .inr (if_neg hplain)

theorem decode_encode (hset : set '%' = true) (s : List Char) :
    decode (encode set s) = Text.encode s := by
  induction s with
  | nil => rfl
  | cons c s ih =>
    rw [encode, List.flatMap_cons, Text.encode_cons, ← ih]
    rcases encodeChar_cases set c with ⟨-, hc, hchar⟩ | hchar
    · have hne : c ≠ '%' := by
        rintro rfl
        rw [hset] at hc
        cases hc
      rw [hchar, List.singleton_append, decode_cons hne]
      rfl
    · rw [hchar, decode_encodeBytes]
      rfl

theorem encode_injective (hset : set '%' = true) : Function.Injective (encode set) := by
  intro s t h
  apply Utf8.encode_injective
  rw [← decode_encode hset, h, decode_encode hset]

theorem encode_segment_injective : Function.Injective (encode segment) :=
  encode_injective rfl

theorem slash_not_mem_encodeByte (b : UInt8) : '/' ∉ encodeByte b := by
  have hdigit : ∀ n < 16, '/' ≠ if n < 10 then Char.ofNat (48 + n) else Char.ofNat (55 + n) := by
    decide
  have hb : b.toNat < 256 := UInt8.toNat_lt b
  simp only [encodeByte, hexByte, List.mem_cons, List.not_mem_nil, or_false, not_or, if_true]
  exact ⟨by decide, hdigit _ (by omega), hdigit _ (by omega)⟩

theorem slash_not_mem_encode (hset : set '/' = true) (s : List Char) : '/' ∉ encode set s := by
  rw [encode, List.mem_flatMap]
  rintro ⟨c, -, hc⟩
  rcases encodeChar_cases set c with ⟨-, hplain, hchar⟩ | hchar
  · rw [hchar, List.mem_singleton] at hc
    rw [← hc, hset] at hplain
    cases hplain
  · rw [hchar, List.mem_flatMap] at hc
    obtain ⟨b, -, hb⟩ := hc
    exact slash_not_mem_encodeByte b hb

theorem encode_eq_cons_iff (hx : encodeChar set x = [x]) (hne : x ≠ '%') :
    encode set s = x :: t ↔ ∃ r, s = x :: r ∧ encode set r = t := by
  constructor
  · intro h
    cases s with
    | nil => cases h
    | cons c s =>
      rw [encode, List.flatMap_cons] at h
      rcases encodeChar_cases set c with ⟨-, -, hchar⟩ | hchar
      · rw [hchar, List.singleton_append] at h
        obtain ⟨rfl, rfl⟩ := List.cons.inj h
        exact ⟨s, rfl, rfl⟩
      · obtain ⟨b, bs, hb⟩ := List.exists_cons_of_ne_nil (String.utf8EncodeChar_ne_nil (c := c))
        rw [hchar, hb] at h
        exact absurd (List.cons.inj h).1.symm hne
  · rintro ⟨r, rfl, rfl⟩
    rw [encode, List.flatMap_cons, hx]
    rfl

theorem encodeChar_segment_of_isAlpha (h : c.isAlpha = true) :
    encodeChar segment c = [c] ∧ c ≠ '%' := by
  have hascii : c.toNat < 128 := by
    have hranges : (decide ('A'.val ≤ c.val ∧ c.val ≤ 'Z'.val) ||
        decide ('a'.val ≤ c.val) && decide (c.val ≤ 'z'.val)) = true := h
    simp only [Bool.or_eq_true, Bool.and_eq_true, decide_eq_true_eq,
      UInt32.le_iff_toNat_le] at hranges
    have hval : c.toNat = c.val.toNat := rfl
    have hupper : 'Z'.val.toNat = 90 := rfl
    have hlower : 'z'.val.toNat = 122 := rfl
    omega
  have hall : ∀ n < 128, (Char.ofNat n).isAlpha = true →
      encodeChar segment (Char.ofNat n) = [Char.ofNat n] ∧ Char.ofNat n ≠ '%' := by decide
  rw [← Char.ofNat_toNat c] at h ⊢
  exact hall _ hascii h

end Text.Percent

namespace Url.Segments

open Text.Percent (encode encodeChar encode_eq_cons_iff segment)

variable {s t : List Char} {ss ts : List (List Char)}

/-! ## Dots and drives in encoded segments -/

/-- A dot that is read for its encoding stands for the same byte. -/
theorem decode_plainDots (s : List Char) :
    Text.Percent.decode (plainDots s) = Text.Percent.decode s := by
  fun_induction plainDots s with
  | case1 e rest he ih =>
    have hdigit : Text.hexValue? e = some 14 := by
      rcases he with rfl | rfl <;> rfl
    have htwo : Text.hexValue? '2' = some 2 := rfl
    rw [Text.Percent.decode_cons (by decide), ih]
    simp only [Text.Percent.decode, htwo, hdigit]
    rfl
  | case2 => rfl
  | case3 rest ih =>
    rw [Text.Percent.decode_cons (by decide), Text.Percent.decode_cons (by decide), ih]
  | case4 => rfl

/-- What is encoded is only dots after dots are read if it was before. -/
theorem plainDots_encode_eq_iff (ht : plainDots (encode segment t) = t)
    (hplain : encode segment t = t) : plainDots (encode segment s) = t ↔ s = t := by
  constructor
  · intro h
    apply Text.Utf8.encode_injective
    calc Text.encode s
      _ = Text.Percent.decode (encode segment s) := (Text.Percent.decode_encode rfl s).symm
      _ = Text.Percent.decode (plainDots (encode segment s)) := (decode_plainDots _).symm
      _ = Text.Percent.decode (encode segment t) := by rw [h, hplain]
      _ = Text.encode t := Text.Percent.decode_encode rfl t
  · rintro rfl
    exact ht

theorem isAbove_encode (s : List Char) : isAbove (encode segment s) = decide (s = ['.', '.']) := by
  rw [isAbove, decide_eq_decide]
  exact plainDots_encode_eq_iff rfl rfl

theorem isHere_encode (s : List Char) : isHere (encode segment s) = decide (s = ['.']) := by
  rw [isHere, decide_eq_decide]
  exact plainDots_encode_eq_iff rfl rfl

theorem encode_eq_nil_iff : encode segment s = [] ↔ s = [] :=
  Text.Percent.encode_segment_injective.eq_iff (b := [])

theorem isDrive_iff : isDrive s = true ↔ ∃ c d rest, s = c :: d :: rest ∧
    isDriveLetter c d = true ∧ (rest = [] ∨ ∃ r, rest = '\\' :: r) := by
  constructor
  · intro h
    unfold isDrive at h
    split at h
    · exact ⟨_, _, [], rfl, h, .inl rfl⟩
    · exact ⟨_, _, _, rfl, h, .inr ⟨_, rfl⟩⟩
    · cases h
  · rintro ⟨c, d, rest, rfl, hletter, rfl | ⟨r, rfl⟩⟩
    · exact hletter
    · exact hletter

/-- The characters that name a drive are written as they are. -/
theorem encodeChar_of_isDriveLetter {c d : Char} (h : isDriveLetter c d = true) :
    (encodeChar segment c = [c] ∧ c ≠ '%') ∧ encodeChar segment d = [d] ∧ d ≠ '%' := by
  rw [isDriveLetter, Bool.and_eq_true, Bool.or_eq_true, decide_eq_true_iff, decide_eq_true_iff] at h
  refine ⟨Text.Percent.encodeChar_segment_of_isAlpha h.1, ?_⟩
  rcases h.2 with rfl | rfl <;> decide

theorem isDrive_encode (s : List Char) : isDrive (encode segment s) = isDrive s := by
  have hslash : encodeChar segment '\\' = ['\\'] ∧ '\\' ≠ '%' := by decide
  rw [Bool.eq_iff_iff, isDrive_iff, isDrive_iff]
  constructor
  · rintro ⟨c, d, rest, hs, hletter, hrest⟩
    obtain ⟨hc, hd⟩ := encodeChar_of_isDriveLetter hletter
    obtain ⟨s', rfl, hs'⟩ := (encode_eq_cons_iff hc.1 hc.2).1 hs
    obtain ⟨s'', rfl, hs''⟩ := (encode_eq_cons_iff hd.1 hd.2).1 hs'
    refine ⟨c, d, s'', rfl, hletter, ?_⟩
    rcases hrest with rfl | ⟨r, rfl⟩
    · exact .inl (encode_eq_nil_iff.1 hs'')
    · obtain ⟨r', rfl, -⟩ := (encode_eq_cons_iff hslash.1 hslash.2).1 hs''
      exact .inr ⟨r', rfl⟩
  · rintro ⟨c, d, rest, rfl, hletter, hrest⟩
    obtain ⟨hc, hd⟩ := encodeChar_of_isDriveLetter hletter
    have hrest' : encode segment rest = [] ∨ ∃ r, encode segment rest = '\\' :: r := by
      rcases hrest with rfl | ⟨r, rfl⟩
      · exact .inl rfl
      · exact .inr ⟨_, (encode_eq_cons_iff hslash.1 hslash.2).2 ⟨r, rfl, rfl⟩⟩
    have hd' : encode segment (d :: rest) = d :: encode segment rest :=
      (encode_eq_cons_iff hd.1 hd.2).2 ⟨rest, rfl, rfl⟩
    exact ⟨c, d, _, (encode_eq_cons_iff hc.1 hc.2).2 ⟨_, rfl, hd'⟩, hletter, hrest'⟩

/-! ## What is shown -/

/-- Adds what is shown of a segment to the segments before it, nearest first. -/
def put (before : List (List Char)) (s : List Char) : List (List Char) :=
  if s = ['.', '.'] then [] :: above before
  else if s = ['.'] then [] :: before
  else s :: before

/-- Adds what is shown of a raw segment at the end of those that are shown. -/
def place (shown : List (List Char)) (raw : List Char) : List (List Char) :=
  if raw = ['.'] ∨ raw = ['.', '.'] then shown
  else (put (if shown = [[]] then [] else shown).reverse (kept raw)).reverse

/-- The segments that are shown of raw ones. Plain dots are left out and tabs and line ends are
dropped; one dot that is left after that shows as an empty segment, and two show as one in place of
the segment before. An empty segment at the front gives way to the next. -/
def shown (raw : List (List Char)) : List (List Char) :=
  raw.foldl place [[]]

theorem above_map_encode (ss : List (List Char)) :
    above (ss.map (encode segment)) = (above ss).map (encode segment) := by
  cases ss with
  | nil => rfl
  | cons s before =>
    simp only [List.map_cons, above, isDrive_encode]
    split <;> rfl

theorem step_map_encode (before : List (List Char)) (s : List Char) :
    step (before.map (encode segment)) (encode segment s) false =
      (put before s).map (encode segment) := by
  by_cases habove : s = ['.', '.']
  · simp [step, put, isAbove_encode, habove, above_map_encode, encode_eq_nil_iff]
  · by_cases hhere : s = ['.']
    · simp [step, put, isAbove_encode, isHere_encode, hhere, encode_eq_nil_iff]
    · simp [step, put, isAbove_encode, isHere_encode, habove, hhere]

theorem push_map_encode (ss : List (List Char)) (raw : List Char) :
    push segment (ss.map (encode segment)) raw = (place ss raw).map (encode segment) := by
  by_cases hdots : raw = ['.'] ∨ raw = ['.', '.']
  · rw [push, if_pos hdots, place, if_pos hdots]
  · have hinj := List.map_injective_iff.2 Text.Percent.encode_segment_injective
    have hroot : ss.map (encode segment) = [[]] ↔ ss = [[]] := hinj.eq_iff (b := [[]])
    have hbase : (if ss.map (encode segment) = [[]] then [] else ss.map (encode segment)) =
        (if ss = [[]] then [] else ss).map (encode segment) := by
      simp only [hroot]
      split <;> rfl
    rw [push, if_neg hdots, place, if_neg hdots]
    simp only [hbase, ← List.map_reverse, step_map_encode]

theorem foldl_push_map_encode (raw ss : List (List Char)) :
    raw.foldl (push segment) (ss.map (encode segment)) =
      (raw.foldl place ss).map (encode segment) := by
  induction raw generalizing ss with
  | nil => rfl
  | cons s raw ih => rw [List.foldl_cons, List.foldl_cons, push_map_encode, ih]

theorem put_ne_nil (before : List (List Char)) (s : List Char) : put before s ≠ [] := by
  unfold put
  repeat' split
  all_goals simp

theorem place_ne_nil (h : ss ≠ []) (raw : List Char) : place ss raw ≠ [] := by
  unfold place
  split
  · exact h
  · simp [put_ne_nil]

theorem shown_ne_nil (raw : List (List Char)) : shown raw ≠ [] := by
  have hall : ∀ ss : List (List Char), ss ≠ [] → raw.foldl place ss ≠ [] := by
    induction raw with
    | nil => exact fun ss h => h
    | cons s raw ih => exact fun ss h => ih _ (place_ne_nil h s)
  exact hall [[]] (by simp)

theorem render_inj (hs : ss ≠ []) (ht : ts ≠ []) (hss : ∀ s ∈ ss, '/' ∉ s)
    (hts : ∀ t ∈ ts, '/' ∉ t) (h : render ss = render ts) : ss = ts := by
  have hjoin : ['/'].intercalate ss = ['/'].intercalate ts := (List.cons.inj h).2
  rw [← Path.segmentChars_intercalate hs hss, hjoin, Path.segmentChars_intercalate ht hts]

/-- A path tells what is shown, and nothing else, of the raw segments that it is built from. -/
theorem build_eq_iff (raw raw' : List (List Char)) :
    build segment raw = build segment raw' ↔ shown raw = shown raw' := by
  have hbuild : ∀ raw, build segment raw =
      String.ofList (render ((shown raw).map (encode segment))) :=
    fun raw => congrArg (String.ofList <| render ·) (foldl_push_map_encode raw [[]])
  have hslash : ∀ raw, ∀ s ∈ (shown raw).map (encode segment), '/' ∉ s := by
    intro raw s hs
    obtain ⟨t, -, rfl⟩ := List.mem_map.1 hs
    exact Text.Percent.slash_not_mem_encode rfl t
  have hne : ∀ raw, (shown raw).map (encode segment) ≠ [] :=
    fun raw => mt List.map_eq_nil_iff.1 (shown_ne_nil raw)
  constructor
  · intro h
    rw [hbuild, hbuild, String.ofList_inj] at h
    exact List.map_injective_iff.2 Text.Percent.encode_segment_injective
      (render_inj (hne raw) (hne raw') (hslash raw) (hslash raw') h)
  · intro h
    rw [hbuild, hbuild, h]

/-- A raw segment that is shown as it is: no plain dots, and nothing of it is dropped. -/
def IsPlain (s : List Char) : Prop :=
  s ≠ ['.'] ∧ s ≠ ['.', '.'] ∧ kept s = s

instance (s : List Char) : Decidable (IsPlain s) :=
  inferInstanceAs (Decidable (s ≠ ['.'] ∧ s ≠ ['.', '.'] ∧ kept s = s))

theorem place_of_isPlain (h : IsPlain s) (ss : List (List Char)) :
    place ss s = (if ss = [[]] then [] else ss) ++ [s] := by
  obtain ⟨hhere, habove, hkept⟩ := h
  rw [place, if_neg (not_or.2 ⟨hhere, habove⟩), hkept, put, if_neg habove, if_neg hhere,
    List.reverse_cons, List.reverse_reverse]

/-- Behind a segment with something in it plain ones are shown as they are. -/
theorem foldl_place_of_isPlain (hs : s ≠ []) (h : ∀ t ∈ ts, IsPlain t) (ss : List (List Char)) :
    ts.foldl place (s :: ss) = s :: ss ++ ts := by
  induction ts generalizing ss with
  | nil => exact (List.append_nil _).symm
  | cons t ts ih =>
    have hroot : s :: ss ≠ [[]] := fun heq => hs (List.cons.inj heq).1
    rw [List.foldl_cons, place_of_isPlain (h t List.mem_cons_self), if_neg hroot, List.cons_append,
      ih fun u hu => h u (List.mem_cons_of_mem _ hu)]
    simp

theorem shown_of_isPlain (hs : s ≠ []) (h : ∀ t ∈ s :: ss, IsPlain t) :
    shown (s :: ss) = s :: ss := by
  rw [shown, List.foldl_cons, place_of_isPlain (h s List.mem_cons_self), if_pos rfl]
  exact foldl_place_of_isPlain hs (fun t ht => h t (List.mem_cons_of_mem _ ht)) []

end Url.Segments
end BlobDepot
