import BlobDepot.Proofs.Decoding
import BlobDepot.Proofs.Transfer.Lines

/-!
# Excerpts of bodies

A failure quotes the start of a body. Bytes are counted before they are decoded: a text keeps the
characters that are whole, while bytes that are no text may take three bytes each for the faults
they stand for.
-/
namespace BlobDepot

open Text (IsBoundary IsFitting encode)
open Text.Utf8 (isValid)

/-! ## Excerpts of texts -/

section Texts

variable {limit : Nat} {text : String}

theorem truncate_bytes_of_le (h : (Text.bytes text).length ≤ limit) :
    truncate (Text.bytes text) limit = text := by
  rw [truncate, if_neg (Nat.not_lt.2 h), List.take_of_length_le h, Text.Utf8.decode_bytes]

theorem truncate_bytes_of_lt (h : limit < (Text.bytes text).length) :
    ∃ kept, IsFitting text limit kept ∧
      (IsBoundary text limit → truncate (Text.bytes text) limit = kept ++ "...") ∧
      (¬ IsBoundary text limit →
        (Text.bytes kept).length < limit ∧
          truncate (Text.bytes text) limit = kept ++ "\uFFFD" ++ "...") := by
  obtain ⟨kept, hfitting, hwhole, hcut⟩ := Text.decode_take_bytes (Nat.le_of_lt h)
  refine ⟨kept, hfitting, fun hboundary => ?_, fun hboundary => ⟨(hcut hboundary).1, ?_⟩⟩
  · rw [truncate, if_pos h, hwhole hboundary]
  · rw [truncate, if_pos h, (hcut hboundary).2]

/-- However a body is cut into chunks, and whether or not the connection breaks after them, what is
shown is the excerpt of all that arrived. The excerpt of a text is the text if it fits, and else its
longest fitting start, one fault if the limit is within a character, and dots. -/
theorem Body.shown_exact (limit : Nat) :
    (∀ parts complete, (chunks parts complete).shown limit = truncate parts.flatten limit) ∧
      ∀ text, ((Text.bytes text).length ≤ limit → truncate (Text.bytes text) limit = text) ∧
        (limit < (Text.bytes text).length → ∃ kept, IsFitting text limit kept ∧
          (IsBoundary text limit → truncate (Text.bytes text) limit = kept ++ "...") ∧
          (¬ IsBoundary text limit →
            truncate (Text.bytes text) limit = kept ++ "\uFFFD" ++ "...")) := by
  refine ⟨fun parts complete => shown_eq_truncate limit (.chunks parts complete),
    fun text => ⟨truncate_bytes_of_le, fun h => ?_⟩⟩
  obtain ⟨kept, hfitting, hwhole, hcut⟩ := truncate_bytes_of_lt h
  exact ⟨kept, hfitting, hwhole, fun hboundary => (hcut hboundary).2⟩

/-- The limit and the borders of chunks are within the last character. -/
theorem Body.shown_exact_within_character :
    let parts := [[0x61, 0xE2], [], [0x82], [0xAC]]
    (chunks parts false).shown 3 = "a\uFFFD..." ∧ (chunks parts true).shown 4 = "a€" := by
  intro parts
  have hbytes : parts.flatten = Text.bytes "a€" := by decide
  have hfitting : IsFitting "a€" 3 "a" := by
    refine Text.isFitting_of_next ['a'] ['€'] (by decide) fun c hc => ?_
    obtain rfl := Option.some.inj hc
    decide
  obtain ⟨hchunks, htext⟩ := shown_exact 3
  obtain ⟨kept, hkept, -, hcut⟩ := (htext "a€").2 (by decide)
  obtain rfl := hkept.unique hfitting
  have hwithin : ¬ IsBoundary "a€" 3 := by
    rw [hfitting.isBoundary_iff]
    decide
  refine ⟨?_, ?_⟩
  · rw [hchunks, hbytes, hcut hwithin]
    rfl
  · rw [(shown_exact 4).1, hbytes, ((shown_exact 4).2 "a€").1 (by decide)]

end Texts

/-! ## The length of excerpts -/

section Lengths

variable {body : List UInt8} {limit : Nat}

theorem length_truncate (body : List UInt8) (limit : Nat) :
    (Text.bytes (truncate body limit)).length =
      (encode (Text.Utf8.decodeFrom none (body.take limit))).length +
        if limit < body.length then 3 else 0 := by
  have hdecode : Text.bytes (Text.Utf8.decode (body.take limit)) =
      encode (Text.Utf8.decodeFrom none (body.take limit)) := Text.bytes_ofList _
  simp only [truncate]
  split
  · rw [Text.bytes_append, List.length_append, hdecode]
    rfl
  · rw [hdecode, Nat.add_zero]

theorem length_truncate_le (body : List UInt8) (limit : Nat) :
    (Text.bytes (truncate body limit)).length ≤
      3 * min limit body.length + if limit < body.length then 3 else 0 := by
  have hdecode := Text.Utf8.length_decodeFrom_le none (body.take limit)
  rw [List.length_take] at hdecode
  rw [length_truncate]
  exact Nat.add_le_add_right hdecode _

theorem length_truncate_of_isValid (h : isValid (body.take limit) = true) :
    (Text.bytes (truncate body limit)).length =
      min limit body.length + if limit < body.length then 3 else 0 := by
  have hencode : encode (Text.Utf8.decodeFrom none (body.take limit)) = body.take limit :=
    of_decide_eq_true h
  rw [length_truncate, hencode, List.length_take]

theorem length_truncate_replicate (limit n : Nat) :
    (Text.bytes (truncate (List.replicate n 0xFF) limit)).length =
      3 * min limit n + if limit < n then 3 else 0 := by
  have hencode : ∀ m, (encode (List.replicate m Text.Utf8.replacement)).length = 3 * m := by
    intro m
    induction m with
    | zero => rfl
    | succ m ih =>
      rw [List.replicate_succ, Text.encode_cons, List.length_append, ih,
        String.length_utf8EncodeChar, Text.Utf8.utf8Size_replacement]
      omega
  rw [length_truncate, List.take_replicate, Text.Utf8.decodeFrom_replicate, hencode,
    List.length_replicate]

theorem length_truncate_bytes_le (text : String) (limit : Nat) :
    (Text.bytes (truncate (Text.bytes text) limit)).length ≤ limit + 5 := by
  by_cases h : (Text.bytes text).length ≤ limit
  · rw [truncate_bytes_of_le h]
    exact Nat.le_add_right_of_le h
  · obtain ⟨kept, hfitting, hwhole, hcut⟩ := truncate_bytes_of_lt (Nat.lt_of_not_le h)
    have hfits := hfitting.fits
    have hdots : (Text.bytes "...").length = 3 := rfl
    have hfault : (Text.bytes "\uFFFD").length = 3 := by decide
    by_cases hboundary : IsBoundary text limit
    · rw [hwhole hboundary, Text.bytes_append, List.length_append]
      omega
    · obtain ⟨hlt, heq⟩ := hcut hboundary
      rw [heq, Text.bytes_append, Text.bytes_append, List.length_append, List.length_append]
      omega

end Lengths

/-! ## Excerpts in failures -/

namespace Operation

variable {σ α : Type} {op : Operation σ α} {policy : Policy} {clock : Clock} {sink : Listener σ}
  {left number : Nat} {s t : Scene σ} {e : OperationError}

/-- If the failure of the attempt that begins in a scene has a status, either connecting or handing
the answer on failed with it, or it tells of the answer and its excerpt of the body is bounded. -/
def QuotesWithin (op : Operation σ α) (u : Scene σ) (e : OperationError) : Prop :=
  ∀ code reason text, e.failure = .status code reason text →
    (op.outcome u).1 = .failed e ∨ (op.outcome u).1 = .handled (.error e) ∨
      ∃ answer, (op.outcome u).1 = .refused answer ∧ e = op.refusal answer ∧
        (Text.bytes text).length ≤ 3075 ∧
        (isValid (answer.body.bytes.take 1024) = true → (Text.bytes text).length ≤ 1027)

theorem quotesWithin_refusal {answer : Response} (h : (op.outcome s).1 = .refused answer) :
    op.QuotesWithin s (op.refusal answer) := by
  rintro code reason text ⟨⟩
  have hlength := length_truncate_le answer.body.bytes 1024
  refine .inr (.inr ⟨answer, h, rfl, ?_, fun hvalid => ?_⟩)
  · rw [Body.shown_eq_truncate, shownBytes]
    split at hlength <;> omega
  · have hexact := length_truncate_of_isValid hvalid
    rw [Body.shown_eq_truncate, shownBytes]
    split at hexact <;> omega

theorem quotesWithin_attempt {limit : Span} (h : op.attempt limit s = (.error e, t)) :
    op.QuotesWithin s e := by
  have hresult : (op.attempt limit s).1 = .error e := congrArg Prod.fst h
  rcases op.attempt_cases limit s with hcase | hcase | hcase
  · obtain rfl := Except.error.inj (hcase.symm.trans hresult)
    exact fun _ _ _ hstatus => by cases hstatus
  · obtain rfl := Except.error.inj (hcase.symm.trans hresult)
    exact fun _ _ _ hstatus => by cases hstatus
  · rw [hcase] at hresult
    cases ho : (op.outcome s).1 with
    | handled result =>
      rw [ho] at hresult
      obtain rfl : result = .error e := hresult
      exact fun _ _ _ _ => .inr (.inl ho)
    | refused answer =>
      rw [ho] at hresult
      obtain rfl : op.refusal answer = e := by
        rw [refusal, Body.shown_eq_truncate, shownBytes]
        exact Except.error.inj hresult
      exact quotesWithin_refusal ho
    | failed e' =>
      rw [ho] at hresult
      obtain rfl := Except.error.inj hresult
      exact fun _ _ _ _ => .inl ho
    | panicked =>
      rw [ho] at hresult
      obtain rfl := Except.error.inj hresult
      exact fun _ _ _ hstatus => by cases hstatus
    | hung =>
      rw [ho] at hresult
      obtain rfl := Except.error.inj hresult
      exact fun _ _ _ hstatus => by cases hstatus

/-- What holds of attempts and their failures holds of the failure that rounds end with, unless they
were cancelled between two attempts, and of those that they tell the sink of. -/
theorem Rounds.forall_failures {P : Scene σ → OperationError → Prop} {tail : List Moment}
    {r : Report σ α} (h : op.Rounds policy clock sink left number s tail r)
    (hattempt : ∀ limit u t e, op.attempt limit u = (.error e, t) → P u e) :
    (∀ e, r.result = .error e → e = .cancelled op.description ∨
        ∃ k, k < r.connects ∧ P (op.sceneFrom policy clock sink number s k) e) ∧
      ∀ line ∈ r.lines, (∃ n, line = op.completion n) ∨
        ∃ e k, k < r.connects ∧ line = op.notice e ∧
          P (op.sceneFrom policy clock sink number s k) e := by
  induction h with
  | cancelled h => exact ⟨fun e he => .inl (Except.error.inj he).symm, nofun⟩
  | @completed left number s value t h ha =>
    exact ⟨nofun, fun line hline => .inl ⟨number, List.mem_singleton.1 hline⟩⟩
  | @stopped left number s e t event h ha hstop =>
    refine ⟨fun e' he => ?_, nofun⟩
    obtain rfl := Except.error.inj he
    exact .inr ⟨0, Nat.one_pos, hattempt _ s t e ha⟩
  | @retried left number s e t tail r h ha hgo next ih =>
    obtain ⟨hresult, rfl⟩ := attempt_of_transient ha (Policy.stopAfter_eq_none hgo).1
    rw [← sceneAfter_of_error sink hresult] at ih
    refine ⟨fun e' he => ?_, fun line hline => ?_⟩
    · refine (ih.1 e' he).imp_right ?_
      rintro ⟨k, hk, hP⟩
      exact ⟨k + 1, Nat.succ_lt_succ hk, hP⟩
    · rcases List.mem_cons.1 hline with rfl | hline
      · exact .inr ⟨e, 0, Nat.succ_pos _, rfl, hattempt _ s _ e ha⟩
      · refine (ih.2 line hline).imp_right ?_
        rintro ⟨e', k, hk, hnotice, hP⟩
        exact ⟨e', k + 1, Nat.succ_lt_succ hk, hnotice, hP⟩

/-- An excerpt takes three bytes at most for each byte that it is of, as faults do, and dots.
It takes no more than the bytes themselves if they are well-formed, and two more at most if only the
cut is at fault. So what any attempt makes of an answer quotes no more than 3075 bytes, or 1027 if
the first ones of the body are well-formed, and so does each failure that a run returns or tells its
sink of. -/
theorem excerpts_bounded (op : Operation σ α) (policy : Policy) (clock : Clock)
    (sink : Listener σ) (s : Scene σ) :
    (∀ body limit,
      let dots := if limit < body.length then 3 else 0
      (Text.bytes (truncate body limit)).length ≤ 3 * min limit body.length + dots ∧
        (isValid (body.take limit) = true →
          (Text.bytes (truncate body limit)).length = min limit body.length + dots)) ∧
    (∀ limit n, (Text.bytes (truncate (List.replicate n 0xFF) limit)).length =
      3 * min limit n + if limit < n then 3 else 0) ∧
    (∀ text limit, (Text.bytes (truncate (Text.bytes text) limit)).length ≤ limit + 5) ∧
    (∀ limit u t e, op.attempt limit u = (.error e, t) → op.QuotesWithin u e) ∧
    (∀ e, (op.run policy clock sink s).result = .error e → e = .cancelled op.description ∨
      ∃ k, k < (op.run policy clock sink s).connects ∧
        op.QuotesWithin (op.sceneAt policy clock sink s (k + 1)) e) ∧
    ∀ line ∈ (op.run policy clock sink s).lines, (∃ n, line = op.completion n) ∨
      ∃ e k, k < (op.run policy clock sink s).connects ∧ line = op.notice e ∧
        op.QuotesWithin (op.sceneAt policy clock sink s (k + 1)) e :=
  ⟨fun body limit => ⟨length_truncate_le body limit, length_truncate_of_isValid⟩,
    length_truncate_replicate, length_truncate_bytes_le, fun _ _ _ _ => quotesWithin_attempt,
    (op.rounds_timeline policy clock sink s).forall_failures
      fun _ _ _ _ => quotesWithin_attempt⟩

/-- A server that answers with bytes of no text, twice. -/
theorem excerpts_bounded_of_faults :
    let body := Body.chunks [List.replicate 1000 0xFF, List.replicate 25 0xFF] true
    let answer : Response := ⟨503, "Service Unavailable", body⟩
    let op := Script.operation "upload log.txt"
    let s : Scene Script := { world := Script.ofList [{ response := answer }] }
    let r := op.run { budget := 2 } {} {} s
    r.result = .error (op.refusal answer) ∧ r.lines = [op.notice (op.refusal answer)] ∧
      (Text.bytes (body.shown 1024)).length = 3075 ∧
      ∃ k < 2, op.QuotesWithin (op.sceneAt { budget := 2 } {} {} s (k + 1))
        (op.refusal answer) := by
  intro body answer op s r
  obtain ⟨-, hfaults, -, -, hfailure, -⟩ := excerpts_bounded op { budget := 2 } {} {} s
  have hresult : r.result = .error (op.refusal answer) := rfl
  have hbytes : body.bytes = List.replicate 1025 0xFF := by decide +kernel
  refine ⟨hresult, rfl, ?_, (hfailure _ hresult).resolve_left nofun⟩
  rw [Body.shown_eq_truncate, hbytes, hfaults]
  rfl

/-- A character that is cut takes three bytes where its first one took one; a body of faults is
quoted with more than 1027 bytes. -/
theorem not_excerpts_within_limit :
    (¬ ∀ body limit, (Text.bytes (truncate body limit)).length ≤ limit + 3) ∧
      let answer : Response := ⟨503, "Service Unavailable", .whole (List.replicate 1025 0xFF)⟩
      let op := Script.operation "upload log.txt"
      let r := op.run { budget := 1 } {} {} { world := Script.ofList [{ response := answer }] }
      ∃ text, r.result = .error ⟨"upload log.txt", .status 503 "Service Unavailable" text⟩ ∧
        1027 < (Text.bytes text).length := by
  have hcut : (Text.bytes (truncate [0xC3, 0xA9] 1)).length = 6 := by decide
  refine ⟨fun h => ?_, _, rfl, ?_⟩
  · have hle := h [0xC3, 0xA9] 1
    rw [hcut] at hle
    exact absurd hle (by decide)
  · change 1027 < (Text.bytes (truncate (List.replicate 1025 0xFF) 1024)).length
    rw [length_truncate_replicate]
    decide

end Operation
end BlobDepot
