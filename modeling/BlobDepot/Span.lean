/-!
# Spans of time

A span is a number of nanoseconds. People read it in the largest of seconds, milliseconds,
microseconds and nanoseconds of which it holds at least one, with as many decimals as it needs.
-/
namespace BlobDepot

structure Span where
  nanos : Nat
  deriving DecidableEq, Repr, Inhabited

namespace Span

def ofMillis (ms : Nat) : Span :=
  ⟨ms * 1000000⟩

def millis (s : Span) : Nat :=
  s.nanos / 1000000

def seconds (s : Span) : Nat :=
  s.nanos / 1000000000

@[simp] theorem millis_ofMillis (ms : Nat) : (ofMillis ms).millis = ms := by
  simp [ofMillis, millis]

def min (a b : Span) : Span :=
  if a.nanos ≤ b.nanos then a else b

theorem min_eq (a b : Span) : a.min b = ⟨Min.min a.nanos b.nanos⟩ := by
  by_cases h : a.nanos ≤ b.nanos
  · rw [min, if_pos h, Nat.min_eq_left h]
  · rw [min, if_neg h, Nat.min_eq_right (Nat.le_of_not_le h)]

/-- What is left of a span after another, which may be nothing. -/
def less (a b : Span) : Span :=
  ⟨a.nanos - b.nanos⟩

@[simp] theorem nanos_less (a b : Span) : (a.less b).nanos = a.nanos - b.nanos := rfl

def decimals (width part : Nat) : List Char :=
  let digits := Nat.toDigits 10 part
  let padded := List.replicate (width - digits.length) '0' ++ digits
  (padded.reverse.dropWhile (· == '0')).reverse

/-- A count of a unit of `10 ^ width` nanoseconds. -/
def inUnit (width : Nat) (unit : String) (nanos : Nat) : String :=
  let whole := toString (nanos / Nat.pow 10 width)
  let part := nanos % Nat.pow 10 width
  if part = 0 then whole ++ unit
  else whole ++ "." ++ String.ofList (decimals width part) ++ unit

def render (s : Span) : String :=
  if 1000000000 ≤ s.nanos then inUnit 9 "s" s.nanos
  else if 1000000 ≤ s.nanos then inUnit 6 "ms" s.nanos
  else if 1000 ≤ s.nanos then inUnit 3 "µs" s.nanos
  else inUnit 0 "ns" s.nanos

end Span
end BlobDepot
