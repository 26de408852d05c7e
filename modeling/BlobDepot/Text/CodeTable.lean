import BlobDepot.Text.Basic

/-!
# Tables of code points

A property of characters is a table: a row for each range of code points, and what the row says of
it. A table is written as text. Blanks stand between its rows, and a row holds hexadecimal numbers:
one code point or two with a dash between them, and perhaps a colon and values with dots between
them.
-/
namespace BlobDepot.Text

/-- An inclusive range of code points and what is said of it. -/
structure CodeRow where
  low : Nat
  high : Nat
  values : List Nat := []
  deriving DecidableEq, Repr, Inhabited

namespace CodeRow

def span? (s : List Char) : Option (Nat × Nat) :=
  match split (· = '-') s with
  | [code] => do
    let n ← numeral? 16 code
    pure (n, n)
  | [low, high] => do pure (← numeral? 16 low, ← numeral? 16 high)
  | _ => none

def ofWord? (s : List Char) : Option CodeRow :=
  match split (· = ':') s with
  | [codes] => do
    let (low, high) ← span? codes
    pure { low, high }
  | [codes, values] => do
    let (low, high) ← span? codes
    pure { low, high, values := ← (split (· = '.') values).mapM (numeral? 16) }
  | _ => none

def covers (r : CodeRow) (code : Nat) : Bool :=
  r.low ≤ code && code ≤ r.high

end CodeRow

abbrev CodeTable := List CodeRow

namespace CodeTable

def ofText (s : String) : CodeTable :=
  (split (fun c => c = ' ' || c = '\n') s.toList).filterMap CodeRow.ofWord?

def row? (t : CodeTable) (code : Nat) : Option CodeRow :=
  t.find? fun r => r.covers code

def covers (t : CodeTable) (code : Nat) : Bool :=
  t.any fun r => r.covers code

end CodeTable
end BlobDepot.Text
