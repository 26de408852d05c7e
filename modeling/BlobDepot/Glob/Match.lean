import BlobDepot.Glob.Token
import BlobDepot.Text.Basic

/-!
# Matching globs

Matching goes from the end of a pattern to its start. A table says of every tail of the path
whether what follows in the pattern accepts it, and a token turns the table for what follows it
into the table that counts it in. So a pattern takes one pass over the path for each token,
however many stars it has.
-/
namespace BlobDepot.Glob

/-- One entry for each tail of a text, that of the whole text first. -/
abbrev Table := List Bool

def slash : UInt8 := 0x2F

namespace Table

def atEnd : List UInt8 → Table
  | [] => [true]
  | _ :: s => false :: atEnd s

def byte (test : UInt8 → Bool) : List UInt8 → Table → Table
  | b :: s, _ :: k => (test b && k.headD false) :: byte test s k
  | _, _ => [false]

def run : List UInt8 → Table → Table
  | b :: s, k₀ :: k =>
    let rest := run s k
    (k₀ || (b ≠ slash && rest.headD false)) :: rest
  | _, k => k

def anything : Table → Table
  | k₀ :: k₁ :: k =>
    let rest := anything (k₁ :: k)
    (k₀ || rest.headD false) :: rest
  | k => k

/-- Accepts any bytes and a slash before what follows. -/
def pastSlash : List UInt8 → Table → Table
  | b :: s, _ :: k =>
    let rest := pastSlash s k
    ((b = slash && k.headD false) || rest.headD false) :: rest
  | _, _ => [false]

def or (a b : Table) : Table :=
  a.zipWith (· || ·) b

/-- Accepts nothing, or whatever ends in a slash, before what follows. -/
def leading (s : List UInt8) (k : Table) : Table :=
  k.or (pastSlash s k)

end Table

/-- Whether a byte is in a range. A character of more than one byte counts as its bytes, and in a
range only the last byte of the left end and the first byte of the right end bound it. -/
def inRange (b : UInt8) (range : Char × Char) : Bool :=
  let low := String.utf8EncodeChar range.1
  let high := String.utf8EncodeChar range.2
  if range.1 = range.2 then low.contains b
  else
    low.dropLast.contains b || high.tail.contains b
      || (low.getLast?.any (· ≤ b) && high.head?.any (b ≤ ·))

def inClass (negated : Bool) (ranges : List (Char × Char)) (b : UInt8) : Bool :=
  ranges.any (inRange b) != negated

mutual

def Token.before (s : List UInt8) : Token → Table → Table
  | .literal c, k => (String.utf8EncodeChar c).foldr (fun b k => k.byte (· = b) s) k
  | .one, k => .byte (· ≠ slash) s k
  | .run, k => .run s k
  | .leading, k => .leading s k
  | .trailing, k => .byte (· = slash) s k.anything
  | .between, k => .byte (· = slash) s (.leading s k)
  | .oneOf negated ranges, k => .byte (inClass negated ranges) s k
  | .choice branches, k => if areBlank branches then k else anyBefore s branches k

def allBefore (s : List UInt8) : List Token → Table → Table
  | [], k => k
  | t :: ts, k => t.before s (allBefore s ts k)

/-- The table that counts in one of some sequences. Blank ones are passed over. -/
def anyBefore (s : List UInt8) : List (List Token) → Table → Table
  | [], k => k.map fun _ => false
  | ts :: rest, k =>
    if isBlank ts then anyBefore s rest k
    else (allBefore s ts k).or (anyBefore s rest k)

end

/-- Whether a sequence of tokens stands for a text. -/
def accepts (ts : List Token) (s : List UInt8) : Bool :=
  (allBefore s ts (.atEnd s)).headD false

end BlobDepot.Glob
