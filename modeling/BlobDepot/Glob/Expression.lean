import BlobDepot.Glob.Token
import BlobDepot.Text.Basic

/-!
# Globs as regular expressions

A pattern has a regular expression over bytes. Expressions may be nested to a limit only, which
counts what each token brings: its group, the alternatives in it, a sequence, a repetition.
-/
namespace BlobDepot.Glob

def maxDepth : Nat := 250

/-! ## Depth -/

/-- How many items a character is in an expression: one for each byte. -/
def charItems (c : Char) : Nat :=
  (String.utf8EncodeChar c).length

def rangeItems (range : Char × Char) : Nat :=
  if range.1 = range.2 then charItems range.1
  else charItems range.1 + charItems range.2 - 1

def Token.items : Token → Nat
  | .literal c => charItems c
  | .trailing => 2
  | .choice branches => if areBlank branches then 0 else 1
  | _ => 1

def items (ts : List Token) : Nat :=
  ts.foldr (fun t n => t.items + n) 0

/-- Counts a level around more than one item. -/
def wrap (n depth : Nat) : Nat :=
  if 2 ≤ n then depth + 1 else depth

mutual

def Token.depth : Token → Nat
  | .literal _ => 0
  | .one => 1
  | .run => 2
  | .leading => 4
  | .trailing => 1
  | .between => 4
  | .oneOf _ ranges => wrap (ranges.foldr (fun range n => rangeItems range + n) 0) 1
  | .choice branches =>
    if areBlank branches then 0 else 1 + wrap (liveCount branches) (deepest branches)

def depthWithin : List Token → Nat
  | [] => 0
  | t :: ts => max t.depth (depthWithin ts)

def deepest : List (List Token) → Nat
  | [] => 0
  | ts :: rest => max (wrap (items ts) (depthWithin ts)) (deepest rest)

def liveCount : List (List Token) → Nat
  | [] => 0
  | ts :: rest => (if isBlank ts then 0 else 1) + liveCount rest

end

def depth (ts : List Token) : Nat :=
  1 + depthWithin ts

/-! ## Text -/

def byteText (b : UInt8) : List Char :=
  let c := Char.ofNat b.toNat
  if 0x80 ≤ b then '\\' :: 'x' :: Text.hexByte false b
  else if "\\.+*?()|[]\x7b\x7d^$#&-~".toList.contains c then ['\\', c]
  else [c]

def charText (c : Char) : List Char :=
  (String.utf8EncodeChar c).flatMap byteText

def rangeText (range : Char × Char) : List Char :=
  if range.1 = range.2 then charText range.1
  else charText range.1 ++ '-' :: charText range.2

mutual

def Token.text : Token → List Char
  | .literal c => charText c
  | .one => "[^/]".toList
  | .run => "[^/]*".toList
  | .leading => "(?:/?|.*/)".toList
  | .trailing => "/.*".toList
  | .between => "(?:/|/.*/)".toList
  | .oneOf negated ranges =>
    '[' :: (if negated then ['^'] else []) ++ ranges.flatMap rangeText ++ [']']
  | .choice branches =>
    if areBlank branches then []
    else "(?:".toList ++ ['|'].intercalate (liveTexts branches) ++ [')']

def textWithin : List Token → List Char
  | [] => []
  | t :: ts => t.text ++ textWithin ts

def liveTexts : List (List Token) → List (List Char)
  | [] => []
  | ts :: rest => if isBlank ts then liveTexts rest else textWithin ts :: liveTexts rest

end

/-- The expression of a pattern: a leading token by itself stands for everything. -/
def text (ts : List Token) : String :=
  let inner :=
    match ts with
    | [.leading] => ".*".toList
    | ts => textWithin ts
  String.ofList ("(?-u)^".toList ++ inner ++ ['$'])

end BlobDepot.Glob
