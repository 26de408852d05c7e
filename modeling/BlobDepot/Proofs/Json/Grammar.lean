import BlobDepot.Json

/-!
# The grammar of JSON

A relation for each rule of the grammar holds between a value and the texts it may be written as. A
value may be written in many ways: with blanks around each token, with escapes in place of
characters, and with a character as two escapes, one for each half of its surrogate pair.
-/
namespace BlobDepot.Json

def IsBlanks (w : List Char) : Prop :=
  ∀ c ∈ w, c = ' ' ∨ c = '\n' ∨ c = '\t' ∨ c = '\r'

/-! ## Numbers -/

def IsDigits (w : List Char) : Prop :=
  w ≠ [] ∧ ∀ c ∈ w, c.isDigit = true

inductive IsWhole : List Char → Prop where
  | zero : IsWhole ['0']
  | digits {c : Char} {w : List Char} (hc : c ≠ '0') (h : IsDigits (c :: w)) : IsWhole (c :: w)

/-- The decimals of a number, which it need not have. -/
inductive IsDecimals : List Char → Prop where
  | absent : IsDecimals []
  | point {w : List Char} (h : IsDigits w) : IsDecimals ('.' :: w)

/-- The power of ten of a number, which it need not have. -/
inductive IsPower : List Char → Prop where
  | absent : IsPower []
  | plain {e : Char} {w : List Char} (he : e = 'e' ∨ e = 'E') (h : IsDigits w) : IsPower (e :: w)
  | signed {e sign : Char} {w : List Char} (he : e = 'e' ∨ e = 'E') (hs : sign = '+' ∨ sign = '-')
      (h : IsDigits w) : IsPower (e :: sign :: w)

inductive IsNumber : List Char → Prop where
  | plain {w d p : List Char} (hw : IsWhole w) (hd : IsDecimals d) (hp : IsPower p) :
      IsNumber (w ++ d ++ p)
  | negative {w d p : List Char} (hw : IsWhole w) (hd : IsDecimals d) (hp : IsPower p) :
      IsNumber ('-' :: (w ++ d ++ p))

/-! ## Texts -/

def IsHexDigit (n : Nat) (c : Char) : Prop :=
  "0123456789abcdef".toList[n]? = some c ∨ "0123456789ABCDEF".toList[n]? = some c

/-- What stands behind the backslash of a short escape, and the character it stands for. -/
def shortEscapes : List (Char × Char) :=
  [('"', '"'), ('\\', '\\'), ('/', '/'), ('b', '\x08'), ('f', '\x0c'), ('n', '\n'), ('r', '\r'),
    ('t', '\t')]

/-- A character of a text stands for itself, or is escaped, or is given by its code unit. -/
inductive SpellsPiece : Piece → List Char → Prop where
  | plain {c : Char} (hlow : 0x20 ≤ c.toNat) (hquote : c ≠ '"') (hback : c ≠ '\\') :
      SpellsPiece (.char c) [c]
  | short {e c : Char} (h : (e, c) ∈ shortEscapes) : SpellsPiece (.char c) ['\\', e]
  | unit {x y z t : Nat} {a b c d : Char} (ha : IsHexDigit x a) (hb : IsHexDigit y b)
      (hc : IsHexDigit z c) (hd : IsHexDigit t d) :
      SpellsPiece (.unit (x * 4096 + y * 256 + z * 16 + t)) ['\\', 'u', a, b, c, d]

inductive SpellsPieces : List Piece → List Char → Prop where
  | nil : SpellsPieces [] []
  | cons {p : Piece} {ps : List Piece} {w s : List Char} (h : SpellsPiece p w)
      (hs : SpellsPieces ps s) : SpellsPieces (p :: ps) (w ++ s)

/-- The characters that pieces stand for. Above the first 65536 it takes two code units. -/
inductive StandsFor : List Piece → List Char → Prop where
  | nil : StandsFor [] []
  | char {c : Char} {ps : List Piece} {cs : List Char} (h : StandsFor ps cs) :
      StandsFor (.char c :: ps) (c :: cs)
  | unit {c : Char} {ps : List Piece} {cs : List Char} (h : StandsFor ps cs) :
      StandsFor (.unit c.toNat :: ps) (c :: cs)
  | pair {high low : Nat} {c : Char} {ps : List Piece} {cs : List Char}
      (hhigh : 0xD800 ≤ high ∧ high < 0xDC00) (hlow : 0xDC00 ≤ low ∧ low < 0xE000)
      (hc : c.toNat = 0x10000 + (high - 0xD800) * 0x400 + (low - 0xDC00)) (h : StandsFor ps cs) :
      StandsFor (.unit high :: .unit low :: ps) (c :: cs)

inductive SpellsText : Option (List Char) → List Char → Prop where
  | chars {ps : List Piece} {cs w : List Char} (h : SpellsPieces ps w) (hc : StandsFor ps cs) :
      SpellsText (some cs) ('"' :: (w ++ ['"']))
  | unpaired {ps : List Piece} {w : List Char} (h : SpellsPieces ps w)
      (hc : ∀ cs, ¬ StandsFor ps cs) : SpellsText none ('"' :: (w ++ ['"']))

/-! ## Values -/

mutual

/-- What a value is written as, without blanks around it. -/
inductive Spells : Json → List Char → Prop where
  | null : Spells .null ['n', 'u', 'l', 'l']
  | isTrue : Spells (.bool true) ['t', 'r', 'u', 'e']
  | isFalse : Spells (.bool false) ['f', 'a', 'l', 's', 'e']
  | number {w : List Char} (h : IsNumber w) : Spells (.number w) w
  | text {chars : Option (List Char)} {w : List Char} (h : SpellsText chars w) :
      Spells (.text chars) w
  | noItems {w : List Char} (h : IsBlanks w) : Spells (.array []) ('[' :: (w ++ [']']))
  | items {vs : List Json} {w : List Char} (h : SpellsItems vs w) :
      Spells (.array vs) ('[' :: (w ++ [']']))
  | noFields {w : List Char} (h : IsBlanks w) : Spells (.object []) ('\x7b' :: (w ++ ['\x7d']))
  | fields {fs : List (Option (List Char) × Json)} {w : List Char} (h : SpellsFields fs w) :
      Spells (.object fs) ('\x7b' :: (w ++ ['\x7d']))

inductive IsText : Json → List Char → Prop where
  | between {v : Json} {a w b : List Char} (ha : IsBlanks a) (h : Spells v w) (hb : IsBlanks b) :
      IsText v (a ++ (w ++ b))

/-- One item or more, with commas between them. -/
inductive SpellsItems : List Json → List Char → Prop where
  | one {v : Json} {w : List Char} (h : IsText v w) : SpellsItems [v] w
  | cons {v : Json} {vs : List Json} {w s : List Char} (h : IsText v w) (hs : SpellsItems vs s) :
      SpellsItems (v :: vs) (w ++ ',' :: s)

inductive SpellsField : Option (List Char) → Json → List Char → Prop where
  | named {k : Option (List Char)} {v : Json} {a n b w : List Char} (ha : IsBlanks a)
      (hk : SpellsText k n) (hb : IsBlanks b) (h : IsText v w) :
      SpellsField k v (a ++ (n ++ (b ++ ':' :: w)))

/-- One field or more, with commas between them. -/
inductive SpellsFields : List (Option (List Char) × Json) → List Char → Prop where
  | one {k : Option (List Char)} {v : Json} {w : List Char} (h : SpellsField k v w) :
      SpellsFields [(k, v)] w
  | cons {k : Option (List Char)} {v : Json} {fs : List (Option (List Char) × Json)}
      {w s : List Char} (h : SpellsField k v w) (hs : SpellsFields fs s) :
      SpellsFields ((k, v) :: fs) (w ++ ',' :: s)

end

end BlobDepot.Json
