import BlobDepot.Text.Basic

/-!
# JSON text

A JSON value is a tree. `Json.parse` reads a text that holds one value between blanks and
`Json.render` writes a value without blanks. A number is kept as it was written, and a text
with an unpaired surrogate escape is one that has no characters.
-/
namespace BlobDepot

inductive Json where
  | null
  | bool (value : Bool)
  | number (written : List Char)
  | text (chars : Option (List Char))
  | array (items : List Json)
  | object (fields : List (Option (List Char) × Json))

namespace Json

/-! ## Writing -/

/-- A character inside a JSON text. -/
def escape (c : Char) : List Char :=
  match c with
  | '"' => ['\\', '"']
  | '\\' => ['\\', '\\']
  | '\n' => ['\\', 'n']
  | '\r' => ['\\', 'r']
  | '\t' => ['\\', 't']
  | c =>
    if c.toNat = 8 then ['\\', 'b']
    else if c.toNat = 12 then ['\\', 'f']
    else if c.toNat < 0x20 then
      ['\\', 'u', '0', '0'] ++ Text.hexByte false (UInt8.ofNat c.toNat)
    else [c]

/-- A text in quotes; one without characters is written as a lone surrogate. -/
def quote : Option (List Char) → List Char
  | some cs => '"' :: cs.flatMap escape ++ ['"']
  | none => "\"\\ud800\"".toList

mutual

/-- A value without blanks. -/
def write : Json → List Char
  | .null => "null".toList
  | .bool true => "true".toList
  | .bool false => "false".toList
  | .number written => written
  | .text chars => quote chars
  | .array items => '[' :: writeItems items
  | .object fields => '\x7b' :: writeFields fields

def writeItems : List Json → List Char
  | [] => [']']
  | [v] => write v ++ [']']
  | v :: w :: rest => write v ++ ',' :: writeItems (w :: rest)

def writeFields : List (Option (List Char) × Json) → List Char
  | [] => ['\x7d']
  | [(k, v)] => quote k ++ ':' :: write v ++ ['\x7d']
  | (k, v) :: w :: rest => quote k ++ ':' :: write v ++ ',' :: writeFields (w :: rest)

end

def render (v : Json) : String :=
  String.ofList v.write

/-! ## Reading -/

def isBlank (c : Char) : Bool :=
  c = ' ' || c = '\n' || c = '\t' || c = '\r'

def skipBlanks (s : List Char) : List Char :=
  s.dropWhile isBlank

/-- A piece of a JSON text: a character, or a code unit given by its number. -/
inductive Piece where
  | char (c : Char)
  | unit (code : Nat)
  deriving DecidableEq

def shortEscape? : Char → Option Char
  | '"' => some '"'
  | '\\' => some '\\'
  | '/' => some '/'
  | 'b' => some (Char.ofNat 8)
  | 'f' => some (Char.ofNat 12)
  | 'n' => some '\n'
  | 'r' => some '\r'
  | 't' => some '\t'
  | _ => none

def unit? (a b c d : Char) : Option Nat := do
  let a ← Text.hexValue? a
  let b ← Text.hexValue? b
  let c ← Text.hexValue? c
  let d ← Text.hexValue? d
  pure (((a * 16 + b) * 16 + c) * 16 + d)

def readPieces : List Char → Option (List Piece × List Char)
  | [] => none
  | '"' :: rest => some ([], rest)
  | '\\' :: 'u' :: a :: b :: c :: d :: rest => do
    let code ← unit? a b c d
    let (ps, rest) ← readPieces rest
    pure (.unit code :: ps, rest)
  | '\\' :: e :: rest => do
    let c ← shortEscape? e
    let (ps, rest) ← readPieces rest
    pure (.char c :: ps, rest)
  | c :: rest =>
    if c.toNat < 0x20 || c = '\\' then none
    else do
      let (ps, rest) ← readPieces rest
      pure (.char c :: ps, rest)

/-- The characters of the pieces, if every surrogate is in a pair. -/
def joinPieces : List Piece → Option (List Char)
  | [] => some []
  | .char c :: rest => (joinPieces rest).map (c :: ·)
  | .unit high :: .unit low :: rest =>
    if 0xD800 ≤ high ∧ high < 0xDC00 then
      if 0xDC00 ≤ low ∧ low < 0xE000 then
        (joinPieces rest).map
          (Char.ofNat (0x10000 + (high - 0xD800) * 0x400 + (low - 0xDC00)) :: ·)
      else none
    else if 0xDC00 ≤ high ∧ high < 0xE000 then none
    else (joinPieces (.unit low :: rest)).map (Char.ofNat high :: ·)
  | .unit code :: rest =>
    if 0xD800 ≤ code ∧ code < 0xE000 then none
    else (joinPieces rest).map (Char.ofNat code :: ·)

def readText (s : List Char) : Option (Option (List Char) × List Char) :=
  (readPieces s).map fun (ps, rest) => (joinPieces ps, rest)

def readDigits (s : List Char) : Option (List Char × List Char) :=
  match s.takeWhile Char.isDigit with
  | [] => none
  | ds => some (ds, s.dropWhile Char.isDigit)

/-- Reads the whole part of a number, which has no leading zero. -/
def readWhole : List Char → Option (List Char × List Char)
  | '0' :: rest => some (['0'], rest)
  | s => readDigits s

def readFraction : List Char → Option (List Char × List Char)
  | '.' :: rest => (readDigits rest).map fun (ds, rest) => ('.' :: ds, rest)
  | s => some ([], s)

def readExponent : List Char → Option (List Char × List Char)
  | [] => some ([], [])
  | e :: rest =>
    if e = 'e' ∨ e = 'E' then
      match rest with
      | [] => none
      | sign :: more =>
        if sign = '+' ∨ sign = '-' then
          (readDigits more).map fun (ds, rest) => (e :: sign :: ds, rest)
        else
          (readDigits rest).map fun (ds, rest) => (e :: ds, rest)
    else some ([], e :: rest)

def readUnsigned (s : List Char) : Option (List Char × List Char) := do
  let (whole, s) ← readWhole s
  let (decimals, s) ← readFraction s
  let (power, s) ← readExponent s
  pure (whole ++ decimals ++ power, s)

def readNumber : List Char → Option (List Char × List Char)
  | '-' :: rest => (readUnsigned rest).map fun (n, rest) => ('-' :: n, rest)
  | s => readUnsigned s

mutual

/-- Reads a value, nested at most as deep as the first argument. -/
def readValue : Nat → List Char → Option (Json × List Char)
  | 0, _ => none
  | depth + 1, s =>
    match skipBlanks s with
    | 'n' :: 'u' :: 'l' :: 'l' :: rest => some (.null, rest)
    | 't' :: 'r' :: 'u' :: 'e' :: rest => some (.bool true, rest)
    | 'f' :: 'a' :: 'l' :: 's' :: 'e' :: rest => some (.bool false, rest)
    | '"' :: rest => (readText rest).map fun (chars, rest) => (.text chars, rest)
    | '[' :: rest =>
      match skipBlanks rest with
      | ']' :: rest => some (.array [], rest)
      | rest => (readItems depth rest).map fun (items, rest) => (.array items, rest)
    | '\x7b' :: rest =>
      match skipBlanks rest with
      | '\x7d' :: rest => some (.object [], rest)
      | rest => (readFields depth rest).map fun (fields, rest) => (.object fields, rest)
    | rest => (readNumber rest).map fun (n, rest) => (.number n, rest)

def readItems : Nat → List Char → Option (List Json × List Char)
  | 0, _ => none
  | depth + 1, s => do
    let (v, s) ← readValue depth s
    match skipBlanks s with
    | ',' :: rest =>
      let (vs, rest) ← readItems depth rest
      pure (v :: vs, rest)
    | ']' :: rest => pure ([v], rest)
    | _ => none

def readFields : Nat → List Char → Option (List (Option (List Char) × Json) × List Char)
  | 0, _ => none
  | depth + 1, s =>
    match skipBlanks s with
    | '"' :: rest => do
      let (key, rest) ← readText rest
      match skipBlanks rest with
      | ':' :: rest =>
        let (v, rest) ← readValue depth rest
        match skipBlanks rest with
        | ',' :: rest =>
          let (fs, rest) ← readFields depth rest
          pure ((key, v) :: fs, rest)
        | '\x7d' :: rest => pure ([(key, v)], rest)
        | _ => none
      | _ => none
    | _ => none

end

/-- The value a text holds, if it holds exactly one. Every step down into a value reads a
character, so no value is deeper than its text is long. -/
def parse (s : String) : Option Json := do
  let (v, rest) ← readValue (s.toList.length + 1) s.toList
  if skipBlanks rest = [] then pure v else none

/-! ## Looking inside -/

def natural? : Json → Option Nat
  | .number written =>
    if written.all Char.isDigit then
      some (written.foldl (fun n c => 10 * n + (c.toNat - 48)) 0)
    else none
  | _ => none

def string? : Json → Option String
  | .text (some cs) => some (String.ofList cs)
  | _ => none

def ofNat (n : Nat) : Json :=
  .number (Nat.toDigits 10 n)

def ofString (s : String) : Json :=
  .text (some s.toList)

/-- The fields of an object under the known keys, or nothing if some key has no characters or a
known key is there twice. Other keys may repeat. -/
def record? (known : List String) (fields : List (Option (List Char) × Json)) :
    Option (List (String × Json)) := do
  let named ← fields.mapM fun (k, v) => k.map fun cs => (String.ofList cs, v)
  let kept := named.filter fun (k, _) => known.contains k
  if (kept.map Prod.fst).Nodup then pure kept else none

def lookup (key : String) (fields : List (String × Json)) : Option Json :=
  (fields.find? fun (k, _) => k = key).map Prod.snd

end Json
end BlobDepot
