import BlobDepot.Text.Basic

/-!
# Percent encoding

A part of a URL writes the bytes it may not show as a percent sign and two upper-case digits.
Which ASCII characters those are depends on the part; other characters are always written so.
-/
namespace BlobDepot.Text.Percent

abbrev Encoded := Char → Bool

def control : Encoded := fun c =>
  c.toNat < 0x20 || c.toNat = 0x7F

def fragment : Encoded := fun c =>
  control c || " \"<>".toList.contains c || c.toNat = 0x60

/-- What the query of a URL with its own rules for hosts encodes, without its quote. -/
def query : Encoded := fun c =>
  control c || " \"#<>".toList.contains c

def webQuery : Encoded := fun c =>
  query c || c = '\''

def path : Encoded := fun c =>
  fragment c || "#?\x7b\x7d".toList.contains c

def userInfo : Encoded := fun c =>
  path c || "/:;=@[\\]^|".toList.contains c

def segment : Encoded := fun c =>
  path c || c = '/' || c = '%'

def fileSegment : Encoded := fun c =>
  segment c || c = '\\'

def encodeByte (b : UInt8) : List Char :=
  '%' :: hexByte true b

def encodeChar (set : Encoded) (c : Char) : List Char :=
  if c.toNat < 0x80 && !set c then [c] else (String.utf8EncodeChar c).flatMap encodeByte

def encode (set : Encoded) (s : List Char) : List Char :=
  s.flatMap (encodeChar set)

/-- The bytes a text stands for once its percent signs with two digits are read. -/
def decode : List Char → List UInt8
  | '%' :: a :: b :: rest =>
    match hexValue? a, hexValue? b with
    | some x, some y => UInt8.ofNat (16 * x + y) :: decode rest
    | _, _ => UInt8.ofNat '%'.toNat :: decode (a :: b :: rest)
  | c :: rest => String.utf8EncodeChar c ++ decode rest
  | [] => []

end BlobDepot.Text.Percent
