import BlobDepot.Text.Unprintable

/-!
# Quoted text

A text in double quotes for people to read: what would not show, or would end the quotes, is
written as an escape, and every other character stands for itself.
-/
namespace BlobDepot.Text.Quoted

def hex (n : Nat) : List Char :=
  Nat.toDigits 16 n

def escape (c : Char) : List Char :=
  match c with
  | '\x00' => ['\\', '0']
  | '\t' => ['\\', 't']
  | '\r' => ['\\', 'r']
  | '\n' => ['\\', 'n']
  | '\\' => ['\\', '\\']
  | '"' => ['\\', '"']
  | c =>
    if c.toNat < 0x20 || (0x7F ≤ c.toNat && Unprintable.covers c.toNat) then
      ['\\', 'u', '\x7b'] ++ hex c.toNat ++ ['\x7d']
    else
      [c]

def quote (s : String) : String :=
  String.ofList ('"' :: s.toList.flatMap escape ++ ['"'])

end BlobDepot.Text.Quoted
