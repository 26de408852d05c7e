import BlobDepot.Text.CombiningClass
import BlobDepot.Text.Composite

/-!
# Composed text

Texts that look alike may hold a composite or its parts, and marks in several orders. The composed
form of a text is one of them all: composites are taken apart, marks are put in the order of their
classes, and then characters take the marks that they form composites with.
-/
namespace BlobDepot.Text.Composed

/-- The characters that a character stands for, when composites are taken apart so many times. -/
def takeApart : Nat → Char → List Char
  | 0, c => [c]
  | n + 1, c =>
    match Composite.parts? c with
    | none => [c]
    | some (a, b) => takeApart n a ++ [b]

/-- How often composites are taken apart: the first part of one may be another, whose parts are
none. -/
def maxDepth : Nat := 2

/-- Puts a character in front of a text, behind the marks of lower classes there. -/
def insert (c : Char) : List Char → List Char
  | [] => [c]
  | d :: rest =>
    if CombiningClass.ofChar d ≠ 0 ∧ CombiningClass.ofChar d < CombiningClass.ofChar c then
      d :: insert c rest
    else c :: d :: rest

def inOrder (s : List Char) : List Char :=
  s.foldr insert []

/-- Goes on composing after a character and the marks that it did not take, the last one first. A
character takes one that comes next, or that comes after marks of lower classes. -/
def composeFrom (base : Char) (marks : List Char) : List Char → List Char
  | [] => base :: marks.reverse
  | c :: rest =>
    let isNear := match marks with
      | [] => true
      | mark :: _ => CombiningClass.ofChar mark < CombiningClass.ofChar c
    match if isNear then Composite.ofParts? base c else none with
    | some composite => composeFrom composite marks rest
    | none =>
      if CombiningClass.ofChar c = 0 then base :: marks.reverse ++ composeFrom c [] rest
      else composeFrom base (c :: marks) rest

def compose : List Char → List Char
  | [] => []
  | c :: rest => composeFrom c [] rest

def ofChars (s : List Char) : List Char :=
  compose (inOrder (s.flatMap (takeApart maxDepth)))

end BlobDepot.Text.Composed
