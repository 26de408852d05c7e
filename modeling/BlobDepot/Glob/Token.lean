/-!
# Glob tokens

A glob pattern is a sequence of tokens. A token stands for bytes of a path; only the tokens that
are written with two stars, a literal slash and a class can stand for a slash.
-/
namespace BlobDepot.Glob

inductive Token where
  /-- A character that stands for itself. -/
  | literal (c : Char)
  /-- Any one byte but a slash. -/
  | one
  /-- Any bytes but slashes. -/
  | run
  /-- Nothing, or whatever ends in a slash. -/
  | leading
  /-- A slash and whatever follows it. -/
  | trailing
  /-- A slash, or whatever starts with a slash and ends with another. -/
  | between
  /-- One byte of some ranges, or one of none of them. -/
  | oneOf (negated : Bool) (ranges : List (Char × Char))
  /-- What one of some sequences stands for. -/
  | choice (branches : List (List Token))
  deriving Repr, Inhabited

mutual

def Token.isBlank : Token → Bool
  | .choice branches => areBlank branches
  | _ => false

def isBlank : List Token → Bool
  | [] => true
  | t :: ts => t.isBlank && isBlank ts

def areBlank : List (List Token) → Bool
  | [] => true
  | ts :: rest => isBlank ts && areBlank rest

end

def Token.char? : Token → Option Char
  | .literal c => some c
  | _ => none

def literals? (ts : List Token) : Option (List Char) :=
  ts.mapM Token.char?

end BlobDepot.Glob
