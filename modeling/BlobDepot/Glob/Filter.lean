import BlobDepot.Glob.Pattern

/-!
# Filters

A filter lets a path through when some pattern to include matches it, or there is none, and no
pattern to exclude does. The patterns of a list are read in order, and then their expressions
are built: those with a fixed extension first, each by itself, then those for whole paths as one set
and those for last segments as another.
-/
namespace BlobDepot.Glob

structure Refusal where
  pattern : String
  reason : String
  deriving DecidableEq, Repr, Inhabited

def reasonAbout (text reason : String) : String :=
  "error parsing glob '" ++ text ++ "': " ++ reason

def readAll : List String → Except Refusal (List Pattern)
  | [] => .ok []
  | s :: rest => do
    match Pattern.ofString s with
    | .error e => throw ⟨s, reasonAbout s e.message⟩
    | .ok p => pure (p :: (← readAll rest))

def Pattern.isTooDeep (p : Pattern) : Bool :=
  maxDepth < depth p.tokens

def numbered (n : Nat) : String :=
  "error parsing pattern " ++ toString n

/-- What builds expressions and takes only so large a set of them. A set of none is not too large,
and one is too large if a part of it is. -/
structure Engine where
  isTooLarge : List Pattern → Bool := fun _ => false
  nothing : isTooLarge [] = false := by rfl
  part : ∀ {ps qs : List Pattern}, ps.Sublist qs → isTooLarge ps = true →
    isTooLarge qs = true := by simp

def tooLarge : String :=
  "error building NFA"

def lookedUp (way : Approach) (ps : List Pattern) : List Pattern :=
  ps.filter fun p => approach p.tokens = way

namespace Engine

def refusal (engine : Engine) (ps : List Pattern) : Option String :=
  match ps.findIdx? Pattern.isTooDeep with
  | some n => some (numbered n)
  | none => if engine.isTooLarge ps then some tooLarge else none

/-- Why the expressions of some patterns cannot be built. -/
def obstacle (engine : Engine) (ps : List Pattern) : Option String :=
  let first := (lookedUp .extensionFirst ps).findSome? fun p =>
    (engine.refusal [p]).map (reasonAbout (text p.tokens))
  first.or ((engine.refusal (lookedUp .expression ps)).or
    (engine.refusal (lookedUp .nameExpression ps)))

end Engine

def compile (engine : Engine) (texts : List String) : Except Refusal (List Pattern) := do
  let ps ← readAll texts
  match engine.obstacle ps with
  | some reason => throw ⟨", ".intercalate texts, reason⟩
  | none => pure ps

structure Filter where
  kept : List Pattern
  dropped : List Pattern

namespace Filter

/-- Builds a filter; what is to include comes first. -/
def ofPatterns (engine : Engine) (includes excludes : List String) : Except Refusal Filter := do
  let kept ← compile engine includes
  let dropped ← compile engine excludes
  pure ⟨kept, dropped⟩

def lets (f : Filter) (path : String) : Bool :=
  (f.kept.isEmpty || f.kept.any fun p => p.matchesPath path)
    && !f.dropped.any fun p => p.matchesPath path

end Filter
end BlobDepot.Glob
