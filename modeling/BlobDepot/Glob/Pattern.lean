import BlobDepot.Glob.Expression
import BlobDepot.Glob.Match
import BlobDepot.Glob.Reader
import BlobDepot.Path

/-!
# Glob patterns

A pattern is looked up in the way its tokens allow. Some patterns are decided by the last segment
of a path, or by the extension it ends in: those never match a path that ends in a step up, which
has no name. All other patterns are decided by the path alone.
-/
namespace BlobDepot.Glob

structure Pattern where
  written : String
  tokens : List Token
  deriving Repr, Inhabited

inductive Approach where
  /-- By the last segment, which is fixed. -/
  | name
  /-- By the whole path, which is fixed. -/
  | wholePath
  /-- By the extension. -/
  | extension
  /-- By what the path starts with, or by what it ends with. -/
  | part
  /-- By the extension first and then by the expression. -/
  | extensionFirst
  /-- By an expression for the last segment. -/
  | nameExpression
  /-- By the expression. -/
  | expression
  deriving DecidableEq, Repr

def isNameText (ts : List Token) : Bool :=
  match literals? ts with
  | some (c :: cs) => !(c :: cs).contains '/'
  | _ => false

/-- Whether tokens are stars, a dot and a literal without a slash or a further dot. -/
def isExtensionText : List Token → Bool
  | .run :: .literal '.' :: ts =>
    match literals? ts with
    | some cs => !cs.contains '.' && !cs.contains '/'
    | none => false
  | _ => false

/-- Whether a literal at the end, given from its last token on, holds a dot after its last
slash. -/
def endsInExtension : List Token → Bool
  | .literal c :: ts => if c = '/' then false else if c = '.' then true else endsInExtension ts
  | _ => false

/-- Whether tokens are literals up to a last token that takes the rest of the path. -/
def isOpenEnded (ts : List Token) : Bool :=
  match ts.reverse with
  | .trailing :: before => (literals? before).isSome
  | _ => false

def staysInName : Token → Bool
  | .literal c => c ≠ '/'
  | .one | .run => true
  | .oneOf negated ranges => !inClass negated ranges slash
  | _ => false

def approach (ts : List Token) : Approach :=
  let afterLeading := match ts with
    | .leading :: rest => some rest
    | _ => none
  if afterLeading.any isNameText then .name
  else if ts ≠ [] && (literals? ts).isSome then .wholePath
  else if afterLeading.any isExtensionText then .extension
  else if isOpenEnded ts then .part
  else if afterLeading.any fun rest => rest ≠ [] && (literals? rest).isSome then .part
  else if endsInExtension ts.reverse then .extensionFirst
  else if afterLeading.any fun rest => rest ≠ [] && rest.all staysInName then .nameExpression
  else .expression

def Approach.needsName : Approach → Bool
  | name | extension | extensionFirst => true
  | wholePath | part | nameExpression | expression => false

namespace Pattern

def ofString (s : String) : Except GlobError Pattern :=
  (parse s).map fun tokens => ⟨s, tokens⟩

def matchesPath (p : Pattern) (path : String) : Bool :=
  match p.tokens with
  | [.leading] => true
  | tokens =>
    if (approach tokens).needsName && Path.name path = ".." then false
    else accepts tokens (Text.bytes path)

end Pattern
end BlobDepot.Glob
