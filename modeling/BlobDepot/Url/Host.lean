import BlobDepot.Text.Utf8
import BlobDepot.Url.Basic
import BlobDepot.Url.Domain

/-!
# Hosts

The host of a web URL is a domain in its ASCII form, four numbers, or eight groups in brackets.
Other URLs take almost any text for a host.
-/
namespace BlobDepot.Url.Host

/-! ## Four numbers -/

def ipv4Part? : List Char → Option Nat
  | [] => none
  | '0' :: x :: rest =>
    if x = 'x' ∨ x = 'X' then Text.numeral? 16 rest else Text.numeral? 8 (x :: rest)
  | s => Text.numeral? 10 s

/-- The parts of a host between dots, without an empty one at the end. -/
def dottedParts (s : List Char) : List (List Char) :=
  let parts := Text.split (· = '.') s
  if parts.getLast? = some [] ∧ 1 < parts.length then parts.dropLast else parts

/-- Whether a host can only be meant as numbers. -/
def endsInNumber (s : List Char) : Bool :=
  match (dottedParts s).getLast? with
  | none | some [] => false
  | some p => p.all Char.isDigit || (p.head? = some '0' && (ipv4Part? p).isSome)

/-- The number a host of up to four parts stands for. -/
def ipv4Value? (parts : List Nat) : Option Nat :=
  match parts.getLast? with
  | none => none
  | some last =>
    if 4 < parts.length || parts.dropLast.any (255 < ·) || Nat.pow 256 (5 - parts.length) ≤ last
    then none
    else
      some (parts.dropLast.zipIdx.foldr (fun (n, i) sum => n * Nat.pow 256 (3 - i) + sum) last)

def ipv4? (s : List Char) : Option String := do
  let parts ← (dottedParts s).mapM ipv4Part?
  let n ← ipv4Value? parts
  pure (".".intercalate
    ([n / 16777216, n / 65536 % 256, n / 256 % 256, n % 256].map toString))

/-! ## Eight groups -/

def group? (s : List Char) : Option Nat :=
  if s = [] ∨ 4 < s.length then none else Text.numeral? 16 s

def byte? (s : List Char) : Option Nat :=
  if s = [] ∨ 3 < s.length ∨ (s.head? = some '0' ∧ s.length ≠ 1) then none
  else (Text.numeral? 10 s).filter (· ≤ 255)

/-- The groups between colons; the last may be four numbers that make two groups. -/
def groups? : List (List Char) → Option (List Nat)
  | [] => some []
  | [s] =>
    if s.contains '.' then do
      match ← (Text.split (· = '.') s).mapM byte? with
      | [a, b, c, d] => pure [a * 256 + b, c * 256 + d]
      | _ => none
    else (group? s).map ([·])
  | s :: rest => do
    let g ← group? s
    let gs ← groups? rest
    pure (g :: gs)

def groupList? (s : List Char) : Option (List Nat) :=
  if s = [] then some [] else groups? (Text.split (· = ':') s)

/-- The texts around the first pair of colons. -/
def aroundGap : List Char → Option (List Char × List Char)
  | ':' :: ':' :: rest => some ([], rest)
  | c :: rest => (aroundGap rest).map fun (a, b) => (c :: a, b)
  | [] => none

/-- The eight groups of a host in brackets; a pair of colons stands for one zero or more. -/
def ipv6Groups? (s : List Char) : Option (List Nat) :=
  match aroundGap s with
  | none => (groupList? s).filter (·.length = 8)
  | some (a, b) => do
    if a.contains '.' then none
    else
      let front ← groupList? a
      let back ← groupList? b
      let found := front.length + back.length
      if found ≤ 7 then pure (front ++ List.replicate (8 - found) 0 ++ back) else none

def zeroRun (gs : List Nat) : Nat :=
  (gs.takeWhile (· = 0)).length

/-- Where the first of the longest runs of two zeros or more starts, and its length. -/
def longestRun (gs : List Nat) : Option (Nat × Nat) :=
  ((List.range gs.length).map fun i => (i, zeroRun (gs.drop i))).foldl
    (fun best run =>
      if run.2 < 2 then best
      else match best with
        | none => some run
        | some b => if b.2 < run.2 then some run else some b) none

def joinGroups (gs : List Nat) : String :=
  ":".intercalate (gs.map fun g => String.ofList (Nat.toDigits 16 g))

def renderIpv6 (gs : List Nat) : String :=
  match longestRun gs with
  | none => "[" ++ joinGroups gs ++ "]"
  | some (i, n) => "[" ++ joinGroups (gs.take i) ++ "::" ++ joinGroups (gs.drop (i + n)) ++ "]"

def bracketed (s : List Char) : Except UrlError String :=
  match s.getLast? with
  | some ']' =>
    match ipv6Groups? s.dropLast with
    | some gs => .ok (renderIpv6 gs)
    | none => .error .invalidIpv6
  | _ => .error .invalidIpv6

/-! ## Whole hosts -/

def isForbidden (c : Char) : Bool :=
  c.toNat = 0 || c.toNat = 9 || c.toNat = 10 || c.toNat = 13 || " #/:<>?@[\\]^|".toList.contains c

def web (s : List Char) : Except UrlError String :=
  match s with
  | [] => .error .emptyHost
  | '[' :: rest => bracketed rest
  | s =>
    match Domain.ascii? (Text.Utf8.decodeFrom none (Text.Percent.decode s)) with
    | none => .error .invalidDomain
    | some [] => .error .emptyHost
    | some domain =>
      if endsInNumber domain then
        match ipv4? domain with
        | some host => .ok host
        | none => .error .invalidIpv4
      else .ok (String.ofList domain)

/-- Reads the host of a URL with a scheme of its own. -/
def opaqueHost (s : List Char) : Except UrlError String :=
  match s with
  | '[' :: rest => bracketed rest
  | s =>
    if s.any isForbidden then .error .invalidDomainCharacter
    else .ok (String.ofList (Text.Percent.encode Text.Percent.control s))

end BlobDepot.Url.Host
