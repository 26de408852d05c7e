import BlobDepot.Proofs.Glob.Filter
import BlobDepot.Proofs.Tree.Listings
import Mathlib.Tactic.Tauto

/-!
# Listings that patterns choose from

A listing by patterns fails before anything is asked for if one of the patterns is invalid by
itself, or if those of a list are too large together. Otherwise it is the listing of all files, less
those that the patterns, one by one, do not let through.
-/
namespace BlobDepot

open Glob (isValid fits letThrough tooLarge)

variable {σ : Type} [Store σ] {engine : Glob.Engine} {stack : FrameStack} {n : Node} {s : σ}
  {includes excludes : List String}

namespace Node

theorem glob_of_invalid (h : ∃ t ∈ includes ++ excludes, isValid engine t = false) :
    ∃ r, n.glob engine stack includes excludes s = (.error (.invalidPattern r), s) := by
  obtain ⟨r, hr⟩ := Glob.exists_refusal_of_not_isValid h
  exact ⟨r, by simp only [glob, hr]⟩

theorem glob_of_fits (h : ∀ t ∈ includes ++ excludes, isValid engine t = true)
    (hin : fits engine includes = true) (hex : fits engine excludes = true) :
    n.glob engine stack includes excludes s =
      ((n.files stack s).1.map fun paths => paths.filter (letThrough engine includes excludes),
        (n.files stack s).2) := by
  rw [List.forall_mem_append] at h
  obtain ⟨f, hf⟩ := Glob.exists_ofPatterns_of_fits h.1 h.2 hin hex
  have hlets : f.lets = letThrough engine includes excludes := funext (Glob.lets_eq hf)
  simp only [glob, hf, hlets]
  rfl

/-- With an invalid pattern in either list a listing by patterns fails and leaves the store as it
is. With valid ones only it fails in the same way for a list that is too large as a whole, those to
include before those to exclude, and names the list. If both lists fit, it fails as the listing of
all files does, or has those files, in their order, that some pattern to include matches, or there
is none, and no pattern to exclude. The same patterns in another order, or some of them more than
once, give the same listing of the same calls if those lists fit too; with an invalid one among them
it fails again, before any call. -/
theorem glob_exact (engine : Glob.Engine) (stack : FrameStack) (n : Node)
    (includes excludes : List String) (s : σ) :
    ((∃ t ∈ includes ++ excludes, isValid engine t = false) →
        ∃ r, n.glob engine stack includes excludes s = (.error (.invalidPattern r), s)) ∧
      ((∀ t ∈ includes ++ excludes, isValid engine t = true) →
        (fits engine includes = false → n.glob engine stack includes excludes s =
          (.error (.invalidPattern ⟨", ".intercalate includes, tooLarge⟩), s)) ∧
        (fits engine includes = true → fits engine excludes = false →
          n.glob engine stack includes excludes s =
            (.error (.invalidPattern ⟨", ".intercalate excludes, tooLarge⟩), s)) ∧
        (fits engine includes = true → fits engine excludes = true →
          (∀ e, (n.files stack s).1 = .error e →
            n.glob engine stack includes excludes s = (.error e, (n.files stack s).2)) ∧
          ∀ paths, (n.files stack s).1 = .ok paths → n.glob engine stack includes excludes s =
            (.ok (paths.filter (letThrough engine includes excludes)), (n.files stack s).2))) ∧
      ∀ includes' excludes', (∀ t, t ∈ includes' ↔ t ∈ includes) →
        (∀ t, t ∈ excludes' ↔ t ∈ excludes) →
          ((∀ t ∈ includes ++ excludes, isValid engine t = true) →
            (∀ texts ∈ [includes, excludes, includes', excludes'], fits engine texts = true) →
              n.glob engine stack includes' excludes' s =
                n.glob engine stack includes excludes s) ∧
          ((∃ t ∈ includes ++ excludes, isValid engine t = false) →
            ∃ r, n.glob engine stack includes' excludes' s = (.error (.invalidPattern r), s)) := by
  refine ⟨glob_of_invalid, fun h => ⟨fun hin => ?_, fun hin hex => ?_, fun hin hex =>
    ⟨fun e he => ?_, fun paths hpaths => ?_⟩⟩, fun includes' excludes' hin hex => ?_⟩
  · rw [List.forall_mem_append] at h
    simp only [glob, Glob.ofPatterns_of_not_fits h.1 hin]
  · rw [List.forall_mem_append] at h
    simp only [glob, Glob.ofPatterns_of_not_fits_excludes h.1 h.2 hin hex]
  · rw [glob_of_fits h hin hex, he]
    rfl
  · rw [glob_of_fits h hin hex, hpaths]
    rfl
  · have hsame : ∀ t, t ∈ includes' ++ excludes' ↔ t ∈ includes ++ excludes := by
      simp only [List.mem_append, hin, hex, implies_true]
    constructor
    · intro h hfits
      simp only [List.forall_mem_cons] at hfits
      obtain ⟨hfits, hfitsex, hfits', hfitsex', -⟩ := hfits
      have hfilter : letThrough engine includes' excludes' = letThrough engine includes excludes :=
        funext (Glob.letThrough_congr hin hex)
      rw [glob_of_fits h hfits hfitsex,
        glob_of_fits (fun t ht => h t ((hsame t).1 ht)) hfits' hfitsex', hfilter]
    · rintro ⟨t, ht, hinvalid⟩
      exact glob_of_invalid ⟨t, (hsame t).2 ht, hinvalid⟩

/-- A pattern twice in the list and another one behind it. -/
theorem glob_exact_of_repeated_pattern :
    let objects : Catalog Blob := ((Catalog.empty.insert "a.txt" ⟨[1], 1⟩).insert "b/c.txt"
      ⟨[2], 2⟩).insert "b/d.tmp" ⟨[3], 3⟩
    let s : MemoryStore := { containers := Catalog.empty.insert "artifacts" objects }
    let n : Node := { key := ⟨"artifacts", ""⟩ }
    (n.glob {} {} ["b/*", "*.txt", "b/*"] ["**/*.tmp"] s).1 = .ok ["a.txt", "b/c.txt"] ∧
      n.glob {} {} ["*.txt", "b/*"] ["**/*.tmp"] s =
        n.glob {} {} ["b/*", "*.txt", "b/*"] ["**/*.tmp"] s := by
  intro objects s n
  have hmem : ∀ t, t ∈ ["*.txt", "b/*"] ↔ t ∈ ["b/*", "*.txt", "b/*"] := by
    intro t
    simp only [List.mem_cons, List.not_mem_nil, or_false]
    tauto
  obtain ⟨-, hlisted, hsame⟩ := glob_exact {} {} n ["b/*", "*.txt", "b/*"] ["**/*.tmp"] s
  have hvalid : ∀ t ∈ ["b/*", "*.txt", "b/*"] ++ ["**/*.tmp"], isValid {} t = true := by
    decide +kernel
  have hs : s.Shows "artifacts" objects := ⟨rfl, nofun⟩
  have hpaths : (n.files {} s).1 = .ok (MemoryStore.filesAt objects n.key) :=
    files_of_lookup_eq_none hs rfl
  have hfiltered : (MemoryStore.filesAt objects n.key).filter
      (letThrough {} ["b/*", "*.txt", "b/*"] ["**/*.tmp"]) = ["a.txt", "b/c.txt"] := by
    decide +kernel
  have hin : fits {} ["b/*", "*.txt", "b/*"] = true := by decide +kernel
  have hex : fits {} ["**/*.tmp"] = true := by decide +kernel
  refine ⟨?_, (hsame ["*.txt", "b/*"] ["**/*.tmp"] hmem fun _ => Iff.rfl).1 hvalid ?_⟩
  · rw [((hlisted hvalid).2.2 hin hex).2 _ hpaths, hfiltered]
  · decide +kernel

/-- The failure is about the first of two invalid patterns, so that their order shows in it. And
where no more than one expression is taken, a valid pattern by itself is and the same one twice is
not. -/
theorem glob_ne_of_invalid_patterns :
    let n : Node := { key := ⟨"artifacts", ""⟩ }
    let s : MemoryStore := ({} : MemoryStore).addContainer "artifacts"
    let small : Glob.Engine :=
      { isTooLarge := fun ps => decide (1 < ps.length)
        nothing := rfl
        part := fun h hlarge => decide_eq_true ((of_decide_eq_true hlarge).trans_le h.length_le) }
    ["\x7b", "["].Perm ["[", "\x7b"] ∧
      (n.glob {} {} ["[", "\x7b"] [] s).1 ≠ (n.glob {} {} ["\x7b", "["] [] s).1 ∧
        isValid small "a?" = true ∧ (n.glob small {} ["a?"] [] s).1 = .ok [] ∧
          (n.glob small {} ["a?", "a?"] [] s).1 =
            .error (.invalidPattern ⟨"a?, a?", tooLarge⟩) := by
  intro n s small
  refine ⟨.swap .., ?_⟩
  decide +kernel

end Node
end BlobDepot
