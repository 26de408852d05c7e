import BlobDepot.Glob.Filter
import Mathlib.Data.List.Forall2

/-!
# Filters pattern by pattern

A list of patterns can be used if and only if each of its patterns can be used by itself and those
that are built as one set are not too large together. It matches what some of its patterns matches
by itself, so neither the order of the patterns in a list nor how often one is in it counts.
-/
namespace BlobDepot.Glob

variable {engine : Engine} {texts texts' includes includes' excludes excludes' : List String}
  {t path : String} {p : Pattern} {ps qs : List Pattern} {way : Approach} {f : Filter}

/-! ## Sets of expressions -/

theorem lookedUp_sublist (way : Approach) (h : ps.Sublist qs) :
    (lookedUp way ps).Sublist (lookedUp way qs) :=
  h.filter _

namespace Engine

theorem refusal_eq_none_iff : engine.refusal ps = none ↔
    (∀ p ∈ ps, p.isTooDeep = false) ∧ engine.isTooLarge ps = false := by
  unfold refusal
  split
  · next n hdeep =>
    have hnot : ¬ ∀ p ∈ ps, p.isTooDeep = false := by
      rw [← List.findIdx?_eq_none_iff, hdeep]
      nofun
    simp [hnot]
  · next hdeep => simpa using fun _ => List.findIdx?_eq_none_iff.1 hdeep

/-- A part of a set that can be built can be built. -/
theorem refusal_of_sublist (hsub : ps.Sublist qs) (h : engine.refusal qs = none) :
    engine.refusal ps = none := by
  obtain ⟨hdeep, hlarge⟩ := refusal_eq_none_iff.1 h
  refine refusal_eq_none_iff.2 ⟨fun p hp => hdeep p (hsub.subset hp), ?_⟩
  cases hpart : engine.isTooLarge ps with
  | false => rfl
  | true => exact absurd (engine.part hsub hpart) (by simp [hlarge])

theorem obstacle_eq_none_iff : engine.obstacle ps = none ↔
    (∀ p ∈ lookedUp .extensionFirst ps, engine.refusal [p] = none) ∧
      engine.refusal (lookedUp .expression ps) = none ∧
        engine.refusal (lookedUp .nameExpression ps) = none := by
  simp only [obstacle, Option.or_eq_none_iff, List.findSome?_eq_none_iff, Option.map_eq_none_iff]

theorem obstacle_of_sublist (hsub : ps.Sublist qs) (h : engine.obstacle qs = none) :
    engine.obstacle ps = none := by
  obtain ⟨hfirst, hexpression, hname⟩ := obstacle_eq_none_iff.1 h
  exact obstacle_eq_none_iff.2 ⟨fun p hp => hfirst p ((lookedUp_sublist _ hsub).subset hp),
    refusal_of_sublist (lookedUp_sublist _ hsub) hexpression,
    refusal_of_sublist (lookedUp_sublist _ hsub) hname⟩

def takes (engine : Engine) (ps : List Pattern) : Bool :=
  !engine.isTooLarge (lookedUp .expression ps) && !engine.isTooLarge (lookedUp .nameExpression ps)

/-- A pattern that is looked up in a way and can be used by itself is an expression that can be
built. -/
theorem refusal_singleton (hp : p ∈ lookedUp way ps)
    (hway : way = .extensionFirst ∨ way = .expression ∨ way = .nameExpression)
    (h : engine.obstacle [p] = none) : engine.refusal [p] = none := by
  have happroach : approach p.tokens = way := of_decide_eq_true (List.mem_filter.1 hp).2
  have hself : lookedUp way [p] = [p] := by simp [lookedUp, happroach]
  obtain ⟨hfirst, hexpression, hname⟩ := obstacle_eq_none_iff.1 h
  rcases hway with rfl | rfl | rfl
  · exact hfirst p (by simp [hself])
  · rwa [hself] at hexpression
  · rwa [hself] at hname

/-- What stands against patterns that can each be used is that they are too large together. -/
theorem obstacle_eq (h : ∀ p ∈ ps, engine.obstacle [p] = none) :
    engine.obstacle ps = if engine.takes ps then none else some tooLarge := by
  have hset : ∀ way, way = .extensionFirst ∨ way = .expression ∨ way = .nameExpression →
      ∀ p ∈ lookedUp way ps, engine.refusal [p] = none := fun way hway p hp =>
    refusal_singleton hp hway (h p (List.mem_filter.1 hp).1)
  have hrefusal : ∀ way, way = .extensionFirst ∨ way = .expression ∨ way = .nameExpression →
      engine.refusal (lookedUp way ps) =
        if engine.isTooLarge (lookedUp way ps) then some tooLarge else none := by
    intro way hway
    have hdeep : (lookedUp way ps).findIdx? Pattern.isTooDeep = none :=
      List.findIdx?_eq_none_iff.2 fun p hp =>
        (refusal_eq_none_iff.1 (hset way hway p hp)).1 p (List.mem_singleton_self p)
    rw [refusal, hdeep]
  have hfirst : ((lookedUp .extensionFirst ps).findSome? fun p =>
      (engine.refusal [p]).map (reasonAbout (text p.tokens))) = none :=
    List.findSome?_eq_none_iff.2 fun p hp => by rw [hset _ (.inl rfl) p hp, Option.map_none]
  rw [obstacle, hfirst, hrefusal .expression (.inr (.inl rfl)),
    hrefusal .nameExpression (.inr (.inr rfl)), takes]
  cases engine.isTooLarge (lookedUp .expression ps) <;>
    cases engine.isTooLarge (lookedUp .nameExpression ps) <;> rfl

end Engine

/-! ## Lists of patterns -/

/-- A text is read as a pattern that can be used by itself. -/
structure Usable (engine : Engine) (t : String) (p : Pattern) : Prop where
  read : Pattern.ofString t = .ok p
  free : engine.obstacle [p] = none

theorem readAll_cons_eq_ok_iff : readAll (t :: texts) = .ok ps ↔
    ∃ p rest, Pattern.ofString t = .ok p ∧ readAll texts = .ok rest ∧ ps = p :: rest := by
  rw [readAll]
  cases Pattern.ofString t with
  | error e => simp [throw, throwThe, MonadExceptOf.throw]
  | ok p =>
    cases readAll texts with
    | error e => simp [bind, Except.bind]
    | ok rest => simp [bind, Except.bind, pure, Except.pure, eq_comm]

theorem readAll_eq_ok_iff :
    readAll texts = .ok ps ↔ List.Forall₂ (fun t p => Pattern.ofString t = .ok p) texts ps := by
  induction texts generalizing ps with
  | nil => simp [readAll, eq_comm]
  | cons t texts ih => simp only [readAll_cons_eq_ok_iff, List.forall₂_cons_left_iff, ih]

theorem forall₂_usable_iff : List.Forall₂ (Usable engine) texts ps ↔
    List.Forall₂ (fun t p => Pattern.ofString t = .ok p) texts ps ∧
      ∀ p ∈ ps, engine.obstacle [p] = none := by
  constructor
  · intro h
    induction h with
    | nil => exact ⟨.nil, nofun⟩
    | cons h _ ih => exact ⟨.cons h.read ih.1, List.forall_mem_cons.2 ⟨h.free, ih.2⟩⟩
  · rintro ⟨hread, hfree⟩
    induction hread with
    | nil => exact .nil
    | cons h _ ih =>
      rw [List.forall_mem_cons] at hfree
      exact .cons ⟨h, hfree.1⟩ (ih hfree.2)

/-- A list whose patterns can be used one by one is refused as a whole, or is compiled one by
one. -/
theorem compile_of_usable (h : List.Forall₂ (Usable engine) texts ps) : compile engine texts =
    if engine.takes ps then .ok ps else .error ⟨", ".intercalate texts, tooLarge⟩ := by
  obtain ⟨hread, hfree⟩ := forall₂_usable_iff.1 h
  rw [compile, readAll_eq_ok_iff.2 hread]
  simp only [bind, Except.bind, Engine.obstacle_eq hfree]
  cases engine.takes ps <;> rfl

theorem usable_of_compile (h : compile engine texts = .ok ps) :
    List.Forall₂ (Usable engine) texts ps := by
  unfold compile at h
  cases hread : readAll texts with
  | error r =>
    rw [hread] at h
    cases h
  | ok qs =>
    simp only [hread, bind, Except.bind] at h
    split at h
    · cases h
    · next hobstacle =>
      obtain rfl := Except.ok.inj h
      exact forall₂_usable_iff.2 ⟨readAll_eq_ok_iff.1 hread, fun p hp =>
        Engine.obstacle_of_sublist (List.singleton_sublist.2 hp) hobstacle⟩

theorem exists_forall₂_usable_iff :
    (∃ ps, List.Forall₂ (Usable engine) texts ps) ↔ ∀ t ∈ texts, ∃ p, Usable engine t p := by
  induction texts with
  | nil => simp
  | cons t texts ih =>
    rw [List.forall_mem_cons, ← ih]
    constructor
    · rintro ⟨ps, hps⟩
      obtain ⟨p, rest, hp, hrest, -⟩ := List.forall₂_cons_left_iff.1 hps
      exact ⟨⟨p, hp⟩, rest, hrest⟩
    · rintro ⟨⟨p, hp⟩, rest, hrest⟩
      exact ⟨p :: rest, .cons hp hrest⟩

theorem takes_singleton (h : Usable engine t p) : engine.takes [p] = true := by
  have hobstacle : engine.obstacle [p] = if engine.takes [p] then none else some tooLarge :=
    Engine.obstacle_eq (by simpa using h.free)
  rw [h.free] at hobstacle
  by_contra hnot
  rw [if_neg hnot] at hobstacle
  cases hobstacle

theorem compile_singleton (h : Usable engine t p) : compile engine [t] = .ok [p] := by
  rw [compile_of_usable (.cons h .nil), if_pos (takes_singleton h)]

theorem compile_nil : compile engine [] = .ok [] := by
  have htaken : engine.takes [] = true := by simp [Engine.takes, lookedUp, engine.nothing]
  rw [compile_of_usable .nil, if_pos htaken]

/-! ## Filters -/

theorem ofPatterns_eq_ok_iff : Filter.ofPatterns engine includes excludes = .ok f ↔
    compile engine includes = .ok f.kept ∧ compile engine excludes = .ok f.dropped := by
  unfold Filter.ofPatterns
  cases compile engine includes with
  | error e => simp [bind, Except.bind]
  | ok kept =>
    cases compile engine excludes with
    | error e => simp [bind, Except.bind]
    | ok dropped =>
      obtain ⟨kept', dropped'⟩ := f
      simp [bind, Except.bind, pure, Except.pure]

def isValid (engine : Engine) (t : String) : Bool :=
  (Filter.ofPatterns engine [t] []).isOk

def passes (engine : Engine) (t path : String) : Bool :=
  match Filter.ofPatterns engine [t] [] with
  | .ok f => f.lets path
  | .error _ => false

def fits (engine : Engine) (texts : List String) : Bool :=
  (readAll texts).toOption.all engine.takes

theorem ofPatterns_singleton (h : Usable engine t p) :
    Filter.ofPatterns engine [t] [] = .ok ⟨[p], []⟩ :=
  ofPatterns_eq_ok_iff.2 ⟨compile_singleton h, compile_nil⟩

theorem isValid_iff : isValid engine t = true ↔ ∃ p, Usable engine t p := by
  constructor
  · intro h
    unfold isValid at h
    cases hf : Filter.ofPatterns engine [t] [] with
    | error r =>
      rw [hf] at h
      cases h
    | ok f =>
      have husable := usable_of_compile (ofPatterns_eq_ok_iff.1 hf).1
      obtain ⟨p, -, hp, -⟩ := List.forall₂_cons_left_iff.1 husable
      exact ⟨p, hp⟩
  · rintro ⟨p, hp⟩
    rw [isValid, ofPatterns_singleton hp]
    rfl

theorem passes_eq (h : Usable engine t p) (path : String) :
    passes engine t path = p.matchesPath path := by
  simp [passes, ofPatterns_singleton h, Filter.lets]

theorem any_matchesPath (h : List.Forall₂ (Usable engine) texts ps) (path : String) :
    (ps.any fun p => p.matchesPath path) = texts.any fun t => passes engine t path := by
  induction h with
  | nil => rfl
  | cons hp _ ih => rw [List.any_cons, List.any_cons, ih, passes_eq hp]

/-- Whether some patterns to include and some to exclude, each by itself, let a path through. -/
def letThrough (engine : Engine) (includes excludes : List String) (path : String) : Bool :=
  (includes.isEmpty || includes.any fun t => passes engine t path) &&
    !excludes.any fun t => passes engine t path

theorem lets_eq (h : Filter.ofPatterns engine includes excludes = .ok f) (path : String) :
    f.lets path = letThrough engine includes excludes path := by
  obtain ⟨hkept, hdropped⟩ := ofPatterns_eq_ok_iff.1 h
  have hempty : f.kept.isEmpty = includes.isEmpty := by
    have hlength := (usable_of_compile hkept).length_eq
    rw [Bool.eq_iff_iff, List.isEmpty_iff_length_eq_zero, List.isEmpty_iff_length_eq_zero, hlength]
  rw [Filter.lets, any_matchesPath (usable_of_compile hkept),
    any_matchesPath (usable_of_compile hdropped), hempty]
  rfl

theorem any_congr_mem (h : ∀ t, t ∈ texts' ↔ t ∈ texts) (test : String → Bool) :
    texts'.any test = texts.any test := by
  rw [Bool.eq_iff_iff, List.any_eq_true, List.any_eq_true]
  simp only [h]

theorem letThrough_congr (hin : ∀ t, t ∈ includes' ↔ t ∈ includes)
    (hex : ∀ t, t ∈ excludes' ↔ t ∈ excludes) (path : String) :
    letThrough engine includes' excludes' path = letThrough engine includes excludes path := by
  have hempty : includes'.isEmpty = includes.isEmpty := by
    rw [Bool.eq_iff_iff, List.isEmpty_iff, List.isEmpty_iff, List.eq_nil_iff_forall_not_mem,
      List.eq_nil_iff_forall_not_mem]
    simp only [hin]
  rw [letThrough, letThrough, any_congr_mem hin, any_congr_mem hex, hempty]

theorem compile_of_isValid (h : ∀ t ∈ texts, isValid engine t = true) :
    ∃ ps, compile engine texts =
      if fits engine texts then .ok ps else .error ⟨", ".intercalate texts, tooLarge⟩ := by
  simp only [isValid_iff] at h
  obtain ⟨ps, hps⟩ := exists_forall₂_usable_iff.2 h
  have hread : readAll texts = .ok ps := readAll_eq_ok_iff.2 (forall₂_usable_iff.1 hps).1
  have hfits : fits engine texts = engine.takes ps := by
    rw [fits, hread]
    rfl
  exact ⟨ps, by rw [compile_of_usable hps, hfits]⟩

theorem ofPatterns_of_not_fits (hvalid : ∀ t ∈ includes, isValid engine t = true)
    (h : fits engine includes = false) : Filter.ofPatterns engine includes excludes =
      .error ⟨", ".intercalate includes, tooLarge⟩ := by
  obtain ⟨kept, hkept⟩ := compile_of_isValid hvalid
  rw [h] at hkept
  simp only [Filter.ofPatterns, hkept]
  rfl

theorem ofPatterns_of_not_fits_excludes (hin : ∀ t ∈ includes, isValid engine t = true)
    (hex : ∀ t ∈ excludes, isValid engine t = true) (hfits : fits engine includes = true)
    (h : fits engine excludes = false) : Filter.ofPatterns engine includes excludes =
      .error ⟨", ".intercalate excludes, tooLarge⟩ := by
  obtain ⟨kept, hkept⟩ := compile_of_isValid hin
  obtain ⟨dropped, hdropped⟩ := compile_of_isValid hex
  rw [hfits] at hkept
  rw [h] at hdropped
  simp only [Filter.ofPatterns, hkept, hdropped]
  rfl

theorem exists_ofPatterns_of_fits (hin : ∀ t ∈ includes, isValid engine t = true)
    (hex : ∀ t ∈ excludes, isValid engine t = true) (hfits : fits engine includes = true)
    (hfits' : fits engine excludes = true) :
    ∃ f, Filter.ofPatterns engine includes excludes = .ok f := by
  obtain ⟨kept, hkept⟩ := compile_of_isValid hin
  obtain ⟨dropped, hdropped⟩ := compile_of_isValid hex
  rw [hfits] at hkept
  rw [hfits'] at hdropped
  exact ⟨⟨kept, dropped⟩, ofPatterns_eq_ok_iff.2 ⟨hkept, hdropped⟩⟩

theorem exists_refusal_of_not_isValid (h : ∃ t ∈ includes ++ excludes, isValid engine t = false) :
    ∃ r, Filter.ofPatterns engine includes excludes = .error r := by
  cases hf : Filter.ofPatterns engine includes excludes with
  | error r => exact ⟨r, rfl⟩
  | ok f =>
    obtain ⟨hkept, hdropped⟩ := ofPatterns_eq_ok_iff.1 hf
    have hin := exists_forall₂_usable_iff.1 ⟨_, usable_of_compile hkept⟩
    have hex := exists_forall₂_usable_iff.1 ⟨_, usable_of_compile hdropped⟩
    obtain ⟨t, ht, hnot⟩ := h
    rw [isValid_iff.2 ((List.mem_append.1 ht).elim (hin t) (hex t))] at hnot
    cases hnot

end BlobDepot.Glob
