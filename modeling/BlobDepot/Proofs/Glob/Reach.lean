import BlobDepot.Proofs.Glob.Filter
import BlobDepot.Proofs.Glob.Language
import BlobDepot.Proofs.Text
import Mathlib.Data.ENat.Lattice
import Mathlib.Data.List.Infix
import Mathlib.Tactic.Abel

/-!
# How deep a pattern reaches

What a pattern matches has at most so many slashes as its literals and classes stand for, and
without two stars in a row they are written in it, one by one, but for those that a class stands for
without having one written in it.
-/
namespace BlobDepot.Glob

variable {w : List UInt8} {d : Draft} {t : Token} {ts : List Token}

/-! ## Slashes in what is matched -/

mutual

/-- The most slashes that a token stands for. -/
noncomputable def Token.reach : Token → ℕ∞
  | .literal c => if c = '/' then 1 else 0
  | .one | .run => 0
  | .leading | .trailing | .between => ⊤
  | .oneOf negated ranges => if inClass negated ranges slash then 1 else 0
  | .choice branches => reachOfAny branches

noncomputable def reachOf : List Token → ℕ∞
  | [] => 0
  | t :: ts => t.reach + reachOf ts

noncomputable def reachOfAny : List (List Token) → ℕ∞
  | [] => 0
  | ts :: rest => max (reachOf ts) (reachOfAny rest)

end

theorem count_slash_utf8EncodeChar (c : Char) :
    (String.utf8EncodeChar c).count slash = if c = '/' then 1 else 0 :=
  Text.count_utf8EncodeChar (show '/'.toNat < 0x80 by decide) c

/-- A byte that passes a test is a slash only if a slash passes it. -/
theorem count_slash_le_of_mem_oneByte {test : UInt8 → Bool} (h : w ∈ oneByte test) :
    (w.count slash : ℕ∞) ≤ if test slash then 1 else 0 := by
  obtain ⟨b, hb, rfl⟩ := h
  by_cases hslash : b = slash
  · rw [hslash] at hb ⊢
    simp [hb]
  · simp [hslash]

mutual

theorem Token.count_slash_le : ∀ (t : Token) {w : List UInt8}, w ∈ t.language →
    (w.count slash : ℕ∞) ≤ t.reach
  | .literal c, _, h => by
    obtain rfl := h
    rw [count_slash_utf8EncodeChar, Token.reach]
    split <;> simp
  | .one, _, h => (count_slash_le_of_mem_oneByte h).trans (by simp)
  | .run, _, h => by
    have hzero := List.count_eq_zero.2 h
    simp [hzero]
  | .leading, _, _ | .trailing, _, _ | .between, _, _ => le_top
  | .oneOf _ _, _, h => count_slash_le_of_mem_oneByte h
  | .choice branches, _, h => by
    rw [Token.language] at h
    cases hblank : areBlank branches with
    | true =>
      rw [hblank, if_pos rfl, Language.mem_one] at h
      simp [h]
    | false =>
      rw [hblank, if_neg Bool.false_ne_true] at h
      exact count_slash_le_reachOfAny branches h

theorem count_slash_le_reachOf : ∀ (ts : List Token) {w : List UInt8}, w ∈ languageOf ts →
    (w.count slash : ℕ∞) ≤ reachOf ts
  | [], _, h => by
    rw [languageOf, Language.mem_one] at h
    simp [h]
  | t :: ts, _, h => by
    obtain ⟨u, hu, v, hv, rfl⟩ := Language.mem_mul.1 h
    rw [List.count_append, Nat.cast_add]
    exact add_le_add (t.count_slash_le hu) (count_slash_le_reachOf ts hv)

theorem count_slash_le_reachOfAny : ∀ (branches : List (List Token)) {w : List UInt8},
    w ∈ languageOfAny branches → (w.count slash : ℕ∞) ≤ reachOfAny branches
  | [], w, h => absurd h (Language.notMem_zero w)
  | ts :: rest, _, h => by
    rw [languageOfAny] at h
    rw [reachOfAny, le_max_iff]
    cases hblank : isBlank ts with
    | true =>
      rw [hblank, if_pos rfl] at h
      exact .inr (count_slash_le_reachOfAny rest h)
    | false =>
      rw [hblank, if_neg Bool.false_ne_true, Language.mem_add] at h
      exact h.imp (count_slash_le_reachOf ts) (count_slash_le_reachOfAny rest)

end

/-! ## Sums over tokens -/

section Total

variable {M : Type} [AddCommMonoid M] {f : Token → M}

mutual

/-- What the tokens of a token add up to, all the way down to those that are no choice. -/
def Token.total (f : Token → M) : Token → M
  | .choice branches => totalOfAll f branches
  | t => f t

def totalOf (f : Token → M) : List Token → M
  | [] => 0
  | t :: ts => t.total f + totalOf f ts

def totalOfAll (f : Token → M) : List (List Token) → M
  | [] => 0
  | ts :: rest => totalOf f ts + totalOfAll f rest

end

theorem totalOf_append (f : Token → M) (ts us : List Token) :
    totalOf f (ts ++ us) = totalOf f ts + totalOf f us := by
  induction ts with
  | nil => exact (zero_add _).symm
  | cons t ts ih => rw [List.cons_append, totalOf, totalOf, ih, add_assoc]

theorem totalOf_reverse (f : Token → M) (ts : List Token) :
    totalOf f ts.reverse = totalOf f ts := by
  induction ts with
  | nil => rfl
  | cons t ts ih => rw [List.reverse_cons, totalOf_append, ih, totalOf, totalOf, totalOf, add_zero,
      add_comm]

theorem totalOfAll_append (f : Token → M) (bs cs : List (List Token)) :
    totalOfAll f (bs ++ cs) = totalOfAll f bs + totalOfAll f cs := by
  induction bs with
  | nil => exact (zero_add _).symm
  | cons ts bs ih => rw [List.cons_append, totalOfAll, totalOfAll, ih, add_assoc]

theorem totalOfAll_reverse (f : Token → M) (bs : List (List Token)) :
    totalOfAll f bs.reverse = totalOfAll f bs := by
  induction bs with
  | nil => rfl
  | cons ts bs ih => rw [List.reverse_cons, totalOfAll_append, ih, totalOfAll, totalOfAll,
      totalOfAll, add_zero, add_comm]

def Draft.total (f : Token → M) (d : Draft) : M :=
  totalOf f d.branch + (d.groups.map fun g => totalOf f g.around + totalOfAll f g.branches).sum

@[simp] theorem Draft.total_push (f : Token → M) (d : Draft) (t : Token) :
    (d.push t).total f = t.total f + d.total f :=
  add_assoc _ _ _

@[simp] theorem Draft.total_openGroup (f : Token → M) (d : Draft) :
    d.openGroup.total f = d.total f := by
  simp [Draft.total, Draft.openGroup, totalOf, totalOfAll]

theorem Draft.total_comma (hcomma : f (.literal ',') = 0) (d : Draft) :
    d.comma.total f = d.total f := by
  obtain ⟨groups, branch⟩ := d
  cases groups with
  | nil => simp [Draft.comma, Token.total, hcomma]
  | cons g rest =>
    simp only [Draft.total, Draft.comma, List.map_cons, List.sum_cons, totalOf, totalOfAll,
      totalOf_reverse]
    abel

theorem Draft.total_closeGroup {d d' : Draft} (h : d.closeGroup = .ok d') :
    d'.total f = d.total f := by
  obtain ⟨groups, branch⟩ := d
  cases groups with
  | nil => cases h
  | cons g rest =>
    obtain rfl := Except.ok.inj h
    simp only [Draft.total, List.map_cons, List.sum_cons, totalOf, Token.total, totalOfAll_reverse,
      totalOfAll, totalOf_reverse]
    abel

end Total

/-! ## Slashes in what is written -/

def spellsSlash (ranges : List (Char × Char)) : Bool :=
  ranges.any fun range => range.1 = '/' || range.2 = '/'

/-- The slashes that are written in a token that is no choice. For two stars there is no bound. -/
def slashesWritten : Token → ℕ∞
  | .literal c => if c = '/' then 1 else 0
  | .leading | .trailing | .between => ⊤
  | .oneOf _ ranges => if spellsSlash ranges then 1 else 0
  | .one | .run | .choice _ => 0

/-- Counts a class that stands for a slash without having one written in it. -/
def crossing : Token → ℕ
  | .oneOf negated ranges => if inClass negated ranges slash && !spellsSlash ranges then 1 else 0
  | _ => 0

/-- The classes in a sequence that stand for a slash without having one written in them. -/
def crossings (ts : List Token) : ℕ :=
  totalOf crossing ts

mutual

theorem Token.reach_le : ∀ t : Token, t.reach ≤ t.total slashesWritten + (t.total crossing : ℕ)
  | .literal c => le_self_add
  | .one | .run => zero_le
  | .leading | .trailing | .between => le_self_add
  | .oneOf negated ranges => by
    simp only [Token.reach, Token.total, slashesWritten, crossing]
    cases inClass negated ranges slash <;> cases spellsSlash ranges <;> simp
  | .choice branches => reachOfAny_le branches

theorem reachOf_le : ∀ ts : List Token,
    reachOf ts ≤ totalOf slashesWritten ts + (totalOf crossing ts : ℕ)
  | [] => zero_le
  | t :: ts => by
    rw [reachOf, totalOf, totalOf, Nat.cast_add, add_add_add_comm]
    exact add_le_add t.reach_le (reachOf_le ts)

theorem reachOfAny_le : ∀ branches : List (List Token),
    reachOfAny branches ≤ totalOfAll slashesWritten branches + (totalOfAll crossing branches : ℕ)
  | [] => zero_le
  | ts :: rest => by
    rw [reachOfAny, totalOfAll, totalOfAll, Nat.cast_add, add_add_add_comm]
    exact max_le ((reachOf_le ts).trans le_self_add) ((reachOfAny_le rest).trans le_add_self)

end

/-! ## Slashes in what is read -/

section Reading

variable {r : Ranges} {rs : List (Char × Char)} {s rest : List Char} {c : Char}

theorem spellsSlash_done (r : Ranges) : spellsSlash r.done = spellsSlash r.found := by
  obtain ⟨found, open?⟩ := r
  cases open? <;> simp [Ranges.done, spellsSlash]

theorem spellsSlash_cons (a b : Char) (more : List (Char × Char)) :
    spellsSlash ((a, b) :: more) = true ↔ (a = '/' ∨ b = '/') ∨ spellsSlash more = true := by
  simp [spellsSlash]

theorem spellsSlash_add {r' : Ranges} (h : r.add c = .ok r')
    (hspells : spellsSlash r'.found = true) : spellsSlash r.found = true ∨ c = '/' := by
  unfold Ranges.add at h
  split at h
  · rename_i low high more hopen hfound
    split at h
    · cases h
    · obtain rfl := Except.ok.inj h
      rw [hfound, spellsSlash_cons]
      rw [spellsSlash_cons] at hspells
      tauto
  · obtain rfl := Except.ok.inj h
    rw [spellsSlash_cons] at hspells
    tauto

theorem readRanges_spec (h : readRanges r s = .ok (rs, rest)) :
    ∃ taken, s = taken ++ rest ∧
      (spellsSlash rs = true → spellsSlash r.found = true ∨ '/' ∈ taken) := by
  induction s generalizing r with
  | nil => cases h
  | cons c s ih =>
    rw [readRanges] at h
    split at h
    · obtain ⟨rfl, rfl⟩ := Prod.mk.inj (Except.ok.inj h)
      exact ⟨[c], rfl, fun hspells => .inl (spellsSlash_done r ▸ hspells)⟩
    · split at h
      · obtain ⟨taken, rfl, hspells⟩ := ih h
        exact ⟨c :: taken, rfl, fun hrs => (hspells hrs).imp_right (List.mem_cons_of_mem c)⟩
      · split at h
        · cases h
        · rename_i r' hadd
          obtain ⟨taken, rfl, hspells⟩ := ih h
          refine ⟨c :: taken, rfl, fun hrs => ?_⟩
          rcases hspells hrs with hfound | hmem
          · refine (spellsSlash_add hadd hfound).imp_right ?_
            rintro rfl
            exact List.mem_cons_self
          · exact .inr (List.mem_cons_of_mem c hmem)

theorem readClass_spec (h : readClass s = .ok (t, rest)) :
    ∃ taken, s = taken ++ rest ∧
      ∃ negated rs, t = .oneOf negated rs ∧ (spellsSlash rs = true → '/' ∈ taken) := by
  -- a sign of negation in front is no slash
  have hranges : ∀ (negated : Bool) (sign ranges : List Char),
      ((readRanges {} ranges).map fun found => (Token.oneOf negated found.1, found.2)) =
        .ok (t, rest) → ∃ taken, sign ++ ranges = taken ++ rest ∧
          ∃ negated rs, t = .oneOf negated rs ∧ (spellsSlash rs = true → '/' ∈ taken) := by
    intro negated sign ranges h
    cases hread : readRanges {} ranges with
    | error e =>
      rw [hread] at h
      cases h
    | ok found =>
      obtain ⟨rs, rest'⟩ := found
      rw [hread] at h
      obtain ⟨rfl, rfl⟩ := Prod.mk.inj (Except.ok.inj h)
      obtain ⟨taken, rfl, hspells⟩ := readRanges_spec hread
      refine ⟨sign ++ taken, (List.append_assoc ..).symm, negated, rs, rfl, fun hrs => ?_⟩
      exact List.mem_append_right sign ((hspells hrs).resolve_left nofun)
  unfold readClass at h
  split at h
  · exact hranges true ['!'] _ h
  · exact hranges true ['^'] _ h
  · exact hranges false [] _ h

/-- What is read adds no more slashes than it takes off the text. -/
theorem total_le_of_step {d d₁ d' : Draft} (taken : List Char)
    (hstars : ¬ ['*', '*'] <:+: taken ++ rest)
    (hstep : d₁.total slashesWritten ≤ d.total slashesWritten + (taken.count '/' : ℕ))
    (hrest : ¬ ['*', '*'] <:+: rest →
      d'.total slashesWritten ≤ d₁.total slashesWritten + (rest.count '/' : ℕ)) :
    d'.total slashesWritten ≤ d.total slashesWritten + ((taken ++ rest).count '/' : ℕ) := by
  have hrest' := hrest fun hmem => hstars (hmem.trans (List.suffix_append taken rest).isInfix)
  calc d'.total slashesWritten
    _ ≤ d₁.total slashesWritten + (rest.count '/' : ℕ) := hrest'
    _ ≤ d.total slashesWritten + (taken.count '/' : ℕ) + (rest.count '/' : ℕ) :=
      add_le_add_left hstep _
    _ = d.total slashesWritten + ((taken ++ rest).count '/' : ℕ) := by
      rw [List.count_append, Nat.cast_add, add_assoc]

theorem total_le_of_push {d d' : Draft} (taken : List Char)
    (hstars : ¬ ['*', '*'] <:+: taken ++ rest)
    (ht : t.total slashesWritten ≤ (taken.count '/' : ℕ))
    (hrest : ¬ ['*', '*'] <:+: rest →
      d'.total slashesWritten ≤ (d.push t).total slashesWritten + (rest.count '/' : ℕ)) :
    d'.total slashesWritten ≤ d.total slashesWritten + ((taken ++ rest).count '/' : ℕ) := by
  refine total_le_of_step taken hstars ?_ hrest
  rw [Draft.total_push, add_comm]
  exact add_le_add_right ht _

theorem total_literal_le (c : Char) :
    (Token.literal c).total slashesWritten ≤ ([c].count '/' : ℕ) := by
  simp only [Token.total, slashesWritten, List.count_singleton, beq_iff_eq, Nat.cast_ite]
  split <;> simp

theorem total_oneOf_le (negated : Bool) {taken : List Char}
    (h : spellsSlash rs = true → '/' ∈ taken) :
    (Token.oneOf negated rs).total slashesWritten ≤ (('[' :: taken).count '/' : ℕ) := by
  simp only [Token.total, slashesWritten]
  split
  · rename_i hspells
    exact_mod_cast List.count_pos_iff.2 (List.mem_cons_of_mem '[' (h hspells))
  · exact zero_le

theorem total_readFrom {d d' : Draft} {prev : Option Char} (h : readFrom d prev s = .ok d')
    (hstars : ¬ ['*', '*'] <:+: s) :
    d'.total slashesWritten ≤ d.total slashesWritten + (s.count '/' : ℕ) := by
  -- each step of the reader adds at most as many slashes as the characters that it takes
  fun_induction readFrom d prev s with
  | case1 d =>
    obtain rfl := Except.ok.inj h
    exact le_self_add
  | case2 d prev rest ih => exact total_le_of_push ['?'] hstars zero_le (ih h)
  | case3 d prev rest => exact absurd (List.prefix_append ['*', '*'] rest).isInfix hstars
  | case4 d prev rest => exact absurd (List.prefix_append ['*', '*'] rest).isInfix hstars
  | case5 d prev rest _ ih => exact total_le_of_push ['*'] hstars zero_le (ih h)
  | case6 => cases h
  | case7 d prev rest t rest' hclass _ ih =>
    obtain ⟨taken, rfl, negated, rs, rfl, hspells⟩ := readClass_spec hclass
    exact total_le_of_push ('[' :: taken) hstars (total_oneOf_le negated hspells) (ih h)
  | case8 d prev rest ih =>
    exact total_le_of_step ['\x7b'] hstars ((Draft.total_openGroup _ d).le.trans le_self_add) (ih h)
  | case9 => cases h
  | case10 d prev rest d₁ hclose ih =>
    exact total_le_of_step ['\x7d'] hstars ((Draft.total_closeGroup hclose).le.trans le_self_add)
      (ih h)
  | case11 d prev rest ih =>
    exact total_le_of_step [','] hstars ((Draft.total_comma rfl d).le.trans le_self_add) (ih h)
  | case12 => cases h
  | case13 d prev c rest ih =>
    refine total_le_of_push ['\\', c] hstars ?_ (ih h)
    exact total_literal_le c
  | case14 d prev c rest _ _ _ _ _ _ _ _ ih =>
    exact total_le_of_push [c] hstars (total_literal_le c) (ih h)

/-- Without two stars in a row the slashes of a pattern are written in its text. -/
theorem totalOf_slashesWritten_le {text : String} (h : parse text = .ok ts)
    (hstars : ¬ ['*', '*'] <:+: text.toList) :
    totalOf slashesWritten ts ≤ (text.toList.count '/' : ℕ) := by
  unfold parse at h
  split at h
  · cases h
  · rename_i d hread
    split at h
    · rename_i hgroups
      obtain rfl := Except.ok.inj h
      have htotal : d.total slashesWritten = totalOf slashesWritten d.branch := by
        rw [Draft.total, List.isEmpty_iff.1 hgroups]
        exact add_zero _
      rw [totalOf_reverse, ← htotal]
      refine (total_readFrom hread hstars).trans_eq ?_
      exact zero_add _
    · cases h

end Reading

/-! ## Paths that patterns match -/

theorem count_slash_le_of_matchesPath {p : Pattern} {path : String}
    (h : p.matchesPath path = true) : (path.toList.count '/' : ℕ∞) ≤ reachOf p.tokens := by
  have hcount : (Text.bytes path).count slash = path.toList.count '/' :=
    Text.count_ascii_bytes (show '/'.toNat < 0x80 by decide) path
  unfold Pattern.matchesPath at h
  split at h
  · rename_i htokens
    rw [htokens]
    exact le_top
  · split at h
    · cases h
    · rw [← hcount]
      exact count_slash_le_reachOf _ ((accepts_iff _ _).1 h)

/-- A path that passes some filter until a pattern is added to those that it excludes. -/
def IsRemovedBy (engine : Engine) (text path : String) : Prop :=
  ∃ includes before after f g, Filter.ofPatterns engine includes (before ++ after) = .ok f ∧
    Filter.ofPatterns engine includes (before ++ text :: after) = .ok g ∧
      f.lets path = true ∧ g.lets path = false

theorem passes_of_isRemovedBy {engine : Engine} {text path : String}
    (h : IsRemovedBy engine text path) : passes engine text path = true := by
  obtain ⟨includes, before, after, f, g, hf, hg, hlets, hnot⟩ := h
  rw [lets_eq hf] at hlets
  rw [lets_eq hg] at hnot
  simp only [letThrough, List.any_append, Bool.and_eq_true, Bool.not_eq_true',
    Bool.or_eq_false_iff] at hlets
  obtain ⟨hincluded, hbefore, hafter⟩ := hlets
  simpa [letThrough, hincluded, hbefore, hafter] using hnot

theorem parse_of_usable {engine : Engine} {text : String} {p : Pattern}
    (h : Usable engine text p) : parse text = .ok p.tokens := by
  have hread := h.read
  unfold Pattern.ofString at hread
  cases hparse : parse text with
  | error e =>
    rw [hparse] at hread
    cases hread
  | ok ts =>
    rw [hparse] at hread
    obtain rfl := Except.ok.inj hread
    rfl

/-- Without two stars in a row a pattern matches, and removes, no path that is deeper than its
classes and literals reach. That is as deep as there are slashes written in the pattern, and at most
one level further for each class that stands for a slash without having one written in it. -/
theorem slashes_le_of_passes {engine : Engine} {text : String}
    (hvalid : isValid engine text = true)
    (hstars : ¬ ['*', '*'] <:+: text.toList) :
    ∃ ts, parse text = .ok ts ∧
      ∀ path, passes engine text path = true ∨ IsRemovedBy engine text path →
        (path.toList.count '/' : ℕ∞) ≤ reachOf ts ∧
          path.toList.count '/' ≤ text.toList.count '/' + crossings ts := by
  obtain ⟨p, hp⟩ := isValid_iff.1 hvalid
  have hparse := parse_of_usable hp
  refine ⟨p.tokens, hparse, fun path hpath => ?_⟩
  have hmatches : p.matchesPath path = true := by
    rw [← passes_eq hp]
    exact hpath.elim id passes_of_isRemovedBy
  have hreach : (path.toList.count '/' : ℕ∞) ≤ reachOf p.tokens :=
    count_slash_le_of_matchesPath hmatches
  refine ⟨hreach, ?_⟩
  have hwritten : reachOf p.tokens ≤ (text.toList.count '/' + crossings p.tokens : ℕ) := by
    rw [Nat.cast_add]
    exact (reachOf_le p.tokens).trans
      (add_le_add_left (totalOf_slashesWritten_le hparse hstars) _)
  exact_mod_cast hreach.trans hwritten

/-- A class with a slash written in it, and one that stands for all but a slash. -/
theorem slashes_le_of_spelled_class :
    let text := "\x7bsrc,a/b\x7d[+/]*[!/].txt"
    isValid {} text = true ∧ ¬ ['*', '*'] <:+: text.toList ∧ passes {} text "a/b/job1.txt" = true ∧
      ∃ ts, parse text = .ok ts ∧ crossings ts = 0 ∧
        ∀ path, passes {} text path = true → path.toList.count '/' ≤ 3 := by
  intro text
  have hvalid : isValid {} text = true := by decide +kernel
  have hstars : ¬ ['*', '*'] <:+: text.toList := by decide +kernel
  obtain ⟨ts, hparse, hbound⟩ := slashes_le_of_passes hvalid hstars
  have hcrossings : (parse text).map crossings = .ok 0 := by decide +kernel
  rw [hparse] at hcrossings
  have hzero : crossings ts = 0 := Except.ok.inj hcrossings
  refine ⟨hvalid, hstars, by decide +kernel, ts, hparse, hzero, fun path hpath => ?_⟩
  have hwritten : text.toList.count '/' = 3 := by decide +kernel
  have hle := (hbound path (.inl hpath)).2
  rwa [hzero, hwritten] at hle

/-- A class that is negated stands for a slash too. -/
theorem slash_beyond_written_of_negated_class :
    let text := "a[!b]c"
    isValid {} text = true ∧ ¬ ['*', '*'] <:+: text.toList ∧ passes {} text "a/c" = true ∧
      text.toList.count '/' < "a/c".toList.count '/' := by
  decide +kernel

end BlobDepot.Glob
