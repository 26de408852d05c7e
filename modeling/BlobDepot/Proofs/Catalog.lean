import BlobDepot.Catalog
import BlobDepot.Proofs.Text
import Mathlib.Data.List.Induction
import Mathlib.Data.List.Nodup
import Mathlib.Data.List.Perm.Basic

/-!
# Looking up and searching catalogs

A lookup tells what an insertion put there. Texts that start alike stand together in the order of
texts, so the run of entries under a prefix is all of them.
-/
namespace BlobDepot

namespace Catalog

variable {α : Type} {c : Catalog α} {key : String} {value : α}

/-! ## Lookups -/

theorem find?_eq_some_of_mem {l : List (String × α)} (h : l.Pairwise fun a b => a.1 < b.1)
    (hmem : (key, value) ∈ l) : (l.find? fun e => e.1 = key) = some (key, value) := by
  induction l with
  | nil => simp at hmem
  | cons a l ih =>
    obtain ⟨hlt, hl⟩ := List.pairwise_cons.1 h
    rcases List.mem_cons.1 hmem with rfl | hmem
    · exact List.find?_cons_of_pos (by simp)
    · have hne : a.1 ≠ key := String.ne_of_lt (hlt _ hmem)
      rw [List.find?_cons_of_neg (by simpa using hne)]
      exact ih hl hmem

theorem get?_eq_some_iff : c.get? key = some value ↔ (key, value) ∈ c.entries := by
  constructor
  · intro h
    obtain ⟨e, hfind, rfl⟩ := Option.map_eq_some_iff.1 h
    have hkey : e.1 = key := by simpa using List.find?_some hfind
    exact hkey ▸ List.mem_of_find?_eq_some hfind
  · intro h
    rw [get?, find?_eq_some_of_mem c.sorted h, Option.map_some]

theorem mem_insertEntry_iff {l : List (String × α)} (h : l.Pairwise fun a b => a.1 < b.1)
    {e : String × α} :
    e ∈ insertEntry key value l ↔ e = (key, value) ∨ e ∈ l ∧ e.1 ≠ key := by
  induction l with
  | nil => simp [insertEntry]
  | cons a l ih =>
    obtain ⟨k, v⟩ := a
    obtain ⟨hlt, hl⟩ := List.pairwise_cons.1 h
    simp only [insertEntry]
    split
    · rename_i hkey
      have hne : e ∈ (k, v) :: l → e.1 ≠ key := by
        intro he
        rcases List.mem_cons.1 he with rfl | he
        · exact (String.ne_of_lt hkey).symm
        · exact (String.ne_of_lt (String.lt_trans hkey (hlt e he))).symm
      rw [List.mem_cons]
      exact or_congr_right ⟨fun he => ⟨he, hne he⟩, And.left⟩
    · split
      · rename_i hkey
        subst hkey
        have hne : e ∈ l → e.1 ≠ key := fun he => (String.ne_of_lt (hlt e he)).symm
        simp only [List.mem_cons]
        constructor
        · rintro (he | he)
          · exact .inl he
          · exact .inr ⟨.inr he, hne he⟩
        · rintro (he | ⟨rfl | he, hkey⟩)
          · exact .inl he
          · exact absurd rfl hkey
          · exact .inr he
      · rename_i hkey
        rw [List.mem_cons, List.mem_cons, ih hl]
        constructor
        · rintro (rfl | he | ⟨he, hne⟩)
          · exact .inr ⟨.inl rfl, Ne.symm hkey⟩
          · exact .inl he
          · exact .inr ⟨.inr he, hne⟩
        · rintro (he | ⟨rfl | he, hne⟩)
          · exact .inr (.inl he)
          · exact .inl rfl
          · exact .inr (.inr ⟨he, hne⟩)

theorem get?_insert (c : Catalog α) (key key' : String) (value : α) :
    (c.insert key value).get? key' = if key' = key then some value else c.get? key' := by
  ext v
  rw [get?_eq_some_iff, entries_insert, mem_insertEntry_iff c.sorted]
  by_cases h : key' = key
  · simp [h, eq_comm]
  · simp [h, get?_eq_some_iff]

theorem contains_eq (c : Catalog α) (key : String) : c.contains key = (c.get? key).isSome := by
  rw [contains, get?, Option.isSome_map, Bool.eq_iff_iff, List.find?_isSome, List.any_eq_true]

theorem get?_insertNew (c : Catalog α) (key key' : String) (value : α) :
    (c.insertNew key value).get? key' =
      if key' = key then (c.get? key').or (some value) else c.get? key' := by
  rw [insertNew, contains_eq]
  cases hfound : c.get? key with
  | none =>
    rw [if_neg (by simp), get?_insert]
    by_cases h : key' = key
    · simp [h, hfound]
    · simp [h]
  | some v =>
    rw [if_pos (by simp)]
    by_cases h : key' = key
    · simp [h, hfound]
    · simp [h]

/-- Something follows a text in the key of a value if there is none under the text itself. -/
theorem ne_empty_of_get?_append {start below : String} (hnone : c.get? start = none)
    (h : c.get? (start ++ below) = some value) : below ≠ "" := by
  rintro rfl
  rw [String.append_empty, hnone] at h
  cases h

/-! ## Keys and values -/

theorem mem_keys_iff : key ∈ c.keys ↔ ∃ value, c.get? key = some value := by
  simp [keys, get?_eq_some_iff]

theorem mem_values_iff : value ∈ c.values ↔ ∃ key, c.get? key = some value := by
  simp [values, get?_eq_some_iff]

theorem pairwise_keys (c : Catalog α) : c.keys.Pairwise (· < ·) :=
  c.sorted.map Prod.fst fun _ _ h => h

theorem mem_keys_ofKeys {ks : List String} : key ∈ (ofKeys ks).keys ↔ key ∈ ks := by
  have hfold : ∀ (l : List String) (c : Catalog Unit),
      (l.foldl (fun c k => c.insert k ()) c).get? key = some () ↔
        key ∈ l ∨ c.get? key = some () := by
    intro l
    induction l with
    | nil => simp
    | cons k l ih =>
      intro c
      rw [List.foldl_cons, ih, get?_insert, List.mem_cons]
      by_cases h : key = k
      · simp [h]
      · simp [h]
  have hempty : (empty : Catalog Unit).get? key = none := rfl
  rw [mem_keys_iff, ofKeys]
  simp [hfold, hempty]

/-! ## The last value under each key -/

section Latest

variable {β : Type} {f : β → String} {l : List β} {x : β}

/-- The last element of a list under each key, in the order of the list. -/
def latest (f : β → String) : List β → List β
  | [] => []
  | x :: l => if ∃ y ∈ l, f y = f x then latest f l else x :: latest f l

theorem latest_sublist (f : β → String) (l : List β) : (latest f l).Sublist l := by
  induction l with
  | nil => exact List.Sublist.refl []
  | cons x l ih =>
    rw [latest]
    split
    · exact ih.cons x
    · exact ih.cons_cons x

theorem nodup_latest (f : β → String) (l : List β) : ((latest f l).map f).Nodup := by
  induction l with
  | nil => exact List.nodup_nil
  | cons x l ih =>
    rw [latest]
    split
    · exact ih
    · rename_i hnone
      refine List.nodup_cons.2 ⟨fun hmem => hnone ?_, ih⟩
      obtain ⟨y, hy, heq⟩ := List.mem_map.1 hmem
      exact ⟨y, (latest_sublist f l).subset hy, heq⟩

theorem latest_eq_self (h : (l.map f).Nodup) : latest f l = l := by
  induction l with
  | nil => rfl
  | cons x l ih =>
    obtain ⟨hx, hl⟩ := List.nodup_cons.1 h
    rw [latest, if_neg fun ⟨y, hy, heq⟩ => hx (heq ▸ List.mem_map_of_mem hy), ih hl]

/-- Behind the last element under a key none has that key. -/
theorem mem_latest_iff :
    x ∈ latest f l ↔ ∃ before after, l = before ++ x :: after ∧ ∀ y ∈ after, f y ≠ f x := by
  induction l with
  | nil => simp [latest]
  | cons a l ih =>
    constructor
    · intro hx
      by_cases hmem : x ∈ latest f l
      · obtain ⟨before, after, rfl, hafter⟩ := ih.1 hmem
        exact ⟨a :: before, after, rfl, hafter⟩
      · rw [latest] at hx
        split at hx
        · exact absurd hx hmem
        · rename_i hnone
          obtain rfl : x = a := (List.mem_cons.1 hx).resolve_right hmem
          exact ⟨[], l, rfl, fun y hy heq => hnone ⟨y, hy, heq⟩⟩
    · rintro ⟨before, after, hl, hafter⟩
      cases before with
      | nil =>
        obtain ⟨rfl, rfl⟩ := List.cons.inj hl
        rw [latest, if_neg fun ⟨y, hy, heq⟩ => hafter y hy heq]
        exact List.mem_cons_self
      | cons b before =>
        obtain ⟨-, rfl⟩ := List.cons.inj hl
        have hmem := ih.2 ⟨before, after, rfl, hafter⟩
        rw [latest]
        split
        · exact hmem
        · exact List.mem_cons_of_mem _ hmem

theorem find?_reverse_eq_some_iff :
    (l.reverse.find? fun y => f y = key) = some x ↔ x ∈ latest f l ∧ f x = key := by
  rw [List.find?_eq_some_iff_append, mem_latest_iff, decide_eq_true_eq, and_comm]
  refine and_congr_left fun hkey => ?_
  constructor
  · rintro ⟨later, earlier, heq, hlater⟩
    refine ⟨earlier.reverse, later.reverse, ?_, fun y hy => ?_⟩
    · simpa using congrArg List.reverse heq
    · simpa [hkey] using hlater y (List.mem_reverse.1 hy)
  · rintro ⟨before, after, rfl, hafter⟩
    refine ⟨after.reverse, before.reverse, by simp, fun y hy => ?_⟩
    simpa [← hkey] using hafter y (List.mem_reverse.1 hy)

theorem get?_foldl_insert (l : List (String × α)) (key : String) :
    (l.foldl (fun c e => c.insert e.1 e.2) empty).get? key =
      (l.reverse.find? fun e => e.1 = key).map Prod.snd := by
  induction l using List.reverseRecOn with
  | nil => rfl
  | append_singleton l e ih =>
    rw [List.foldl_append, List.foldl_cons, List.foldl_nil, get?_insert, ih, List.reverse_concat,
      List.find?_cons]
    by_cases hkey : e.1 = key
    · simp [hkey]
    · simp [hkey, Ne.symm hkey]

theorem mem_entries_foldl_insert_iff {l : List (String × α)} {e : String × α} :
    e ∈ (l.foldl (fun c e => c.insert e.1 e.2) empty).entries ↔ e ∈ latest Prod.fst l := by
  rw [← get?_eq_some_iff, get?_foldl_insert, Option.map_eq_some_iff]
  constructor
  · rintro ⟨e', hfind, hvalue⟩
    obtain ⟨hmem, hkey⟩ := find?_reverse_eq_some_iff.1 hfind
    exact Prod.ext hkey hvalue ▸ hmem
  · intro hmem
    exact ⟨e, find?_reverse_eq_some_iff.2 ⟨hmem, rfl⟩, rfl⟩

theorem nodup_entries (c : Catalog α) : c.entries.Nodup :=
  c.sorted.imp fun hlt heq => String.ne_of_lt hlt (congrArg Prod.fst heq)

theorem perm_entries_foldl_insert (l : List (String × α)) :
    (l.foldl (fun c e => c.insert e.1 e.2) empty).entries.Perm (latest Prod.fst l) :=
  (List.perm_ext_iff_of_nodup (nodup_entries _) ((nodup_latest Prod.fst l).of_map _)).2
    fun _ => mem_entries_foldl_insert_iff

theorem lookup_eq_some_iff_mem {l : List (String × α)} (h : (l.map Prod.fst).Nodup) :
    l.lookup key = some value ↔ (key, value) ∈ l := by
  induction l with
  | nil => simp
  | cons e l ih =>
    obtain ⟨hfresh, hl⟩ := List.nodup_cons.1 h
    rw [List.lookup_cons, List.mem_cons, Prod.ext_iff]
    by_cases hkey : key = e.1
    · have hnot : (e.1, value) ∉ l := fun hmem =>
        hfresh (List.mem_map.2 ⟨_, hmem, rfl⟩)
      simp [hkey, hnot, eq_comm]
    · have hbeq : (key == e.1) = false := by simpa using hkey
      simp [hbeq, hkey, ih hl]

end Latest

/-! ## Prefixes -/

section Prefix

variable {β : Type} {P : β → Bool} {l : List β}

theorem takeWhile_eq_filter (h : l.Pairwise fun x y => P y = true → P x = true) :
    l.takeWhile P = l.filter P := by
  induction l with
  | nil => rfl
  | cons a l ih =>
    obtain ⟨ha, hl⟩ := List.pairwise_cons.1 h
    by_cases hP : P a = true
    · rw [List.takeWhile_cons_of_pos hP, List.filter_cons_of_pos hP, ih hl]
    · have hnone : l.filter P = [] := List.filter_eq_nil_iff.2 fun b hb hPb => hP (ha b hb hPb)
      rw [List.takeWhile_cons_of_neg hP, List.filter_cons_of_neg hP, hnone]

theorem dropWhile_eq_filter (h : l.Pairwise fun x y => P y = true → P x = true) :
    l.dropWhile P = l.filter fun x => !P x := by
  induction l with
  | nil => rfl
  | cons a l ih =>
    obtain ⟨ha, hl⟩ := List.pairwise_cons.1 h
    by_cases hP : P a = true
    · rw [List.dropWhile_cons_of_pos hP, List.filter_cons_of_neg (by simpa using hP), ih hl]
    · have hall : (l.filter fun x => !P x) = l :=
        List.filter_eq_self.2 fun b hb => by simpa using fun hPb => hP (ha b hb hPb)
      rw [List.dropWhile_cons_of_neg hP, List.filter_cons_of_pos (by simpa using hP), hall]

end Prefix

theorem dropWhile_lt_eq_filter {l : List (String × α)} (h : l.Pairwise fun a b => a.1 < b.1)
    (start : String) :
    (l.dropWhile fun e => e.1 < start) = l.filter fun e => !(decide (e.1 < start)) := by
  refine dropWhile_eq_filter (h.imp fun {a b} hab hb => ?_)
  have hlt : b.1 < start := of_decide_eq_true hb
  exact decide_eq_true (String.lt_trans hab hlt)

theorem atLeast_eq_filter (c : Catalog α) (start : String) :
    c.atLeast start = c.entries.filter fun e => !(decide (e.1 < start)) :=
  dropWhile_lt_eq_filter c.sorted start

theorem under_eq_filter (c : Catalog α) (start : String) :
    c.under start = c.entries.filter fun e => Text.startsWith start e.1 := by
  have hsorted : (c.atLeast start).Pairwise fun x y =>
      Text.startsWith start y.1 = true → Text.startsWith start x.1 = true := by
    rw [atLeast_eq_filter]
    refine (c.sorted.filter _).imp_of_mem fun {a b} ha _ hab hb => ?_
    have hstart : start ≤ a.1 := by
      simpa only [Bool.not_eq_true', decide_eq_false_iff_not, String.not_lt] using
        (List.mem_filter.1 ha).2
    exact Text.startsWith_of_le_of_le hstart (Std.le_of_lt hab) hb
  rw [under, takeWhile_eq_filter hsorted, atLeast_eq_filter, List.filter_filter]
  refine List.filter_congr fun e _ => ?_
  cases hs : Text.startsWith start e.1 with
  | false => rfl
  | true =>
    rw [Bool.true_and, decide_eq_false (String.not_lt.2 (Text.le_of_startsWith hs))]
    rfl

theorem hasUnder_eq (c : Catalog α) (start : String) :
    c.hasUnder start = !(c.under start).isEmpty := by
  cases h : c.atLeast start with
  | nil => simp [hasUnder, under, h]
  | cons e l => cases hs : Text.startsWith start e.1 <;> simp [hasUnder, under, h, hs]

theorem hasUnder_iff {start : String} :
    c.hasUnder start = true ↔ ∃ k v, c.get? k = some v ∧ Text.startsWith start k = true := by
  simp only [hasUnder_eq, under_eq_filter, get?_eq_some_iff, Bool.not_eq_true',
    List.isEmpty_eq_false_iff_exists_mem, List.mem_filter, Prod.exists]

end Catalog
end BlobDepot
