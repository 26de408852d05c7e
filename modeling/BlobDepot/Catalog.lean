import BlobDepot.Text.Basic

/-!
# Catalogs

A catalog keeps values under texts, in increasing order of the texts. Texts are compared by
their characters, so those that start alike stand together, and the entries under a prefix are
a run that begins at the first text not below it.
-/
namespace BlobDepot

/-- Values under distinct texts in increasing order. -/
structure Catalog (α : Type) where
  entries : List (String × α)
  sorted : entries.Pairwise fun a b => a.1 < b.1

namespace Catalog

variable {α : Type}

/-- Puts a value under a key into a sorted list, in place of an earlier one. -/
def insertEntry (key : String) (value : α) : List (String × α) → List (String × α)
  | [] => [(key, value)]
  | (k, v) :: rest =>
    if key < k then (key, value) :: (k, v) :: rest
    else if key = k then (key, value) :: rest
    else (k, v) :: insertEntry key value rest

theorem mem_insertEntry {key : String} {value : α} {l : List (String × α)} {e : String × α}
    (h : e ∈ insertEntry key value l) : e = (key, value) ∨ e ∈ l := by
  induction l with
  | nil => simpa [insertEntry] using h
  | cons a rest ih =>
    obtain ⟨k, v⟩ := a
    simp only [insertEntry] at h
    split at h
    · simpa using h
    · split at h
      · rcases List.mem_cons.1 h with h | h
        · exact .inl h
        · exact .inr (List.mem_cons_of_mem _ h)
      · rcases List.mem_cons.1 h with rfl | h
        · exact .inr List.mem_cons_self
        · exact (ih h).imp_right (List.mem_cons_of_mem _)

theorem pairwise_insertEntry {key : String} {value : α} {l : List (String × α)}
    (h : l.Pairwise fun a b => a.1 < b.1) :
    (insertEntry key value l).Pairwise fun a b => a.1 < b.1 := by
  induction l with
  | nil => simp [insertEntry]
  | cons a rest ih =>
    obtain ⟨k, v⟩ := a
    obtain ⟨hk, hrest⟩ := List.pairwise_cons.1 h
    simp only [insertEntry]
    split
    · rename_i hlt
      refine List.pairwise_cons.2 ⟨fun e he => ?_, h⟩
      rcases List.mem_cons.1 he with rfl | he
      · exact hlt
      · exact String.lt_trans hlt (hk e he)
    · split
      · rename_i heq
        exact List.pairwise_cons.2 ⟨fun e he => heq ▸ hk e he, hrest⟩
      · rename_i hlt hne
        refine List.pairwise_cons.2 ⟨fun e he => ?_, ih hrest⟩
        rcases mem_insertEntry he with rfl | he
        · exact Std.lt_of_le_of_ne (String.not_lt.1 hlt) (Ne.symm hne)
        · exact hk e he

def empty : Catalog α :=
  ⟨[], List.Pairwise.nil⟩

instance : Inhabited (Catalog α) := ⟨empty⟩

def get? (c : Catalog α) (key : String) : Option α :=
  (c.entries.find? fun e => e.1 = key).map Prod.snd

def contains (c : Catalog α) (key : String) : Bool :=
  c.entries.any fun e => e.1 = key

def insert (c : Catalog α) (key : String) (value : α) : Catalog α :=
  ⟨insertEntry key value c.entries, pairwise_insertEntry c.sorted⟩

def insertNew (c : Catalog α) (key : String) (value : α) : Catalog α :=
  if c.contains key then c else c.insert key value

def ofKeys (ks : List String) : Catalog Unit :=
  ks.foldl (fun c k => c.insert k ()) empty

def erase (c : Catalog α) (key : String) : Catalog α :=
  ⟨c.entries.filter fun e => e.1 ≠ key, c.sorted.filter _⟩

def size (c : Catalog α) : Nat :=
  c.entries.length

def keys (c : Catalog α) : List String :=
  c.entries.map Prod.fst

def values (c : Catalog α) : List α :=
  c.entries.map Prod.snd

/-- The entries from the first key that is not below `key`. -/
def atLeast (c : Catalog α) (key : String) : List (String × α) :=
  c.entries.dropWhile fun e => e.1 < key

def above (c : Catalog α) (key : String) : List (String × α) :=
  c.entries.dropWhile fun e => e.1 ≤ key

/-- The run of entries whose keys start with `start`, found from the first key not below it. -/
def under (c : Catalog α) (start : String) : List (String × α) :=
  (c.atLeast start).takeWhile fun e => Text.startsWith start e.1

def hasUnder (c : Catalog α) (start : String) : Bool :=
  match c.atLeast start with
  | [] => false
  | e :: _ => Text.startsWith start e.1

@[simp] theorem entries_empty : (empty : Catalog α).entries = [] := rfl

@[simp] theorem entries_insert (c : Catalog α) (key : String) (value : α) :
    (c.insert key value).entries = insertEntry key value c.entries := rfl

end Catalog
end BlobDepot
