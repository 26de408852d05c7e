import BlobDepot.Proofs.Catalog
import BlobDepot.Proofs.Json.Writing
import BlobDepot.Proofs.Transfer.Attempts

/-!
# Stored settings

A policy that is written as JSON is read as the same policy again. A JSON object that gives some of
the settings, in any order and among fields of other names, is read as the plain policy with those
settings in place of its own.
-/
namespace BlobDepot

namespace Json

variable {key : String} {v : Json} {known : List String} {fields : List (String × Json)}

def named (fields : List (String × Json)) : Json :=
  .object (fields.map fun f => (some f.1.toList, f.2))

theorem lookup_eq (key : String) (fields : List (String × Json)) :
    lookup key fields = fields.lookup key := by
  induction fields with
  | nil => rfl
  | cons f fields ih =>
    rw [List.lookup_cons, ← ih, lookup, lookup, List.find?_cons]
    by_cases hkey : f.1 = key
    · simp [hkey]
    · have hbeq : (key == f.1) = false := by simpa using Ne.symm hkey
      simp [hkey, hbeq]

/-- The fields under the known keys, where none of these is there twice. -/
theorem record?_named (h : ((fields.filter fun f => known.contains f.1).map Prod.fst).Nodup) :
    record? known (fields.map fun f => (some f.1.toList, f.2)) =
      some (fields.filter fun f => known.contains f.1) := by
  have hnamed : (fields.map fun f => (some f.1.toList, f.2)).mapM
      (fun f : Option (List Char) × Json => f.1.map fun cs => (String.ofList cs, f.2)) =
        some fields := by
    clear h
    induction fields with
    | nil => rfl
    | cons f fields ih => simp [ih]
  rw [record?]
  simp only [hnamed]
  exact if_pos h

end Json

namespace Policy

/-! ## Settings -/

structure Settings where
  budget : Option UInt32 := none
  base : Option UInt64 := none
  ceiling : Option UInt64 := none
  limit : Option UInt64 := none
  deadline : Option (Option UInt64) := none

/-- How a deadline is written, which may be absent. -/
def writeDeadline (d : Option UInt64) : Json :=
  d.elim .null fun n => .ofNat n.toNat

namespace Settings

def values (g : Settings) : List (String × Option Json) :=
  [("max_attempts", g.budget.map fun n => .ofNat n.toNat),
    ("base_backoff_ms", g.base.map fun n => .ofNat n.toNat),
    ("max_backoff_ms", g.ceiling.map fun n => .ofNat n.toNat),
    ("attempt_timeout_ms", g.limit.map fun n => .ofNat n.toNat),
    ("overall_deadline_ms", g.deadline.map writeDeadline)]

def fields (g : Settings) : List (String × Json) :=
  g.values.filterMap fun f => f.2.map fun v => (f.1, v)

def replaceIn (g : Settings) (p : Policy) : Policy where
  budget := g.budget.getD p.budget
  base := g.base.getD p.base
  ceiling := g.ceiling.getD p.ceiling
  limit := g.limit.getD p.limit
  deadline := g.deadline.getD p.deadline

variable {g : Settings} {name : String} {v : Json} {fields others : List (String × Json)}

theorem mem_fields_iff : (name, v) ∈ g.fields ↔ (name, some v) ∈ g.values := by
  simp [Settings.fields]

theorem sublist_names (l : List (String × Option Json)) :
    ((l.filterMap fun f => f.2.map fun v => (f.1, v)).map Prod.fst).Sublist (l.map Prod.fst) := by
  induction l with
  | nil => exact .slnil
  | cons f l ih =>
    obtain ⟨name, v⟩ := f
    cases v with
    | none => exact ih.cons name
    | some v => exact ih.cons_cons name

theorem names_sublist (g : Settings) : (g.fields.map Prod.fst).Sublist fieldNames :=
  sublist_names g.values

theorem nodup_fieldNames : fieldNames.Nodup := by decide

/-- Of the fields in any order among others, those under the known names are the ones that give the
settings. -/
theorem known_perm (hunknown : ∀ f ∈ others, f.1 ∉ fieldNames)
    (horder : fields.Perm (g.fields ++ others)) :
    (fields.filter fun f => fieldNames.contains f.1).Perm g.fields := by
  have hgiven : g.fields.filter (fun f => fieldNames.contains f.1) = g.fields :=
    List.filter_eq_self.2 fun f hf =>
      List.contains_iff_mem.2 (g.names_sublist.subset (List.mem_map_of_mem hf))
  have hothers : others.filter (fun f => fieldNames.contains f.1) = [] :=
    List.filter_eq_nil_iff.2 fun f hf hmem => hunknown f hf (List.contains_iff_mem.1 hmem)
  have hperm := horder.filter fun f => fieldNames.contains f.1
  rwa [List.filter_append, hgiven, hothers, List.append_nil] at hperm

theorem lookup_known {known : List (String × Json)} (h : known.Perm g.fields) (name : String) :
    Json.lookup name known = (g.values.lookup name).join := by
  have hknown : (known.map Prod.fst).Nodup :=
    (h.map Prod.fst).nodup_iff.2 (g.names_sublist.nodup nodup_fieldNames)
  have hnames : (g.values.map Prod.fst).Nodup := nodup_fieldNames
  ext v
  rw [Json.lookup_eq, Catalog.lookup_eq_some_iff_mem hknown, h.mem_iff, mem_fields_iff,
    Option.join_eq_some_iff]
  exact (Catalog.lookup_eq_some_iff_mem hnames).symm

end Settings

/-! ## Values of settings -/

theorem word32?_ofNat (n : UInt32) : word32? (.ofNat n.toNat) = some n := by
  rw [word32?, below?, Json.natural?_ofNat, Option.filter_some, if_pos (by simpa using n.toNat_lt)]
  exact congrArg some (UInt32.ofNat_toNat)

theorem word64?_ofNat (n : UInt64) : word64? (.ofNat n.toNat) = some n := by
  rw [word64?, below?, Json.natural?_ofNat, Option.filter_some, if_pos (by simpa using n.toNat_lt)]
  exact congrArg some (UInt64.ofNat_toNat)

theorem deadline?_writeDeadline (d : Option UInt64) : deadline? (writeDeadline d) = some d := by
  cases d with
  | none => rfl
  | some n => exact congrArg (Option.map some) (word64?_ofNat n)

theorem fieldOr_map {α : Type} {read : Json → Option α} {write : α → Json}
    (h : ∀ a, read (write a) = some a) (default : α) (given : Option α) :
    fieldOr read default (given.map write) = some (given.getD default) := by
  cases given with
  | none => rfl
  | some a => exact h a

/-! ## Reading -/

theorem ofFields?_values {g : Settings} {field : String → Option Json}
    (h : ∀ name, field name = (g.values.lookup name).join) :
    ofFields? field = some (g.replaceIn {}) := by
  have hbudget : field "max_attempts" = g.budget.map fun n => .ofNat n.toNat := h _
  have hbase : field "base_backoff_ms" = g.base.map fun n => .ofNat n.toNat := h _
  have hceiling : field "max_backoff_ms" = g.ceiling.map fun n => .ofNat n.toNat := h _
  have hlimit : field "attempt_timeout_ms" = g.limit.map fun n => .ofNat n.toNat := h _
  have hdeadline : field "overall_deadline_ms" = g.deadline.map writeDeadline := h _
  rw [ofFields?, hbudget, hbase, hceiling, hlimit, hdeadline, fieldOr_map word32?_ofNat,
    fieldOr_map word64?_ofNat, fieldOr_map word64?_ofNat, fieldOr_map word64?_ofNat,
    fieldOr_map deadline?_writeDeadline]
  rfl

theorem ofJson?_named {g : Settings} {fields others : List (String × Json)}
    (hunknown : ∀ f ∈ others, f.1 ∉ fieldNames) (horder : fields.Perm (g.fields ++ others)) :
    ofJson? (.named fields) = some (g.replaceIn {}) := by
  have hknown := Settings.known_perm hunknown horder
  have hnodup := (hknown.map Prod.fst).nodup_iff.2 (g.names_sublist.nodup Settings.nodup_fieldNames)
  rw [Json.named, ofJson?, Json.record?_named hnodup]
  exact ofFields?_values (Settings.lookup_known hknown)

/-! ## Writing -/

def settings (p : Policy) : Settings where
  budget := some p.budget
  base := some p.base
  ceiling := some p.ceiling
  limit := some p.limit
  deadline := some p.deadline

theorem isProper_toJson (p : Policy) : p.toJson.IsProper := by
  have hdeadline : (writeDeadline p.deadline).IsProper := by
    cases p.deadline with
    | none => trivial
    | some n => exact Json.isNumber_toDigits n.toNat
  exact ⟨Json.isNumber_toDigits _, Json.isNumber_toDigits _, Json.isNumber_toDigits _,
    Json.isNumber_toDigits _, hdeadline, trivial⟩

theorem parse?_render (p : Policy) : parse? p.toJson.render = some p := by
  have hnone : ∀ f ∈ ([] : List (String × Json)), f.1 ∉ fieldNames := nofun
  have hread : ofJson? (.named p.settings.fields) = some (p.settings.replaceIn {}) :=
    ofJson?_named hnone (by rw [List.append_nil])
  rw [parse?, Json.parse_render p.isProper_toJson, Option.bind_some]
  exact hread

/-- A policy that is stored as text is the same when it is read again. Any text of an object with
some of the settings, in any order and among fields of other names, is read as the plain policy with
those settings in place of its own. Either way there is at least one attempt, also where the stored
budget is zero. -/
theorem stored_settings_kept :
    (∀ p : Policy, parse? p.toJson.render = some p ∧ 1 ≤ p.attempts) ∧
    ∀ (given : Settings) (others fields : List (String × Json)) (s : String),
      (∀ f ∈ others, f.1 ∉ fieldNames) → fields.Perm (given.fields ++ others) →
      (Json.named fields).IsText s.toList →
      parse? s = some (given.replaceIn {}) ∧ 1 ≤ (given.replaceIn {}).attempts := by
  have hattempts : ∀ p : Policy, 1 ≤ p.attempts := fun p =>
    UInt32.le_iff_toNat_le.2 p.attempts_pos
  refine ⟨fun p => ⟨p.parse?_render, hattempts p⟩,
    fun given others fields s hunknown horder htext => ⟨?_, hattempts _⟩⟩
  rw [parse?, Json.parse_of_isText htext, Option.bind_some]
  exact ofJson?_named hunknown horder

/-- An unknown field with half of a surrogate pair, and a stored budget of zero, between blanks. -/
theorem stored_settings_kept_of_zero_budget :
    parse? "\x7b \"note\" : \"\\ud800\" , \"max_attempts\" : 0,\"base_backoff_ms\":5\x7d" =
        some { budget := 0, base := 5 } ∧
      1 ≤ ({ budget := 0, base := 5 } : Policy).attempts := by
  have hblank : Json.IsBlanks [' '] := by simp [Json.IsBlanks]
  have hnote : Json.SpellsField (some "note".toList) (.text none)
      " \"note\" : \"\\ud800\" ".toList :=
    .named hblank (Json.spellsText_quote _) hblank
      (.between hblank (.text (Json.spellsText_quote none)) hblank)
  have hbudget : Json.SpellsField (some "max_attempts".toList) (.ofNat 0)
      " \"max_attempts\" : 0".toList :=
    .named hblank (Json.spellsText_quote _) hblank
      (.between hblank (.number (Json.isNumber_toDigits 0)) .nil)
  have hbase : Json.SpellsField (some "base_backoff_ms".toList) (.ofNat 5)
      "\"base_backoff_ms\":5".toList :=
    Json.spellsField_quote _ (.number (Json.isNumber_toDigits 5))
  have htext := (Json.Spells.fields (.cons hnote (.cons hbudget (.one hbase)))).isText
  have horder := @List.perm_append_comm _ [("note", Json.text none)]
    (Settings.fields { budget := some 0, base := some 5 })
  exact stored_settings_kept.2 _ _ _ _ (by decide) horder htext

end Policy
end BlobDepot
