import BlobDepot.FileName
import BlobDepot.Proofs.Ascii
import BlobDepot.Proofs.Path
import Mathlib.Order.Defs.LinearOrder

/-!
# Names and the texts they are shown as

A text is told by the name it spells, but a name by the text it is shown as only if it is a text
itself. What is shown of any name has its ASCII characters, and no others.
-/
namespace BlobDepot

namespace FileName

variable {n m k : FileName} {s t : String}

@[simp] theorem text_ofText (s : String) : (ofText s).text = s :=
  Text.Utf8.decode_bytes s

@[simp] theorem ofText_inj : ofText s = ofText t ↔ s = t :=
  ⟨fun h => by rw [← text_ofText s, h, text_ofText], fun h => h ▸ rfl⟩

theorem lt_irrefl (n : FileName) : ¬ n < n :=
  fun h => Std.lt_irrefl (a := n.bytes) h

theorem lt_trans (h : n < m) (h' : m < k) : n < k :=
  Std.lt_trans (a := n.bytes) (b := m.bytes) h h'

theorem lt_of_not_lt (h : ¬ n < m) (hne : n ≠ m) : m < n := by
  have hle : m.bytes ≤ n.bytes := h
  have hbytes : m.bytes ≠ n.bytes := fun heq => hne (congrArg mk heq).symm
  exact Std.lt_of_le_of_ne (a := m.bytes) (b := n.bytes) hle hbytes

def IsText (n : FileName) : Prop :=
  ofText n.text = n

instance (n : FileName) : Decidable n.IsText :=
  inferInstanceAs (Decidable (_ = _))

theorem isText_ofText (s : String) : (ofText s).IsText := by
  rw [IsText, text_ofText]

theorem hasSlash_text_eq_false_iff : Path.hasSlash n.text = false ↔ 0x2F ∉ n.bytes := by
  rw [Path.hasSlash_eq_false_iff]
  exact not_congr (Text.Utf8.mem_decode_iff (a := '/') (by decide))

theorem hasSlash_eq_false_iff : Path.hasSlash s = false ↔ 0x2F ∉ (ofText s).bytes := by
  rw [← hasSlash_text_eq_false_iff, text_ofText]

end FileName

namespace Path

variable {path path' : String} {names' : List FileName} {n : FileName}

@[simp] theorem ofNames_names (path : String) : ofNames (names path) = path := by
  have htext : FileName.text ∘ FileName.ofText = id := funext FileName.text_ofText
  rw [ofNames, names, List.map_map, htext, List.map_id, ofSegments_segments]

@[simp] theorem names_inj : names path = names path' ↔ path = path' :=
  ⟨fun h => by rw [← ofNames_names path, h, ofNames_names], fun h => h ▸ rfl⟩

theorem names_ne_nil (path : String) : names path ≠ [] :=
  mt List.map_eq_nil_iff.1 (segments_ne_nil path)

theorem names_append_slash (path path' : String) :
    names (path ++ "/" ++ path') = names path ++ names path' := by
  rw [names, segments_append_slash, List.map_append]
  rfl

theorem names_of_not_hasSlash (h : hasSlash path = false) : names path = [.ofText path] := by
  rw [names, segments_of_not_hasSlash h]
  rfl

theorem isText_of_mem_names (h : n ∈ names path) : n.IsText := by
  obtain ⟨s, -, rfl⟩ := List.mem_map.1 h
  exact FileName.isText_ofText s

theorem ofText_mem_names_iff {s : String} : .ofText s ∈ names path ↔ s ∈ segments path := by
  simp [names]

theorem segments_ofNames (hnames : names' ≠ []) (h : ∀ n ∈ names', 0x2F ∉ n.bytes) :
    segments (ofNames names') = names'.map FileName.text := by
  refine segments_ofSegments (mt List.map_eq_nil_iff.1 hnames) fun s hs => ?_
  obtain ⟨n, hn, rfl⟩ := List.mem_map.1 hs
  exact FileName.hasSlash_text_eq_false_iff.2 (h n hn)

theorem names_ofNames (hnames : names' ≠ []) (h : ∀ n ∈ names', 0x2F ∉ n.bytes)
    (htext : ∀ n ∈ names', n.IsText) : names (ofNames names') = names' := by
  rw [names, segments_ofNames hnames h, List.map_map]
  exact (List.map_congr_left htext).trans (List.map_id names')

end Path
end BlobDepot
