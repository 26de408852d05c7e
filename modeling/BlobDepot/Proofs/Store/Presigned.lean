import BlobDepot.Proofs.Url.Segments
import BlobDepot.Store.Memory

/-!
# Presigned URLs of stores in memory

A presigned URL shows the container and the segments of the key. Two objects have one URL if and
only if the same is shown of both; where nothing of an address is left out, that is only so for one
and the same object.
-/
namespace BlobDepot.MemoryStore

open Url (Segments.shown Segments.IsPlain)

variable {s s' : MemoryStore} {container container' key key' : String} {access : Access}
  {ttl : Span} {u u' : Url}

def address (container key : String) : List (List Char) :=
  container.toList :: Path.segmentChars key.toList

/-- An address that a URL shows as it is. The container is not empty, and neither it nor a segment
of the key is one dot or two dots or has a tab or the end of a line in it. -/
structure IsPlain (container key : String) : Prop where
  container_ne : container ≠ ""
  segments : ∀ s ∈ address container key, Segments.IsPlain s

theorem address_inj (h : address container key = address container' key') :
    container = container' ∧ key = key' := by
  obtain ⟨hcontainer, hkey⟩ := List.cons.inj h
  refine ⟨String.toList_inj.1 hcontainer, ?_⟩
  have hsegments : Path.segments key = Path.segments key' :=
    congrArg (List.map String.ofList) hkey
  rw [← Path.ofSegments_segments key, hsegments, Path.ofSegments_segments]

theorem shown_of_isPlain (h : IsPlain container key) :
    Segments.shown (address container key) = address container key :=
  Url.Segments.shown_of_isPlain (mt String.toList_eq_nil_iff.1 h.container_ne) h.segments

theorem presign_eq (key : String) (access : Access) (ttl : Span) (h : container ∉ s.denied) :
    (presign container key access ttl s).1 = .ok (url container key access ttl) := by
  have hallowed : s.denied.contains container = false := by
    simpa using h
  simp only [presign, letThrough, hallowed, Bool.false_eq_true, if_false]

theorem eq_url_of_presign (h : (presign container key access ttl s).1 = .ok u) :
    u = url container key access ttl := by
  unfold presign at h
  split at h
  · cases h
  · exact (Except.ok.inj h).symm

/-- With one access and one time URLs differ in their paths only. -/
theorem render_url_eq_iff :
    (url container key access ttl).render = (url container' key' access ttl).render ↔
      Segments.shown (address container key) = Segments.shown (address container' key') := by
  rw [← Url.Segments.build_eq_iff]
  simp [Url.render, Url.renderAuthority, url, address, String.append_assoc]

/-- Two objects have one presigned URL if and only if the same is shown of their addresses. If both
addresses are shown as they are, this is only so if the objects are one. -/
theorem presigned_eq_iff (hu : (presign container key access ttl s).1 = .ok u)
    (hu' : (presign container' key' access ttl s').1 = .ok u') :
    (u.render = u'.render ↔
        Segments.shown (address container key) = Segments.shown (address container' key')) ∧
      (IsPlain container key → IsPlain container' key' →
        (u.render = u'.render ↔ container = container' ∧ key = key')) := by
  rw [eq_url_of_presign hu, eq_url_of_presign hu', render_url_eq_iff]
  refine ⟨Iff.rfl, fun h h' => ?_⟩
  rw [shown_of_isPlain h, shown_of_isPlain h']
  constructor
  · exact address_inj
  · rintro ⟨rfl, rfl⟩
    rfl

/-- A percent sign is encoded, so that an encoded slash in a key is no slash. -/
theorem presigned_ne_of_percent_sign :
    let s := (({} : MemoryStore).put "artifacts" "a/é" ⟨[1], 1⟩).put "artifacts" "a%2Fé" ⟨[2], 2⟩
    IsPlain "artifacts" "a/é" ∧ IsPlain "artifacts" "a%2Fé" ∧
      ∃ u u', (presign "artifacts" "a/é" .get ⟨60⟩ s).1 = .ok u ∧
        (presign "artifacts" "a%2Fé" .get ⟨60⟩ s).1 = .ok u' ∧ u.render ≠ u'.render := by
  intro s
  have hplain : IsPlain "artifacts" "a/é" := ⟨by decide, by decide⟩
  have hplain' : IsPlain "artifacts" "a%2Fé" := ⟨by decide, by decide⟩
  have hallowed : "artifacts" ∉ s.denied := List.not_mem_nil
  have hu := presign_eq "a/é" .get ⟨60⟩ hallowed
  have hu' := presign_eq "a%2Fé" .get ⟨60⟩ hallowed
  refine ⟨hplain, hplain', _, _, hu, hu', fun heq => ?_⟩
  have hkeys := ((presigned_eq_iff hu hu').2 hplain hplain').1 heq
  exact absurd hkeys.2 (by decide)

/-- A dot between two slashes is not shown: two objects have one URL. -/
theorem presigned_eq_beside_dot :
    let s := (({} : MemoryStore).put "artifacts" "a/b" ⟨[1], 1⟩).put "artifacts" "a/./b" ⟨[2], 2⟩
    s.holds "artifacts" "a/b" = true ∧ s.holds "artifacts" "a/./b" = true ∧
      ∃ u, (presign "artifacts" "a/b" .get ⟨60⟩ s).1 = .ok u ∧
        (presign "artifacts" "a/./b" .get ⟨60⟩ s).1 = .ok u := by
  intro s
  have hallowed : "artifacts" ∉ s.denied := List.not_mem_nil
  have hone : url "artifacts" "a/./b" .get ⟨60⟩ = url "artifacts" "a/b" .get ⟨60⟩ := by
    decide +kernel
  refine ⟨by decide +kernel, by decide +kernel, _, presign_eq "a/b" .get ⟨60⟩ hallowed, ?_⟩
  rw [presign_eq "a/./b" .get ⟨60⟩ hallowed, hone]

end BlobDepot.MemoryStore
