import BlobDepot.Proofs.Tree.Scopes
import Mathlib.Data.List.Forall2

/-!
# The discipline of a stack

The scopes of one context open and close in any order, and an opening may fail. At any time the
stack holds the frames of the scopes that are open, the last opened first: closing one leaves the
others where they are.
-/
namespace BlobDepot

variable {σ α : Type}

/-- A context: its stack, and the tickets that its openings got, the first one first. An opening
that failed got none. -/
structure Openings where
  stack : FrameStack := {}
  tickets : List (Option Nat) := []

namespace Openings

def enter [Store σ] (o : Openings) (n : Node) (s : σ) : Openings × σ :=
  let (ticket, stack, s) := n.enter o.stack s
  (⟨stack, o.tickets ++ [ticket.toOption]⟩, s)

/-- Ends an opening. Its scope closes, unless there is none. -/
def leave (o : Openings) (opening : Nat) : Openings :=
  match o.tickets[opening]? with
  | some (some ticket) => { o with stack := o.stack.close ticket }
  | _ => o

end Openings

/-- How many openings there were, and what those that stand have, the last one first, each under
its number. -/
structure Outline (α : Type) where
  count : Nat := 0
  standing : List (Nat × α) := []

namespace Outline

def opened (x : Outline α) (a : α) : Outline α :=
  ⟨x.count + 1, (x.count, a) :: x.standing⟩

def failed (x : Outline α) : Outline α :=
  ⟨x.count + 1, x.standing⟩

def ended (x : Outline α) (opening : Nat) : Outline α :=
  ⟨x.count, x.standing.filter fun e => e.1 ≠ opening⟩

def tried (x : Outline α) : Option α → Outline α
  | some a => x.opened a
  | none => x.failed

@[simp] theorem tried_some (x : Outline α) (a : α) : x.tried (some a) = x.opened a := rfl

end Outline

namespace Openings

variable {o : Openings} {x : Outline Frame}

/-- An entry of the stack is what an opening has: its ticket and its frame. -/
def Matches (o : Openings) (e y : Nat × Frame) : Prop :=
  o.tickets[y.1]? = some (some e.1) ∧ e.2 = y.2

/-- The stack holds the frames of the openings that stand, in their order. -/
structure Holds (o : Openings) (x : Outline Frame) : Prop where
  count : o.tickets.length = x.count
  frames : List.Forall₂ o.Matches o.stack.frames x.standing
  issued : ∀ ticket, some ticket ∈ o.tickets → ticket < o.stack.issued
  distinct : ∀ (i j : Nat) (ticket : Nat), o.tickets[i]? = some (some ticket) →
    o.tickets[j]? = some (some ticket) → i = j

theorem holds_empty : ({} : Openings).Holds {} :=
  ⟨rfl, .nil, nofun, by simp⟩

theorem getElem?_concat_eq_some_iff {l : List α} {a b : α} {i : Nat} :
    (l ++ [a])[i]? = some b ↔ l[i]? = some b ∨ i = l.length ∧ a = b := by
  rcases Nat.lt_trichotomy i l.length with hlt | rfl | hgt
  · rw [List.getElem?_append_left hlt]
    exact ⟨.inl, fun h => h.resolve_right fun heq => Nat.ne_of_lt hlt heq.1⟩
  · simp
  · have hnone : l[i]? = none := List.getElem?_eq_none (Nat.le_of_lt hgt)
    have hnone' : (l ++ [a])[i]? = none := by
      rw [List.getElem?_eq_none_iff, List.length_append]
      exact hgt
    rw [hnone, hnone']
    exact ⟨nofun, fun h => h.elim nofun fun heq => absurd heq.1 (Nat.ne_of_gt hgt)⟩

theorem Holds.opened (h : o.Holds x) (f : Frame) :
    Holds ⟨o.stack.push f, o.tickets ++ [some o.stack.ticket]⟩ (x.opened f) where
  count := by simp [Outline.opened, h.count]
  frames := by
    refine .cons ⟨getElem?_concat_eq_some_iff.2 (.inr ⟨h.count.symm, rfl⟩), rfl⟩ ?_
    exact h.frames.imp fun e y hey => ⟨getElem?_concat_eq_some_iff.2 (.inl hey.1), hey.2⟩
  issued := by
    intro ticket hmem
    rcases List.mem_append.1 hmem with hmem | hmem
    · exact Nat.lt_succ_of_lt (h.issued ticket hmem)
    · obtain rfl : ticket = o.stack.ticket := by simpa using hmem
      exact Nat.lt_succ_self _
  distinct := by
    -- no earlier opening got the new ticket
    have hnew : ∀ i : Nat, o.tickets[i]? ≠ some (some o.stack.ticket) := fun i hi =>
      Nat.lt_irrefl _ (h.issued _ (List.mem_of_getElem? hi))
    intro i j ticket hi hj
    rcases getElem?_concat_eq_some_iff.1 hi with hi | ⟨hi, hticket⟩ <;>
      rcases getElem?_concat_eq_some_iff.1 hj with hj | ⟨hj, hticket'⟩
    · exact h.distinct i j ticket hi hj
    · exact absurd (hticket'.symm ▸ hi) (hnew i)
    · exact absurd (hticket.symm ▸ hj) (hnew j)
    · rw [hi, hj]

theorem Holds.failed (h : o.Holds x) : Holds ⟨o.stack, o.tickets ++ [none]⟩ x.failed where
  count := by simp [Outline.failed, h.count]
  frames := h.frames.imp fun e y hey => ⟨getElem?_concat_eq_some_iff.2 (.inl hey.1), hey.2⟩
  issued := by
    intro ticket hmem
    exact h.issued ticket (by simpa using hmem)
  distinct := by
    have hold : ∀ (i ticket : Nat), (o.tickets ++ [none])[i]? = some (some ticket) →
        o.tickets[i]? = some (some ticket) := by
      intro i ticket hi
      exact (getElem?_concat_eq_some_iff.1 hi).resolve_right fun heq => nomatch heq.2
    intro i j ticket hi hj
    exact h.distinct i j ticket (hold i ticket hi) (hold j ticket hj)

theorem Holds.enter [Store σ] (h : o.Holds x) (n : Node) (s : σ) :
    (o.enter n s).1.Holds (x.tried (n.frame s).1.toOption) ∧
      (o.enter n s).2 = (n.frame s).2 := by
  rcases hframe : n.frame s with ⟨e | f, t⟩
  · rw [Openings.enter, Node.enter, hframe]
    exact ⟨h.failed, rfl⟩
  · rw [Openings.enter, Node.enter, hframe]
    exact ⟨h.opened f, rfl⟩

theorem Holds.leave (h : o.Holds x) (opening : Nat) :
    (o.leave opening).Holds (x.ended opening) := by
  rw [Openings.leave]
  split
  · rename_i ticket hticket
    refine ⟨h.count, ?_, h.issued, h.distinct⟩
    apply List.rel_filter _ h.frames
    rintro ⟨ticket', f⟩ ⟨i, g⟩ ⟨hi, -⟩
    simp only [decide_eq_true_eq, ne_eq, not_iff_not]
    constructor
    · rintro rfl
      exact h.distinct i opening ticket' hi hticket
    · rintro rfl
      rw [hticket] at hi
      exact (Option.some.inj (Option.some.inj hi)).symm
  · rename_i hnone
    -- no frame has the number of an opening without a ticket
    have hkept : List.Forall₂ o.Matches (o.stack.frames.filter fun _ => true)
        (x.standing.filter fun y => y.1 ≠ opening) := by
      apply List.rel_filter _ h.frames
      rintro e ⟨i, g⟩ ⟨hi, -⟩
      simp only [decide_eq_true_eq, ne_eq, true_iff]
      rintro rfl
      exact hnone e.1 hi
    rw [List.filter_true] at hkept
    exact ⟨h.count, hkept, h.issued, h.distinct⟩

theorem Holds.lookup (h : o.Holds x) (k : Key) :
    o.stack.lookup k = x.standing.findSome? fun e => (e.2.pathTo? k).map (e.2, ·) := by
  have hframes : o.stack.frames.map Prod.snd = x.standing.map Prod.snd := by
    rw [← List.forall₂_eq_eq_eq, List.forall₂_map_left_iff, List.forall₂_map_right_iff]
    exact h.frames.imp fun e y hey => hey.2
  calc o.stack.lookup k
      = (o.stack.frames.map Prod.snd).findSome? fun f => (f.pathTo? k).map (f, ·) := by
        rw [List.findSome?_map]
        rfl
    _ = x.standing.findSome? fun e => (e.2.pathTo? k).map (e.2, ·) := by
        rw [hframes, List.findSome?_map]
        rfl

end Openings
end BlobDepot
