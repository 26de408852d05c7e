import BlobDepot.Tree.Frame

/-!
# Stacks of frames

The frames of the scopes that are open, the last one opened first. A scope gets a ticket when it
opens and gives it back when it closes; scopes may close in any order. A key is looked up in the
innermost frame that covers it.
-/
namespace BlobDepot

/-- The frames of open scopes under their tickets, and the number of tickets handed out. -/
structure FrameStack where
  frames : List (Nat × Frame) := []
  issued : Nat := 0

namespace FrameStack

def depth (s : FrameStack) : Nat :=
  s.frames.length

def ticket (s : FrameStack) : Nat :=
  s.issued

def push (s : FrameStack) (f : Frame) : FrameStack :=
  ⟨(s.ticket, f) :: s.frames, s.issued + 1⟩

def close (s : FrameStack) (ticket : Nat) : FrameStack :=
  { s with frames := s.frames.filter fun f => f.1 ≠ ticket }

/-- The innermost frame that covers a key, and the path of the key in it. -/
def lookup (s : FrameStack) (k : Key) : Option (Frame × String) :=
  s.frames.findSome? fun (_, f) => (f.pathTo? k).map (f, ·)

@[simp] theorem frames_push (s : FrameStack) (f : Frame) :
    (s.push f).frames = (s.ticket, f) :: s.frames := rfl

@[simp] theorem lookup_empty (k : Key) : ({} : FrameStack).lookup k = none := rfl

end FrameStack
end BlobDepot
