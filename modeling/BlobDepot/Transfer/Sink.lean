import BlobDepot.Text.Utf8

/-!
# Log sinks

A sink takes lines and is flushed now and then. Sinks never fail: a writer that takes no more
bytes loses what is written to it.
-/
namespace BlobDepot

class Sink (τ : Type) where
  /-- Takes a line. -/
  line : String → τ → τ
  /-- Passes on what is held back. -/
  flush : τ → τ

def lineBytes (s : String) : List UInt8 :=
  Text.bytes s ++ [0x0A]

/-- A sink that keeps its lines and counts its flushes. -/
structure LineRecord where
  lines : List String := []
  flushes : Nat := 0
  deriving DecidableEq, Repr, Inhabited

instance : Sink LineRecord where
  line s sink := { sink with lines := sink.lines ++ [s] }
  flush sink := { sink with flushes := sink.flushes + 1 }

/-- A sink that writes lines as bytes, as many as there is room for if that is bounded. -/
structure ByteSink where
  output : List UInt8 := []
  room : Option Nat := none
  flushes : Nat := 0
  deriving DecidableEq, Repr, Inhabited

def ByteSink.taken (sink : ByteSink) (s : String) : List UInt8 :=
  match sink.room with
  | none => lineBytes s
  | some room => (lineBytes s).take (room - sink.output.length)

instance : Sink ByteSink where
  line s sink := { sink with output := sink.output ++ sink.taken s }
  flush sink := { sink with flushes := sink.flushes + 1 }

def ByteSink.text (sink : ByteSink) : String :=
  Text.Utf8.decode sink.output

/-- A sink that passes lines on as events with a level. -/
structure EventSink where
  events : List (String × String) := []
  deriving DecidableEq, Repr, Inhabited

instance : Sink EventSink where
  line s sink := { sink with events := sink.events ++ [("INFO", s)] }
  flush sink := sink

end BlobDepot
