import FramedLines.Bytes
import FramedLines.Fault

-- One direction of an in-process connection: a bounded queue of octets that is connected until
-- either end lets go, and never again.

namespace FramedLines

structure Pipe where
  capacity : Nat
  buffer : Bytes := []
  connected : Bool := true
deriving DecidableEq

namespace Pipe

def space (pipe : Pipe) : Nat := pipe.capacity - pipe.buffer.length

-- Takes up to `room` octets. Nothing while a reader has to wait; no octets once the pipe is
-- drained and disconnected.
def read? (room : Nat) (pipe : Pipe) : Option (Bytes × Pipe) :=
  if pipe.buffer.isEmpty then
    if pipe.connected then none else some ([], pipe)
  else some (pipe.buffer.take room, { pipe with buffer := pipe.buffer.drop room })

-- Puts in as much of `data` as fits. Nothing while a writer has to wait.
def write? (data : Bytes) (pipe : Pipe) : Option (Except IoError Nat × Pipe) :=
  if data.isEmpty then some (.ok 0, pipe)
  else if !pipe.connected then some (.error (.bare .brokenPipe), pipe)
  else if pipe.space = 0 then none
  else
    let piece := data.take pipe.space
    some (.ok piece.length, { pipe with buffer := pipe.buffer ++ piece })

def disconnect (pipe : Pipe) : Pipe := { pipe with connected := false }

end Pipe

end FramedLines
