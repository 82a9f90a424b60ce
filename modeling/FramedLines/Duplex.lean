import FramedLines.Duration
import FramedLines.Pipe

-- In-process connections: two ends and a pipe in each direction. Every end may limit how long
-- its calls wait.

namespace FramedLines

-- The two ends of a connection.
inductive End where
  | first | second
deriving DecidableEq

def End.other : End → End
  | first => second
  | second => first

-- What belongs to one end: the pipe it reads from, and its limits.
structure Half where
  incoming : Pipe
  readLimit : Option Duration := none
  writeLimit : Option Duration := none
deriving DecidableEq

structure Duplex where
  first : Half
  second : Half
deriving DecidableEq

namespace Duplex

-- Two connected ends whose pipes hold `capacity` octets each. A pipe is laid out in full, so it
-- cannot be larger than an address space allows. Below that there is taken to be memory enough for
-- it, as there is for everything else.
def pair (capacity : Nat) : Except Crash Duplex :=
  if capacity < 1 <<< 63 then .ok ⟨{ incoming := { capacity } }, { incoming := { capacity } }⟩
  else .error ⟨"capacity overflow"⟩

def half (duplex : Duplex) : End → Half
  | .first => duplex.first
  | .second => duplex.second

def setHalf (duplex : Duplex) (side : End) (half : Half) : Duplex :=
  match side with
  | .first => { duplex with first := half }
  | .second => { duplex with second := half }

-- The pipe that `side` reads from.
def incoming (duplex : Duplex) (side : End) : Pipe := (duplex.half side).incoming

-- The pipe that `side` writes into.
def outgoing (duplex : Duplex) (side : End) : Pipe := duplex.incoming side.other

def setIncoming (duplex : Duplex) (side : End) (pipe : Pipe) : Duplex :=
  duplex.setHalf side { duplex.half side with incoming := pipe }

-- Reads at `side` unless that has to wait.
def read? (side : End) (room : Nat) (duplex : Duplex) : Option (Bytes × Duplex) :=
  ((duplex.incoming side).read? room).map fun (bytes, pipe) =>
    (bytes, duplex.setIncoming side pipe)

-- Writes at `side` unless that has to wait.
def write? (side : End) (data : Bytes) (duplex : Duplex) : Option (Except IoError Nat × Duplex) :=
  ((duplex.outgoing side).write? data).map fun (result, pipe) =>
    (result, duplex.setIncoming side.other pipe)

def setReadLimit (side : End) (limit : Option Duration) (duplex : Duplex) : Duplex :=
  duplex.setHalf side { duplex.half side with readLimit := limit }

def setWriteLimit (side : End) (limit : Option Duration) (duplex : Duplex) : Duplex :=
  duplex.setHalf side { duplex.half side with writeLimit := limit }

-- Either end lets go for both directions.
def disconnect (duplex : Duplex) : Duplex :=
  (duplex.setIncoming .first (duplex.incoming .first).disconnect).setIncoming .second
    (duplex.incoming .second).disconnect

-- How a wait ends that has reached its limit.
def timedOut : IoError := .bare .timedOut

-- How a wait under `limit` ends when nobody else acts: with a timeout, or never.
def overdue (limit : Option Duration) : Option IoError :=
  if Duration.endsWait limit then some timedOut else none

-- A read at `side` while the other end rests. No answer means that it waits for ever.
def read (side : End) (room : Nat) (duplex : Duplex) : Option (Except IoError Bytes) × Duplex :=
  match duplex.read? side room with
  | some (bytes, duplex) => (some (.ok bytes), duplex)
  | none => ((overdue (duplex.half side).readLimit).map .error, duplex)

-- A write at `side` while the other end rests.
def write (side : End) (data : Bytes) (duplex : Duplex) : Option (Except IoError Nat) × Duplex :=
  match duplex.write? side data with
  | some (result, duplex) => (some result, duplex)
  | none => ((overdue (duplex.half side).writeLimit).map .error, duplex)

end Duplex

end FramedLines
