import FramedLines.Dialogue

-- A line that follows a script: what it has for readers comes piece by piece between other
-- events, and what it takes from writers is laid down write by write.

namespace FramedLines

inductive Event where
  | data (bytes : Bytes)
  | ended
  | failed (fault : Fault)
deriving DecidableEq

-- How a write is answered.
inductive Reply where
  -- takes at most so many octets
  | takes (count : Nat)
  | refuses (fault : Fault)
deriving DecidableEq

structure Script where
  events : List Event := []
  -- octets of a piece that has begun
  ready : Bytes := []
  -- the most that one read gets
  chunk : Option Nat := none
  -- answers to the next writes; later ones are taken whole
  replies : List Reply := []
  -- what has been taken from writers
  accepted : Bytes := []
deriving DecidableEq

namespace Script

-- Passes over empty pieces. What stops a read comes back with the events behind it.
def advance : List Event → Except (Option Fault) Bytes × List Event
  | [] => (.error none, [])
  | .data [] :: rest => advance rest
  | .data (octet :: piece) :: rest => (.ok (octet :: piece), rest)
  | .ended :: rest => (.error none, rest)
  | .failed fault :: rest => (.error (some fault), rest)

-- What one read gets out of `ready`.
def deliver (room : Nat) (ready : Bytes) (script : Script) : Except Fault Bytes × Script :=
  let count := match script.chunk with
    | some chunk => min room chunk
    | none => room
  (.ok (ready.take count), { script with ready := ready.drop count })

def read (room : Nat) (script : Script) : Except Fault Bytes × Script :=
  if script.ready.isEmpty then
    match advance script.events with
    | (.ok piece, events) => deliver room piece { script with events }
    | (.error none, events) => (.ok [], { script with events })
    | (.error (some fault), events) => (.error fault, { script with events })
  else deliver room script.ready script

def write (data : Bytes) (script : Script) : Except Fault WriteOutcome × Script :=
  match script.replies with
  | [] =>
      (.ok ⟨data.length, data.length⟩, { script with accepted := script.accepted ++ data })
  | .takes count :: replies =>
      (.ok ⟨min count data.length, data.length⟩,
        { script with replies, accepted := script.accepted ++ data.take count })
  | .refuses fault :: replies => (.error fault, { script with replies })

-- It answers every call.
def line : ByteLine Script where
  read room script := match script.read room with
    | (answer, script) => (some answer, script)
  write data script := match script.write data with
    | (answer, script) => (some answer, script)

-- The octets an event brings.
def eventSize : Event → Nat
  | .data bytes => bytes.length
  | _ => 0

-- How many octets no read has got yet.
def left (script : Script) : Nat :=
  script.events.foldr (fun event total => eventSize event + total) script.ready.length

def feed (events : List Event) (script : Script) : Script :=
  { script with events := script.events ++ events }

end Script

end FramedLines
