import FramedLines.Dialogue
import FramedLines.Line
import FramedLines.Line.Sending
import FramedLines.Link

-- Connections: a link and the lines that hold its two ends. Calls judge their arguments first,
-- then whether the line is open, and only then turn to the link.

namespace FramedLines

structure Connection where
  link : Link
  first : Line
  second : Line
deriving DecidableEq

namespace Connection

def line (connection : Connection) : End → Line
  | .first => connection.first
  | .second => connection.second

def setLine (connection : Connection) (side : End) (line : Line) : Connection :=
  match side with
  | .first => { connection with first := line }
  | .second => { connection with second := line }

-- Reads at `side` unless that has to wait.
def read? (side : End) (room : Nat) (connection : Connection) :
    Option (Except Fault Bytes × Connection) :=
  if room = 0 then
    some (.error (Fault.invalidArgument "read into an empty buffer"), connection)
  else if (connection.line side).closed then some (.error Line.closedFault, connection)
  else
    (connection.link.read? side room).map fun (result, link) =>
      (result.mapError Fault.ofIo, { connection with link })

-- What a call gets whose wait in the link has reached its limit.
def timedOut (connection : Connection) : Fault := Fault.ofIo connection.link.timedOut

-- A read at `side` while the other end rests. No answer means that it waits for ever.
def read (side : End) (room : Nat) (connection : Connection) :
    Option (Except Fault Bytes) × Connection :=
  match connection.read? side room with
  | some (result, connection) => (some result, connection)
  | none =>
      if Duration.endsWait (connection.link.readLimit side) then
        (some (.error connection.timedOut), connection)
      else (none, connection)

-- The start of a write at `side`.
def begin (side : End) (data : Bytes) (connection : Connection) : Except Fault Sending :=
  if data.isEmpty then .error (Fault.invalidArgument "write of an empty buffer")
  else if (connection.line side).closed then .error Line.closedFault
  else .ok ⟨data, 0⟩

-- The time that a write at `side` has left after so many nanoseconds, if its time is limited.
def left (side : End) (spent : Nat) (connection : Connection) : Option Duration :=
  (connection.line side).sendLimit.map (·.after spent)

-- One attempt to get on with a write, with `left` of its time to go when that is limited. With
-- nothing left the link is not asked at all; otherwise it is told not to wait longer. No progress
-- means that the link has to wait.
def attempt (side : End) (left : Option Duration) (sending : Sending) (connection : Connection) :
    Option Progress × Connection :=
  if left.any Duration.isZero then (some (sending.advance .late), connection)
  else
    let link := if left.isSome then connection.link.setWriteLimit side left else connection.link
    match link.write? side sending.pending with
    | some (.ok count, link) => (some (sending.advance (.took count)), { connection with link })
    | some (.error error, link) =>
        (some (sending.advance (.failed error)), { connection with link })
    | none => (none, { connection with link })

-- Gets on with a write until it ends, while the other end rests and no time passes but in
-- waiting. Every attempt that does not end it takes an octet off, but for one that news of an
-- interruption may cut off, so `fuel` need only be one more than there are octets.
def finish (side : End) (left : Option Duration) :
    (fuel : Nat) → Sending → Connection → Option (Except Fault WriteOutcome) × Connection
  | 0, _, connection => (none, connection)
  | fuel + 1, sending, connection =>
      match connection.attempt side left sending with
      | (some (.ended result), connection) => (some result, connection)
      | (some (.going sending), connection) => finish side left fuel sending connection
      | (none, connection) =>
          if Duration.endsWait (connection.link.writeLimit side) then
            match sending.advance (.failed connection.link.timedOut) with
            | .ended result => (some result, connection)
            | .going _ => (none, connection)
          else (none, connection)

-- A write at `side` while the other end rests, with so many nanoseconds spent before it gets to
-- the link. No answer means that it waits for ever.
def write (side : End) (data : Bytes) (spent : Nat) (connection : Connection) :
    Option (Except Fault WriteOutcome) × Connection :=
  match connection.begin side data with
  | .error fault => (some (.error fault), connection)
  | .ok sending =>
      connection.finish side (connection.left side spent) (data.length + 1) sending

-- The line at `side` as something to talk to, with so many nanoseconds spent in every write.
def byteLine (side : End) (spent : Nat) : ByteLine Connection where
  read := read side
  write data := write side data spent

-- Sets an option for the calls to come, at the line and at the link.
def setOption (side : End) (option : LineOption) (value : Option Duration)
    (connection : Connection) : Except Fault Connection :=
  let line := connection.line side
  let options := line.options.set option value
  if line.closed then .error Line.closedFault
  else
    let link := match option with
      | .receiveTimeout => connection.link.setReadLimit side options.receiveTimeout
      | .sendTimeout => connection.link.setWriteLimit side options.sendTimeout
    .ok ({ connection with link }.setLine side { line with options })

-- The same by number and in milliseconds. The number is judged first.
def setOptionRaw (side : End) (id : Int) (millis : UInt64) (connection : Connection) :
    Except Fault Connection := do
  let option ← LineOption.ofId id
  connection.setOption side option (some (Duration.ofMillis millis))

-- Closes the line at `side`. Only the first time lets go of the link.
def close (side : End) (connection : Connection) : Connection :=
  let line := connection.line side
  if line.closed then connection
  else
    { connection with link := connection.link.release side }.setLine side
      { line with closed := true }

-- Drops an end that no line was ever made for.
def refuse (side : End) (connection : Connection) : Connection :=
  { connection with link := connection.link.refuse side }.setLine side
    { connection.line side with closed := true }

end Connection

end FramedLines
