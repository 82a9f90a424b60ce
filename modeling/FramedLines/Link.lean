import FramedLines.SocketPair

-- What carries the octets of a connection: a pair of pipes, or a pair of sockets.

namespace FramedLines

namespace Duplex

-- A pipe that nobody holds on to any more counts as hung up from both sides.
def readiness (side : End) (duplex : Duplex) : Readiness :=
  let incoming := duplex.incoming side
  let outgoing := duplex.outgoing side
  { readable := !incoming.buffer.isEmpty
    writable := outgoing.connected && 0 < outgoing.space
    hungUp := !incoming.connected }

end Duplex

inductive Link where
  | pipes (duplex : Duplex)
  | sockets (pair : SocketPair)
deriving DecidableEq

namespace Link

-- Reads at `side` unless that has to wait. No octets means the end of the stream.
def read? (side : End) (room : Nat) : Link → Option (Except IoError Bytes × Link)
  | pipes duplex => (duplex.read? side room).map fun (bytes, duplex) => (.ok bytes, pipes duplex)
  | sockets pair => (pair.read? side room).map fun (result, pair) => (result, sockets pair)

-- Writes at `side` unless that has to wait.
def write? (side : End) (data : Bytes) : Link → Option (Except IoError Nat × Link)
  | pipes duplex => (duplex.write? side data).map fun (result, duplex) => (result, pipes duplex)
  | sockets pair => match pair.write side data with
      | (result, pair) => some (result, sockets pair)

def readLimit (side : End) : Link → Option Duration
  | pipes duplex => (duplex.half side).readLimit
  | sockets pair => (pair.half side).readLimit

def writeLimit (side : End) : Link → Option Duration
  | pipes duplex => (duplex.half side).writeLimit
  | sockets pair => (pair.half side).writeLimit

def setReadLimit (side : End) (limit : Option Duration) : Link → Link
  | pipes duplex => pipes (duplex.setReadLimit side limit)
  | sockets pair => sockets (pair.setHalf side { pair.half side with readLimit := limit })

def setWriteLimit (side : End) (limit : Option Duration) : Link → Link
  | pipes duplex => pipes (duplex.setWriteLimit side limit)
  | sockets pair => sockets (pair.setHalf side { pair.half side with writeLimit := limit })

-- How a wait ends that has reached its limit.
def timedOut : Link → IoError
  | pipes _ => Duplex.timedOut
  | sockets _ => SocketPair.timedOut

def release (side : End) : Link → Link
  | pipes duplex => pipes duplex.disconnect
  | sockets pair => sockets (pair.release side)

-- Lets go of an end that nobody ever had in hand.
def refuse (side : End) : Link → Link
  | pipes duplex => pipes duplex.disconnect
  | sockets pair => sockets (pair.refuse side)

def readiness (side : End) : Link → Readiness
  | pipes duplex => duplex.readiness side
  | sockets pair => pair.readiness side

-- Octets under way to `side`.
def buffered (side : End) : Link → Nat
  | pipes duplex => (duplex.incoming side).buffer.length
  | sockets pair => (pair.half side).incoming.length

end Link

end FramedLines
