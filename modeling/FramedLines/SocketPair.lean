import FramedLines.Duplex
import FramedLines.Readiness

-- Connected stream sockets as the platform keeps them: a queue of octets in each direction that
-- never fills, and news of the other end's departure.

namespace FramedLines

inductive SocketFamily where
  | tcp | local
deriving DecidableEq

-- What belongs to one end.
structure SocketHalf where
  -- octets that have come and were not read
  incoming : Bytes := []
  readLimit : Option Duration := none
  writeLimit : Option Duration := none
  -- its owner has let go of it
  released : Bool := false
  -- what the next call reports that has nothing better to do
  news : Option Errno := none
  -- what is written no longer finds anybody
  severed : Bool := false
deriving DecidableEq

structure SocketPair where
  family : SocketFamily
  first : SocketHalf := {}
  second : SocketHalf := {}
deriving DecidableEq

namespace SocketPair

def half (pair : SocketPair) : End → SocketHalf
  | .first => pair.first
  | .second => pair.second

def setHalf (pair : SocketPair) (side : End) (half : SocketHalf) : SocketPair :=
  match side with
  | .first => { pair with first := half }
  | .second => { pair with second := half }

-- Reads at `side` unless that has to wait. Octets come before news, and news before the end. A
-- broken pipe is no news to readers.
def read? (side : End) (room : Nat) (pair : SocketPair) :
    Option (Except IoError Bytes × SocketPair) :=
  let half := pair.half side
  if !half.incoming.isEmpty then
    some (.ok (half.incoming.take room),
      pair.setHalf side { half with incoming := half.incoming.drop room })
  else
    match half.news.filter (· != .brokenPipe) with
    | some errno => some (.error (.os errno), pair.setHalf side { half with news := none })
    | none => if (pair.half side.other).released then some (.ok [], pair) else none

-- Writes at `side`. The first octets that come too late over TCP are taken and lost; that they
-- were is only known afterwards. News come before the plain refusal.
def write (side : End) (data : Bytes) (pair : SocketPair) : Except IoError Nat × SocketPair :=
  let half := pair.half side
  let peer := pair.half side.other
  if data.isEmpty then (.ok 0, pair)
  else if peer.released && pair.family == .local then (.error (.os .brokenPipe), pair)
  else if half.severed then
    (.error (.os (half.news.getD .brokenPipe)), pair.setHalf side { half with news := none })
  else if peer.released then
    (.ok data.length,
      pair.setHalf side { half with severed := true, news := some .brokenPipe })
  else
    (.ok data.length,
      pair.setHalf side.other { peer with incoming := peer.incoming ++ data })

-- What the other end is told when its octets are thrown away.
def breach (pair : SocketPair) : Errno :=
  match pair.family with
  | .tcp => .brokenPipe
  | .local => .connectionReset

-- Lets go of one end. Octets left unread there break the connection for the other end.
def release (side : End) (pair : SocketPair) : SocketPair :=
  let half := pair.half side
  let peer := pair.half side.other
  let peer :=
    if half.incoming.isEmpty then peer
    else { peer with news := some pair.breach, severed := true }
  (pair.setHalf side { half with incoming := [], released := true }).setHalf side.other peer

-- Lets go of an end that nobody ever had in hand.
def refuse (side : End) (pair : SocketPair) : SocketPair :=
  let peer := { pair.half side.other with news := some .connectionReset, severed := true }
  (pair.setHalf side { pair.half side with incoming := [], released := true }).setHalf side.other
    peer

-- A wait for octets that reached its limit reports that there are none.
def timedOut : IoError := .os .again

-- A local peer hangs up in both directions. Over TCP the other end only learns that nothing
-- more will come.
def readiness (side : End) (pair : SocketPair) : Readiness :=
  let half := pair.half side
  let gone := (pair.half side.other).released
  if half.released then { readable := false, writable := false, hungUp := false, failed := true }
  else
    { readable := !half.incoming.isEmpty || gone
      writable := true
      hungUp := gone && (pair.family == .local || half.severed)
      failed := half.news.isSome }

end SocketPair

end FramedLines
