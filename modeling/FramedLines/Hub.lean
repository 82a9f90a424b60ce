import FramedLines.Connection

-- In-process connections: who listens on which address, the dials that wait to be accepted, and
-- the connections that came of them.

namespace FramedLines

structure Listener where
  endpoint : Endpoint
  -- its owner has closed it
  closed : Bool := false
  -- it takes dials
  isOpen : Bool := true
  -- the connections dialed and not accepted, the oldest first
  pending : List Nat := []
deriving DecidableEq

-- Listeners and connections are known by the numbers they got when they were made.
structure Hub where
  -- how much each direction of a connection holds
  bufferSize : Nat
  registry : List (String × Nat) := []
  listeners : List Listener := []
  connections : List Connection := []
deriving DecidableEq

namespace Hub

-- Pipes hold one octet at least.
def ofSize (bufferSize : UInt64) : Hub := { bufferSize := max bufferSize.toNat 1 }

def registered? (hub : Hub) (address : String) : Option Nat := hub.registry.lookup address

def listenerCount (hub : Hub) : Nat := hub.registry.length

def updateListener (hub : Hub) (number : Nat) (f : Listener → Listener) : Hub :=
  { hub with listeners := hub.listeners.modify number f }

def updateConnection (hub : Hub) (number : Nat) (f : Connection → Connection) : Hub :=
  { hub with connections := hub.connections.modify number f }

-- Starts to listen, unless somebody does so on the same address.
def listen (endpoint : Endpoint) (hub : Hub) : Except Fault (Nat × Hub) :=
  match hub.registered? endpoint.address with
  | some _ =>
      .error (Fault.listenFailure endpoint.address
        (.worded .addrInUse "address already registered"))
  | none =>
      let number := hub.listeners.length
      .ok (number,
        { hub with
          registry := (endpoint.address, number) :: hub.registry
          listeners := hub.listeners ++ [{ endpoint }] })

-- The first step of a dial: who listens.
def seek (endpoint : Endpoint) (hub : Hub) : Except Fault Nat :=
  match hub.registered? endpoint.address with
  | some number => .ok number
  | none =>
      .error (Fault.connectFailure endpoint.address (.worded .connectionRefused "no listener"))

-- The second step: a new connection, whose other end waits to be accepted. By now the listener
-- may have closed.
def enqueue (number : Nat) (endpoint : Endpoint) (hub : Hub) : Except Failure (Nat × Hub) :=
  match Duplex.pair hub.bufferSize with
  | .error crash => .error (.crash crash)
  | .ok duplex =>
      match hub.listeners[number]?.filter (·.isOpen) with
      | none =>
          .error (.fault (Fault.connectFailure endpoint.address
            (.worded .connectionRefused "listener closed")))
      | some listener =>
          let connection : Connection :=
            { link := .pipes duplex, first := { endpoint }
              second := { endpoint := listener.endpoint } }
          let dialed := hub.connections.length
          let hub := { hub with connections := hub.connections ++ [connection] }
          .ok (dialed, hub.updateListener number fun listener =>
            { listener with pending := listener.pending ++ [dialed] })

def dial (endpoint : Endpoint) (hub : Hub) : Except Failure (Nat × Hub) :=
  match hub.seek endpoint with
  | .error fault => .error (.fault fault)
  | .ok number => hub.enqueue number endpoint

-- The oldest dial that waits, or word that none will come. Nothing while there is only waiting.
def accept? (number : Nat) (hub : Hub) : Option (Option Nat × Hub) :=
  match hub.listeners[number]? with
  | none => some (none, hub)
  | some listener =>
      if listener.closed then some (none, hub)
      else
        match listener.pending with
        | dialed :: pending =>
            some (some dialed, hub.updateListener number fun listener => { listener with pending })
        | [] => if listener.isOpen then none else some (none, hub)

-- The first step of closing: no more dials, and those that wait are taken out.
def shut (number : Nat) (hub : Hub) : List Nat × Hub :=
  let waiting := (hub.listeners[number]?.map Listener.pending).getD []
  (waiting, hub.updateListener number fun listener =>
    { listener with closed := true, isOpen := false, pending := [] })

-- The second step: nobody will hold the other end of these.
def abandon (dialed : List Nat) (hub : Hub) : Hub :=
  dialed.foldl (fun hub number => hub.updateConnection number (Connection.refuse .second)) hub

-- The third step: the address is free again, unless it is another listener's by now.
def unregister (number : Nat) (hub : Hub) : Hub :=
  { hub with registry := hub.registry.filter (·.2 != number) }

-- Only the first time does anything.
def close (number : Nat) (hub : Hub) : Hub :=
  if (hub.listeners[number]?.map Listener.closed).getD true then hub
  else
    let (waiting, hub) := hub.shut number
    (hub.abandon waiting).unregister number

end Hub

end FramedLines
