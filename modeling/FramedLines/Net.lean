import FramedLines.Host
import FramedLines.Hub

-- Everything that lines can be dialed in: any number of hubs, which know nothing of each other,
-- and the one host.

namespace FramedLines

inductive Transport where
  -- the hub with this number
  | inproc (hub : Nat)
  -- over the host, where acceptors look for connections every so often
  | tcp (interval : Duration)
  | local (interval : Duration)
deriving DecidableEq

-- One end of a connection, wherever that is kept.
inductive LineId where
  | hub (hub connection : Nat) (side : End)
  | socket (connection : Nat) (side : End)
deriving DecidableEq

inductive AcceptorId where
  | hub (hub listener : Nat)
  | socket (listener : Nat)
deriving DecidableEq

-- What there is to watch of a line from outside.
inductive Source where
  | pipes (line : LineId)
  | descriptor (number : Nat)
deriving DecidableEq

structure Net where
  hubs : List Hub := []
  host : Host := {}
deriving DecidableEq

def Transport.scheme : Transport → Scheme
  | inproc _ => .inproc
  | tcp _ => .tcp
  | .local _ => .local

def LineId.side : LineId → End
  | hub _ _ side => side
  | socket _ side => side

def Source.isPipes : Source → Bool
  | pipes _ => true
  | descriptor _ => false

namespace Net

def addHub (bufferSize : UInt64) (net : Net) : Nat × Net :=
  (net.hubs.length, { net with hubs := net.hubs ++ [.ofSize bufferSize] })

def setHub (number : Nat) (hub : Hub) (net : Net) : Net :=
  { net with hubs := net.hubs.set number hub }

def connection? (net : Net) : LineId → Option Connection
  | .hub hub connection _ => net.hubs[hub]?.bind fun hub => hub.connections[connection]?
  | .socket connection _ => net.host.connections[connection]?

def line? (net : Net) (id : LineId) : Option Line :=
  (net.connection? id).map fun connection => connection.line id.side

def update (id : LineId) (f : Connection → Connection) (net : Net) : Net :=
  match id with
  | .hub hub connection _ =>
      { net with hubs := net.hubs.modify hub fun hub => hub.updateConnection connection f }
  | .socket connection _ => { net with host := net.host.updateConnection connection f }

-- Does something at a line, for an answer. Without the line there is none.
def atLine (id : LineId) (f : End → Connection → α × Connection) (net : Net) : Option α × Net :=
  match net.connection? id with
  | none => (none, net)
  | some connection =>
      let (answer, connection) := f id.side connection
      (some answer, net.update id fun _ => connection)

def closeLine (id : LineId) (net : Net) : Net :=
  match id with
  | .hub .. => net.update id (Connection.close id.side)
  | .socket connection side => { net with host := net.host.closeLine connection side }

-- A closed line has nothing to watch.
def source? (net : Net) (id : LineId) : Option Source :=
  match (net.line? id).filter fun line => !line.closed with
  | none => none
  | some _ =>
      match id with
      | .hub .. => some (.pipes id)
      | .socket connection side =>
          (net.host.descriptor? (.line connection side)).map .descriptor

-- Pipes can be watched even after their line was closed. A descriptor tells of whatever it leads
-- to by now.
def readiness (net : Net) : Source → Readiness
  | .pipes id =>
      match net.connection? id with
      | some connection => connection.link.readiness id.side
      | none => { readable := false, writable := false, hungUp := false, failed := true }
  | .descriptor number => net.host.readiness number

def listen (transport : Transport) (endpoint : Endpoint) (net : Net) :
    Except Fault AcceptorId × Net :=
  match transport with
  | .inproc number =>
      match (net.hubs[number]?.getD (.ofSize 0)).listen endpoint with
      | .ok (listener, hub) => (.ok (.hub number listener), net.setHub number hub)
      | .error fault => (.error fault, net)
  | .tcp interval =>
      match net.host.listenTcp endpoint with
      | .ok (listener, host) =>
          (.ok (.socket listener), { net with host := host.setInterval listener interval })
      | .error fault => (.error fault, net)
  | .local interval =>
      match net.host.listenLocal endpoint with
      | (.ok listener, host) =>
          (.ok (.socket listener), { net with host := host.setInterval listener interval })
      | (.error fault, host) => (.error fault, { net with host })

def dial (transport : Transport) (endpoint : Endpoint) (net : Net) :
    Except Failure (LineId × Net) :=
  match transport with
  | .inproc number =>
      ((net.hubs[number]?.getD (.ofSize 0)).dial endpoint).map fun (connection, hub) =>
        (.hub number connection .first, net.setHub number hub)
  | .tcp _ =>
      ((net.host.dialTcp endpoint).mapError .fault).map fun (connection, host) =>
        (.socket connection .first, { net with host })
  | .local _ =>
      ((net.host.dialLocal endpoint).mapError .fault).map fun (connection, host) =>
        (.socket connection .first, { net with host })

-- The line of the oldest dial that waits, or word that none will come. Nothing while there is
-- only waiting.
def accept? (id : AcceptorId) (net : Net) : Option (Option LineId × Net) :=
  match id with
  | .hub number listener =>
      ((net.hubs[number]?.getD (.ofSize 0)).accept? listener).map fun (connection?, hub) =>
        (connection?.map (.hub number · .second), net.setHub number hub)
  | .socket listener =>
      (net.host.accept? listener).map fun (connection?, host) =>
        (connection?.map (.socket · .second), { net with host })

-- How often somebody who waits for a connection looks for one. In a hub they are told.
def lookInterval? (id : AcceptorId) (net : Net) : Option Duration :=
  match id with
  | .hub .. => none
  | .socket listener => (net.host.listeners[listener]?).map SocketListener.interval

def closeAcceptor (id : AcceptorId) (net : Net) : Net :=
  match id with
  | .hub number listener => { net with hubs := net.hubs.modify number (Hub.close listener) }
  | .socket listener => { net with host := net.host.close listener }

-- An acceptor's endpoint, and whether it is closed.
def acceptor? (net : Net) : AcceptorId → Option (Endpoint × Bool)
  | .hub number listener => do
      let hub ← net.hubs[number]?
      let listener ← hub.listeners[listener]?
      return (listener.endpoint, listener.closed)
  | .socket listener => do
      let listener ← net.host.listeners[listener]?
      return (listener.endpoint, listener.closed)

end Net

end FramedLines
