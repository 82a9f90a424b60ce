import FramedLines.Manager
import FramedLines.Poller

-- Sessions: everything a program works with, by name. What is made under a name that is taken
-- comes first, and then what had the name is let go.

namespace FramedLines

-- Pollers are known by the numbers they got when they were made.
abbrev PollerId := Nat

structure Session where
  net : Net := {}
  managers : List (String × Manager) := []
  transports : List (String × Transport) := []
  acceptors : List (String × AcceptorId) := []
  lines : List (String × LineId) := []
  pollers : List (String × PollerId) := []
  pollerTable : List Poller := []
  -- the pollers with a poll under way, which nobody else can use meanwhile
  engaged : List PollerId := []
  -- the numbers of poll keys, under the names they were given
  keys : List (String × Nat) := []
  -- where the latest acceptor of each name listens or did
  stations : List (String × Endpoint) := []
deriving DecidableEq

namespace Session

-- The entries without the one under `name`, and that one.
def without (name : String) (entries : List (String × α)) : List (String × α) :=
  entries.filter (·.1 != name)

-- The entries with `value` under `name`.
def renew (name : String) (value : α) (entries : List (String × α)) : List (String × α) :=
  without name entries ++ [(name, value)]

def addManager (name : String) (config : ManagerConfig) (session : Session) : Session :=
  let (manager, net) := Manager.create config session.net
  { session with net, managers := renew name manager session.managers }

-- A transport of its own for in-process lines has a hub of its own too.
def addTransport (name : String) (scheme : Scheme) (bufferSize : UInt64) (interval : Duration)
    (session : Session) : Session :=
  let (transport, net) : Transport × Net := match scheme with
    | .inproc =>
        let (hub, net) := session.net.addHub bufferSize
        (.inproc hub, net)
    | .tcp => (.tcp interval, session.net)
    | .local => (.local interval, session.net)
  { session with net, transports := renew name transport session.transports }

-- The session every program starts with: a manager of its own and the one that all share, both
-- with the default configuration.
def start (host : Host) : Session :=
  let session : Session := { net := { host } }
  (session.addManager "m" {}).addManager "global" {}

def manager? (session : Session) (name : String) : Option Manager := session.managers.lookup name

def transport? (session : Session) (name : String) : Option Transport :=
  session.transports.lookup name

def acceptor? (session : Session) (name : String) : Option AcceptorId :=
  session.acceptors.lookup name

-- Where the latest acceptor of that name listens, or did before it went away.
def station? (session : Session) (name : String) : Option Endpoint := session.stations.lookup name

def line? (session : Session) (name : String) : Option LineId := session.lines.lookup name

def pollerId? (session : Session) (name : String) : Option PollerId :=
  session.pollers.lookup name

def poller (session : Session) (id : PollerId) : Poller := session.pollerTable[id]?.getD {}

def setPoller (id : PollerId) (poller : Poller) (session : Session) : Session :=
  { session with pollerTable := session.pollerTable.set id poller }

def isEngaged (id : PollerId) (session : Session) : Bool := session.engaged.contains id

-- Gives a line a name. The line that had it is dropped.
def nameLine (name : String) (id : LineId) (session : Session) : Session :=
  let net := match session.line? name with
    | some old => session.net.closeLine old
    | none => session.net
  { session with net, lines := renew name id session.lines }

-- Gives an acceptor a name. The acceptor that had it is dropped.
def nameAcceptor (name : String) (id : AcceptorId) (session : Session) : Session :=
  let net := match session.acceptor? name with
    | some old => session.net.closeAcceptor old
    | none => session.net
  { session with net, acceptors := renew name id session.acceptors }

-- Whether there was a line to drop.
def dropLine (name : String) (session : Session) : Bool × Session :=
  match session.line? name with
  | none => (false, session)
  | some id =>
      (true, { session with net := session.net.closeLine id, lines := without name session.lines })

-- Whether there was an acceptor to drop.
def dropAcceptor (name : String) (session : Session) : Bool × Session :=
  match session.acceptor? name with
  | none => (false, session)
  | some id =>
      (true,
        { session with
          net := session.net.closeAcceptor id
          acceptors := without name session.acceptors })

-- Names what came of listening. The endpoint tells where.
def enroll (name : String) (outcome : Except Fault AcceptorId × Net) (session : Session) :
    Except Fault Endpoint × Session :=
  match outcome with
  | (.error fault, net) => (.error fault, { session with net })
  | (.ok id, net) =>
      match net.acceptor? id with
      | some (endpoint, _) =>
          let stations := renew name endpoint session.stations
          (.ok endpoint, nameAcceptor name id { session with net, stations })
      | none => (.error Fault.connectionLost, { session with net })

def listen (name : String) (transport : Transport) (endpoint : Endpoint) (session : Session) :
    Except Fault Endpoint × Session :=
  session.enroll name (session.net.listen transport endpoint)

def serve (name : String) (manager : Manager) (uri : String) (session : Session) :
    Except Fault Endpoint × Session :=
  session.enroll name (manager.createServer uri session.net)

-- Names what came of dialing.
def attach (name : String) (outcome : Except Failure (LineId × Net)) (session : Session) :
    Except Failure (Line × Session) :=
  match outcome with
  | .error failure => .error failure
  | .ok (id, net) =>
      match net.line? id with
      | some line => .ok (line, nameLine name id { session with net })
      | none => .error (.fault Fault.connectionLost)

def dial (name : String) (transport : Transport) (endpoint : Endpoint) (session : Session) :
    Except Failure (Line × Session) :=
  session.attach name (session.net.dial transport endpoint)

def call (name : String) (manager : Manager) (uri : String) (session : Session) :
    Except Failure (Line × Session) :=
  session.attach name (manager.createClient uri session.net)

def setOption (id : LineId) (option : LineOption) (value : Option Duration) (session : Session) :
    Except Fault Unit × Session :=
  match session.net.connection? id with
  | none => (.error Line.closedFault, session)
  | some connection =>
      match connection.setOption id.side option value with
      | .ok connection =>
          (.ok (), { session with net := session.net.update id fun _ => connection })
      | .error fault => (.error fault, session)

def setOptionRaw (id : LineId) (option : Int) (millis : UInt64) (session : Session) :
    Except Fault Unit × Session :=
  match session.net.connection? id with
  | none => (.error Line.closedFault, session)
  | some connection =>
      match connection.setOptionRaw id.side option millis with
      | .ok connection =>
          (.ok (), { session with net := session.net.update id fun _ => connection })
      | .error fault => (.error fault, session)

def closeLine (id : LineId) (session : Session) : Session :=
  { session with net := session.net.closeLine id }

def closeAcceptor (id : AcceptorId) (session : Session) : Session :=
  { session with net := session.net.closeAcceptor id }

def addPoller (name : String) (poller : Poller) (session : Session) : Session :=
  { session with
    pollers := renew name session.pollerTable.length session.pollers
    pollerTable := session.pollerTable ++ [poller] }

-- Watches a line, and names the key.
def watch (id : PollerId) (key : String) (line : LineId) (interest : Events)
    (session : Session) : Except Fault Nat × Session :=
  match (session.poller id).add (session.net.source? line) interest with
  | .ok (number, poller) =>
      let session := session.setPoller id poller
      (.ok number, { session with keys := renew key number session.keys })
  | .error fault => (.error fault, session)

def unwatch (id : PollerId) (key : Nat) (session : Session) : Bool × Session :=
  let (found, poller) := (session.poller id).remove key
  (found, session.setPoller id poller)

-- Lets a poller look at its lines once.
def check (id : PollerId) (session : Session) : Bool × Session :=
  let (found, poller) := (session.poller id).check session.net.readiness
  (found, session.setPoller id poller)

-- Lets a poller take in what descriptors tell.
def notice (id : PollerId) (session : Session) : Bool × Session :=
  let (found, poller) := (session.poller id).notice session.net.readiness
  (found, session.setPoller id poller)

-- A poll is under way from here to where the poller is let go.
def engage (id : PollerId) (session : Session) : Session :=
  { session with engaged := session.engaged.insert id }

def disengage (id : PollerId) (session : Session) : Session :=
  { session with engaged := session.engaged.filter (· != id) }

-- Puts something where a path leads.
def makeFile (text : String) (node : Node) (session : Session) : Session :=
  let host := session.net.host
  let host := { host with files := host.files.make (Path.parse text) node }
  { session with net := { session.net with host } }

def fileExists (text : String) (session : Session) : Bool :=
  match session.net.host.files.find (Path.parse text) with
  | .ok _ => true
  | .error _ => false

end Session

end FramedLines
