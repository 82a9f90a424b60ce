import FramedLines.Net

-- Managers: one transport for each scheme, set up from one configuration.

namespace FramedLines

structure Manager where
  config : ManagerConfig
  -- the number of its own hub
  hub : Nat
deriving DecidableEq

namespace Manager

-- A manager with a hub of its own.
def create (config : ManagerConfig) (net : Net) : Manager × Net :=
  let (hub, net) := net.addHub config.inprocBufferSize
  ({ config, hub }, net)

def transport (manager : Manager) : Scheme → Transport
  | .tcp => .tcp manager.config.acceptPollInterval
  | .inproc => .inproc manager.hub
  | .local => .local manager.config.acceptPollInterval

-- Every scheme there is has a transport.
def supports (manager : Manager) (scheme : Scheme) : Bool :=
  (manager.transport scheme).scheme == scheme

def listen (manager : Manager) (endpoint : Endpoint) (net : Net) : Except Fault AcceptorId × Net :=
  net.listen (manager.transport endpoint.scheme) endpoint

def dial (manager : Manager) (endpoint : Endpoint) (net : Net) : Except Failure (LineId × Net) :=
  net.dial (manager.transport endpoint.scheme) endpoint

-- Listens on what a text names. A text that names nothing is refused before anything happens.
def createServer (manager : Manager) (uri : String) (net : Net) : Except Fault AcceptorId × Net :=
  match Endpoint.parse uri with
  | .ok endpoint => manager.listen endpoint net
  | .error fault => (.error fault, net)

-- Dials what a text names.
def createClient (manager : Manager) (uri : String) (net : Net) : Except Failure (LineId × Net) :=
  match Endpoint.parse uri with
  | .ok endpoint => manager.dial endpoint net
  | .error fault => .error (.fault fault)

end Manager

end FramedLines
