import FramedLines.Connection
import FramedLines.Host.Files
import FramedLines.Host.Inet.Reader

-- What the lines of a process find outside it: files, sockets at paths and ports, and the paths
-- that the process itself listens on.

namespace FramedLines

-- Where a socket listens.
inductive Station where
  -- at a path, as it was given
  | path (text : String)
  | port (address : InetAddress)
deriving DecidableEq

structure SocketListener where
  endpoint : Endpoint
  station : Station
  -- its owner has closed it
  closed : Bool := false
  -- the listening handle is there
  isOpen : Bool := true
  -- the connections dialed and not accepted, the oldest first
  pending : List Nat := []
  -- how often its owner looks for them while waiting
  interval : Duration := Duration.ofMillis 5
deriving DecidableEq

-- What a descriptor of the process leads to.
inductive Handle where
  | listener (number : Nat)
  | line (connection : Nat) (side : End)
deriving DecidableEq

structure Host where
  files : Files := {}
  -- the keys of the paths this process listens on
  bound : List (List String) := []
  listeners : List SocketListener := []
  connections : List Connection := []
  -- what each descriptor leads to, if anything
  descriptors : List (Option Handle) := []
  -- whether there is a network
  hasRoute : Bool := true
  -- how many nanoseconds a write spends before it gets to its link
  pace : Nat := 40
  -- the next port for whoever does not ask for one
  nextPort : Nat := 49152
deriving DecidableEq

namespace Host

def updateListener (host : Host) (number : Nat) (f : SocketListener → SocketListener) : Host :=
  { host with listeners := host.listeners.modify number f }

def updateConnection (host : Host) (number : Nat) (f : Connection → Connection) : Host :=
  { host with connections := host.connections.modify number f }

def setInterval (number : Nat) (interval : Duration) (host : Host) : Host :=
  host.updateListener number fun listener => { listener with interval }

def key (host : Host) (text : String) : List String := Path.key host.files.home text

def isLive (host : Host) (number : Nat) : Bool := host.listeners[number]?.any (·.isOpen)

-- A new handle gets the lowest descriptor that is free.
def install (handle : Handle) : List (Option Handle) → List (Option Handle)
  | [] => [some handle]
  | none :: rest => some handle :: rest
  | some other :: rest => some other :: install handle rest

def openHandle (handle : Handle) (host : Host) : Host :=
  { host with descriptors := install handle host.descriptors }

-- The descriptor is free again, for whatever is opened next.
def closeHandle (handle : Handle) (host : Host) : Host :=
  { host with
    descriptors := host.descriptors.map fun entry => entry.filter (· != handle) }

def descriptor? (handle : Handle) (host : Host) : Option Nat :=
  host.descriptors.findIdx? (· == some handle)

-- Lets go of an end of a connection.
def closeLine (number : Nat) (side : End) (host : Host) : Host :=
  (host.updateConnection number (Connection.close side)).closeHandle (.line number side)

-- A listener is ready when a dial waits. Behind a descriptor that is free nothing ever is.
def readiness (descriptor : Nat) (host : Host) : Readiness :=
  let missing : Readiness :=
    { readable := false, writable := false, hungUp := false, failed := true }
  match (host.descriptors[descriptor]?).join with
  | some (.line number side) =>
      (host.connections[number]?.map fun connection => connection.link.readiness side).getD missing
  | some (.listener number) =>
      match host.listeners[number]? with
      | some listener =>
          { readable := !listener.pending.isEmpty, writable := false, hungUp := false }
      | none => missing
  | none => missing

def addListener (endpoint : Endpoint) (station : Station) (host : Host) : Nat × Host :=
  let number := host.listeners.length
  let listener : SocketListener := { endpoint, station }
  let host := { host with listeners := host.listeners ++ [listener] }
  (number, host.openHandle (.listener number))

-- A connection to a listener that is there. Its other end waits to be accepted.
def reach (number : Nat) (family : SocketFamily) (endpoint : Endpoint) (host : Host) :
    Nat × Host :=
  let answering := (host.listeners[number]?.map SocketListener.endpoint).getD endpoint
  let dialed := host.connections.length
  let connection : Connection :=
    { link := .sockets { family }, first := { endpoint }, second := { endpoint := answering } }
  let host := { host with connections := host.connections ++ [connection] }
  (dialed, host.updateListener number fun listener =>
    { listener with pending := listener.pending ++ [dialed] })

-- A dial to whatever stands at a path.
def connectPath (endpoint : Endpoint) (text : String) (host : Host) :
    Except IoError (Nat × Host) :=
  match Path.checked text with
  | .error error => .error error
  | .ok path =>
      if text.isEmpty then .error (.os .invalid)
      else
        match host.files.find path with
        | .error errno => .error (.os errno)
        | .ok (.socket (some number)) =>
            if host.isLive number then .ok (host.reach number .local endpoint)
            else .error (.os .connectionRefused)
        | .ok _ => .error (.os .connectionRefused)

-- The near end of a dial that came through is a line of its own.
def hold (outcome : Except IoError (Nat × Host)) : Except IoError (Nat × Host) :=
  outcome.map fun (dialed, host) => (dialed, host.openHandle (.line dialed .first))

def dialLocal (endpoint : Endpoint) (host : Host) : Except Fault (Nat × Host) :=
  (hold (host.connectPath endpoint endpoint.address)).mapError
    (Fault.connectFailure endpoint.address)

-- Binds a new listener to a path. One without a path gets an address of its own choice.
def bindPath (endpoint : Endpoint) (text : String) (host : Host) : Except IoError (Nat × Host) :=
  match Path.checked text with
  | .error error => .error error
  | .ok path =>
      let (number, grown) := host.addListener endpoint (.path text)
      if text.isEmpty then .ok (number, grown)
      else
        match host.files.bind path number with
        | .error errno => .error (.os errno)
        | .ok files => .ok (number, { grown with files })

-- Takes away what keeps a path from being bound and binds again. Whoever answers there is not
-- disturbed, but for a connection that comes and goes.
def reclaim (endpoint : Endpoint) (busy : IoError) (host : Host) : Except IoError Nat × Host :=
  let text := endpoint.address
  match host.connectPath endpoint text with
  | .ok (dialed, host) => (.error busy, host.updateConnection dialed (Connection.close .first))
  | .error _ =>
      match host.files.unlink (Path.parse text) with
      | .error errno => (.error (.os errno), host)
      | .ok files =>
          let host := { host with files }
          match host.bindPath endpoint text with
          | .ok (number, host) => (.ok number, host)
          | .error error => (.error error, host)

def bindOrReclaim (endpoint : Endpoint) (host : Host) : Except IoError Nat × Host :=
  match host.bindPath endpoint endpoint.address with
  | .ok (number, host) => (.ok number, host)
  | .error error =>
      if error.kind = .addrInUse then host.reclaim endpoint error else (.error error, host)

-- Listens at a path. A path of this process is refused before anything there is touched.
def listenLocal (endpoint : Endpoint) (host : Host) : Except Fault Nat × Host :=
  let text := endpoint.address
  let key := host.key text
  if host.bound.contains key then
    (.error (Fault.listenFailure text
      (.worded .addrInUse "path is already listening in this process")), host)
  else
    match host.bindOrReclaim endpoint with
    | (.ok number, host) => (.ok number, { host with bound := key :: host.bound })
    | (.error error, host) => (.error (Fault.listenFailure text error), host)

-- The listener that a dial over TCP finds.
def portListener? (address : InetAddress) (host : Host) : Option Nat :=
  host.listeners.findIdx? fun listener =>
    listener.isOpen && (match listener.station with
      | .port other => other.conflicts address
      | .path _ => false)

-- Why no socket can be bound to an address, if so. Without a network nothing of the older
-- family is known to be foreign.
def bindRefusal? (host : Host) (address : IpAddress) : Option Errno :=
  let address := address.canonical
  if address.isUnspecified then none
  else
    match address with
    | .v4 _ =>
        if !host.hasRoute || address.isLoopback || address.isMulticast || address.isBroadcast
          then none
        else some .addressNotAvailable
    | .v6 _ scope =>
        if address.isMulticast || (address.isLinkLocal && scope = 0) then some .invalid
        else if address.isLinkLocal && scope ≠ 1 then some .noDevice
        else if host.hasRoute && address.isLoopback then none
        else some .addressNotAvailable

-- Why an address cannot be dialed, if so. Without a network there is no way anywhere, and no
-- address of the newer family to dial from.
def dialRefusal? (host : Host) (address : IpAddress) : Option Errno :=
  if host.hasRoute then none
  else
    match address.canonical with
    | .v4 _ => some .networkUnreachable
    | .v6 groups scope =>
        let address : IpAddress := .v6 groups scope
        if address.isMulticast then some .networkUnreachable
        else if address.isLinkLocal && scope = 0 then some .invalid
        else some .addressNotAvailable

def bindPort (endpoint : Endpoint) (host : Host) : Except IoError (Nat × Host) :=
  match InetAddress.parse endpoint.address with
  | .error error => .error error
  | .ok address =>
      match host.bindRefusal? address.host with
      | some errno => .error (.os errno)
      | none =>
          let (address, host) :=
            if address.port = 0 then
              ({ address with port := host.nextPort }, { host with nextPort := host.nextPort + 1 })
            else (address, host)
          if (host.portListener? address).isSome then .error (.os .addressInUse)
          else .ok (host.addListener ⟨.tcp, address.text⟩ (.port address))

-- Listens at a port. The listener's endpoint tells which, whatever scheme it was asked under.
def listenTcp (endpoint : Endpoint) (host : Host) : Except Fault (Nat × Host) :=
  (host.bindPort endpoint).mapError (Fault.listenFailure endpoint.address)

def connectPort (endpoint : Endpoint) (host : Host) : Except IoError (Nat × Host) :=
  match InetAddress.parse endpoint.address with
  | .error error => .error error
  | .ok address =>
      match host.dialRefusal? address.host with
      | some errno => .error (.os errno)
      | none =>
          match host.portListener? address with
          | some number => .ok (host.reach number .tcp endpoint)
          | none => .error (.os .connectionRefused)

def dialTcp (endpoint : Endpoint) (host : Host) : Except Fault (Nat × Host) :=
  (hold (host.connectPort endpoint)).mapError (Fault.connectFailure endpoint.address)

-- The oldest dial that waits, or word that none will come. Nothing while there is only waiting.
def accept? (number : Nat) (host : Host) : Option (Option Nat × Host) :=
  match host.listeners[number]? with
  | none => some (none, host)
  | some listener =>
      if listener.closed || !listener.isOpen then some (none, host)
      else
        match listener.pending with
        | dialed :: pending =>
            let host := host.updateListener number fun listener => { listener with pending }
            some (some dialed, host.openHandle (.line dialed .second))
        | [] => none

-- The first step of closing: the handle goes, and with it the dials that wait.
def dropHandle (number : Nat) (host : Host) : Host :=
  let waiting := (host.listeners[number]?.map SocketListener.pending).getD []
  waiting.foldl (fun host dialed => host.updateConnection dialed (Connection.refuse .second))
    ((host.updateListener number fun listener =>
      { listener with closed := true, isOpen := false, pending := [] }).closeHandle
        (.listener number))

-- The second step for a path: this process no longer listens there.
def forget (text : String) (host : Host) : Host :=
  { host with bound := host.bound.filter (· != host.key text) }

-- The third step for a path: its file goes, if there is one.
def unlink (text : String) (host : Host) : Host :=
  match host.files.unlink (Path.parse text) with
  | .ok files => { host with files }
  | .error _ => host

-- Only the first time does anything.
def close (number : Nat) (host : Host) : Host :=
  match host.listeners[number]? with
  | none => host
  | some listener =>
      if listener.closed then host
      else
        match listener.station with
        | .path text => ((host.dropHandle number).forget text).unlink text
        | .port _ => host.dropHandle number

end Host

end FramedLines
