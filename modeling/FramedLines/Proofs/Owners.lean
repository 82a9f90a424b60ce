import FramedLines.Manager
import FramedLines.Proofs.Calls
import FramedLines.Proofs.Lists

-- Owners of hubs: managers, and transports that stand alone. Whoever has a hub makes listeners and
-- connections in it, and holds on to them after the manager or the transport itself has gone.

namespace FramedLines

-- Through what an owner makes listeners and connections.
inductive Maker where
  | manager (config : ManagerConfig)
  | transport
  | gone
deriving DecidableEq

structure Holding where
  -- the number of its hub
  hub : Nat
  maker : Maker
deriving DecidableEq

namespace Holding

def manager? (holding : Holding) : Option Manager :=
  match holding.maker with
  | .manager config => some { config, hub := holding.hub }
  | _ => none

def transport? (holding : Holding) : Option Transport :=
  match holding.maker with
  | .transport => some (.inproc holding.hub)
  | _ => none

end Holding

-- What an owner does. Listeners and connections are those of its own hub.
inductive Deed where
  | foundManager (config : ManagerConfig)
  | foundTransport (bufferSize : UInt64)
  -- lets the manager or the transport go
  | retire
  | serve (uri : String)
  | call (uri : String)
  | listen (endpoint : Endpoint)
  | dial (endpoint : Endpoint)
  -- the same two on a transport that stands alone, which does not look at the scheme
  | bind (endpoint : Endpoint)
  | connect (endpoint : Endpoint)
  | wait (listener : Nat) (limit : Duration)
  | close (listener : Nat)
  | ask (connection : Nat) (side : End) (request : Connection.Call)

-- What an owner gets to see of it.
inductive Report where
  | done
  | refused (failure : Failure)
  | acceptor (listener : Nat) (seen : Option (Endpoint × Bool))
  | line (connection : Nat) (side : End) (seen : Option Line)
  | nobody
  -- it waits for ever, or until somebody else does something
  | waits
  | outcome (outcome : Connection.Outcome)
  -- it was made on the host and not in a hub
  | elsewhere
  -- there is nothing to do it with
  | absent

namespace Deed

-- Whether it can only concern the hub of whoever does it.
def isInproc : Deed → Bool
  | serve uri | call uri =>
      match Endpoint.parse uri with
      | .ok endpoint => endpoint.scheme == .inproc
      | .error _ => true
  | listen endpoint | dial endpoint => endpoint.scheme == .inproc
  | _ => true

section Nets

variable (net : Net)

def acceptorReport : AcceptorId → Report
  | .hub hub listener => .acceptor listener (net.acceptor? (.hub hub listener))
  | .socket _ => .elsewhere

def lineReport : LineId → Report
  | .hub hub connection side => .line connection side (net.line? (.hub hub connection side))
  | .socket .. => .elsewhere

def enroll : Except Fault AcceptorId × Net → Report × Net
  | (.ok id, net) => (acceptorReport net id, net)
  | (.error fault, net) => (.refused (.fault fault), net)

def attach : Except Failure (LineId × Net) → Report × Net
  | .ok (id, net) => (lineReport net id, net)
  | .error failure => (.refused failure, net)

-- With what an owner has.
def carryOut (holding : Holding) : Deed → Report × Net
  | serve uri =>
      match holding.manager? with
      | some manager => enroll (manager.createServer uri net)
      | none => (.absent, net)
  | call uri =>
      match holding.manager? with
      | some manager => attach net (manager.createClient uri net)
      | none => (.absent, net)
  | listen endpoint =>
      match holding.manager? with
      | some manager => enroll (manager.listen endpoint net)
      | none => (.absent, net)
  | dial endpoint =>
      match holding.manager? with
      | some manager => attach net (manager.dial endpoint net)
      | none => (.absent, net)
  | bind endpoint =>
      match holding.transport? with
      | some transport => enroll (net.listen transport endpoint)
      | none => (.absent, net)
  | connect endpoint =>
      match holding.transport? with
      | some transport => attach net (net.dial transport endpoint)
      | none => (.absent, net)
  | wait listener limit =>
      match net.accept? (.hub holding.hub listener) with
      | some (some id, net) => (lineReport net id, net)
      | some (none, net) => (.nobody, net)
      | none => (if limit.expires then .nobody else .waits, net)
  | close listener => (.done, net.closeAcceptor (.hub holding.hub listener))
  | ask connection side request =>
      match net.atLine (.hub holding.hub connection side) fun side c => request.perform side c with
      | (some outcome, net) => (.outcome outcome, net)
      | (none, net) => (.absent, net)
  | retire => (.done, net)
  | foundManager _ | foundTransport _ => (.absent, net)

-- What somebody gets who had nothing.
def found? : Deed → Option (Holding × Net)
  | foundManager config =>
      let (manager, net) := Manager.create config net
      some (⟨manager.hub, .manager config⟩, net)
  | foundTransport bufferSize =>
      let (hub, net) := net.addHub bufferSize
      some (⟨hub, .transport⟩, net)
  | _ => none

-- What an owner still makes things through.
def remaining (maker : Maker) : Deed → Maker
  | retire => .gone
  | _ => maker

-- Nobody is the owner of more than one hub.
def perform (deed : Deed) : Option Holding → Report × Option Holding × Net
  | none =>
      match deed.found? net with
      | some (holding, net) => (.done, some holding, net)
      | none => (.absent, none, net)
  | some holding =>
      let (report, net) := deed.carryOut net holding
      (report, some { holding with maker := deed.remaining holding.maker }, net)

end Nets

end Deed

-- What an owner has, without any numbers that would tell of others.
structure Estate where
  hub : Hub
  maker : Maker
deriving DecidableEq

namespace Deed

section Hubs

variable (hub : Hub)

def enrollIn : Except Fault (Nat × Hub) → Report × Hub
  | .ok (listener, hub) =>
      (.acceptor listener
        ((hub.listeners[listener]?).map fun found => (found.endpoint, found.closed)), hub)
  | .error fault => (.refused (.fault fault), hub)

def attachIn : Except Failure (Nat × Hub) → Report × Hub
  | .ok (connection, hub) =>
      (.line connection .first ((hub.connections[connection]?).map Connection.first), hub)
  | .error failure => (.refused failure, hub)

-- The same without the net around it.
def act (maker : Maker) : Deed → Report × Hub
  | serve uri =>
      match maker, Endpoint.parse uri with
      | .manager _, .ok endpoint => enrollIn hub (hub.listen endpoint)
      | .manager _, .error fault => (.refused (.fault fault), hub)
      | _, _ => (.absent, hub)
  | call uri =>
      match maker, Endpoint.parse uri with
      | .manager _, .ok endpoint => attachIn hub (hub.dial endpoint)
      | .manager _, .error fault => (.refused (.fault fault), hub)
      | _, _ => (.absent, hub)
  | listen endpoint =>
      match maker with
      | .manager _ => enrollIn hub (hub.listen endpoint)
      | _ => (.absent, hub)
  | dial endpoint =>
      match maker with
      | .manager _ => attachIn hub (hub.dial endpoint)
      | _ => (.absent, hub)
  | bind endpoint =>
      match maker with
      | .transport => enrollIn hub (hub.listen endpoint)
      | _ => (.absent, hub)
  | connect endpoint =>
      match maker with
      | .transport => attachIn hub (hub.dial endpoint)
      | _ => (.absent, hub)
  | wait listener limit =>
      match hub.accept? listener with
      | some (some connection, hub) =>
          (.line connection .second ((hub.connections[connection]?).map Connection.second), hub)
      | some (none, hub) => (.nobody, hub)
      | none => (if limit.expires then .nobody else .waits, hub)
  | close listener => (.done, hub.close listener)
  | ask connection side request =>
      match hub.connections[connection]? with
      | some c =>
          let (outcome, c) := request.perform side c
          (.outcome outcome, hub.updateConnection connection fun _ => c)
      | none => (.absent, hub)
  | retire => (.done, hub)
  | foundManager _ | foundTransport _ => (.absent, hub)

end Hubs

def settled? : Deed → Option Estate
  | foundManager config => some ⟨.ofSize config.inprocBufferSize, .manager config⟩
  | foundTransport bufferSize => some ⟨.ofSize bufferSize, .transport⟩
  | _ => none

-- What a deed does to what its owner has.
def exert (deed : Deed) : Option Estate → Report × Option Estate
  | none =>
      match deed.settled? with
      | some estate => (.done, some estate)
      | none => (.absent, none)
  | some estate =>
      let (report, hub) := deed.act estate.hub estate.maker
      (report, some ⟨hub, deed.remaining estate.maker⟩)

end Deed

namespace Net

variable {net : Net} {number : Nat} {hub : Hub}

theorem setHub_self (hhub : net.hubs[number]? = some hub) : net.setHub number hub = net := by
  obtain ⟨hbound, rfl⟩ := List.getElem?_eq_some_iff.mp hhub
  simp [setHub]

theorem hubs_setHub (hhub : net.hubs[number]? = some hub) (next : Hub) :
    (net.setHub number next).hubs[number]? = some next :=
  List.getElem?_set_self (List.getElem?_eq_some_iff.mp hhub).1

end Net

namespace Deed

section InHubs

variable {net : Net} {holding : Holding} {hub : Hub}

theorem enroll_listen (hhub : net.hubs[holding.hub]? = some hub) (endpoint : Endpoint) :
    enroll (net.listen (.inproc holding.hub) endpoint) =
      Prod.map id (net.setHub holding.hub) (enrollIn hub (hub.listen endpoint)) := by
  simp only [Net.listen, hhub, Option.getD_some]
  cases hub.listen endpoint with
  | error fault => simp [enroll, enrollIn, Net.setHub_self hhub]
  | ok made =>
      have hafter := Net.hubs_setHub hhub made.2
      have hseen : (net.setHub holding.hub made.2).acceptor? (.hub holding.hub made.1) =
          (made.2.listeners[made.1]?).map fun found => (found.endpoint, found.closed) := by
        simp only [Net.acceptor?, hafter, Option.map_eq_bind]
        rfl
      simp [enroll, enrollIn, acceptorReport, hseen]

theorem line?_setHub (hhub : net.hubs[holding.hub]? = some hub) (next : Hub) (connection : Nat)
    (side : End) : (net.setHub holding.hub next).line? (.hub holding.hub connection side) =
      (next.connections[connection]?).map fun c => c.line side := by
  simp only [Net.line?, Net.connection?, Net.hubs_setHub hhub, Option.bind_some]
  rfl

theorem attach_dial (hhub : net.hubs[holding.hub]? = some hub) (endpoint : Endpoint) :
    attach net (net.dial (.inproc holding.hub) endpoint) =
      Prod.map id (net.setHub holding.hub) (attachIn hub (hub.dial endpoint)) := by
  simp only [Net.dial, hhub, Option.getD_some]
  cases hub.dial endpoint with
  | error failure => simp [attach, attachIn, Except.map, Net.setHub_self hhub]
  | ok made =>
      have hseen := line?_setHub hhub made.2 made.1 .first
      simp [attach, attachIn, Except.map, lineReport, hseen]
      rfl

-- In a hub it does not matter what is around it.
theorem carryOut_eq (hhub : net.hubs[holding.hub]? = some hub) {deed : Deed}
    (hinproc : deed.isInproc = true) :
    deed.carryOut net holding =
      Prod.map id (net.setHub holding.hub) (deed.act hub holding.maker) := by
  have hself := Net.setHub_self hhub
  obtain ⟨number, maker⟩ := holding
  cases deed with
  | serve uri =>
      cases maker with
      | manager config =>
          simp only [carryOut, Holding.manager?, Manager.createServer, act]
          cases hparse : Endpoint.parse uri with
          | error fault => simp [enroll, hself]
          | ok endpoint =>
              simp only [isInproc, hparse, beq_iff_eq] at hinproc
              simp only [Manager.listen, hinproc, Manager.transport]
              exact enroll_listen hhub endpoint
      | _ => simp [carryOut, Holding.manager?, act, hself]
  | call uri =>
      cases maker with
      | manager config =>
          simp only [carryOut, Holding.manager?, Manager.createClient, act]
          cases hparse : Endpoint.parse uri with
          | error fault => simp [attach, hself]
          | ok endpoint =>
              simp only [isInproc, hparse, beq_iff_eq] at hinproc
              simp only [Manager.dial, hinproc, Manager.transport]
              exact attach_dial hhub endpoint
      | _ => simp [carryOut, Holding.manager?, act, hself]
  | listen endpoint =>
      simp only [isInproc, beq_iff_eq] at hinproc
      cases maker with
      | manager config =>
          simp only [carryOut, Holding.manager?, Manager.listen, hinproc, Manager.transport, act]
          exact enroll_listen hhub endpoint
      | _ => simp [carryOut, Holding.manager?, act, hself]
  | dial endpoint =>
      simp only [isInproc, beq_iff_eq] at hinproc
      cases maker with
      | manager config =>
          simp only [carryOut, Holding.manager?, Manager.dial, hinproc, Manager.transport, act]
          exact attach_dial hhub endpoint
      | _ => simp [carryOut, Holding.manager?, act, hself]
  | bind endpoint =>
      cases maker with
      | transport =>
          simp only [carryOut, Holding.transport?, act]
          exact enroll_listen hhub endpoint
      | _ => simp [carryOut, Holding.transport?, act, hself]
  | connect endpoint =>
      cases maker with
      | transport =>
          simp only [carryOut, Holding.transport?, act]
          exact attach_dial hhub endpoint
      | _ => simp [carryOut, Holding.transport?, act, hself]
  | wait listener limit =>
      simp only [carryOut, Net.accept?, hhub, Option.getD_some, act]
      rcases hub.accept? listener with _ | ⟨_ | connection, after⟩
      · simp [hself]
      · rfl
      · have hseen := line?_setHub hhub after connection .second
        simp [lineReport, hseen]
        rfl
  | close listener =>
      have hclosed : net.closeAcceptor (.hub number listener) =
          net.setHub number (hub.close listener) := by
        simp [Net.closeAcceptor, Net.setHub, modify_eq_set hhub]
      simp only [carryOut, hclosed]
      rfl
  | ask connection side request =>
      simp only [carryOut, Net.atLine, Net.connection?, hhub, Option.bind_some, act]
      cases hub.connections[connection]? with
      | none => simp [hself]
      | some c =>
          have hupdated (next : Connection) :
              net.update (.hub number connection side) (fun _ => next) =
                net.setHub number (hub.updateConnection connection fun _ => next) := by
            simp [Net.update, Net.setHub, modify_eq_set hhub]
          simp only [hupdated]
          rfl
  | _ => simp [carryOut, act, hself]

end InHubs

end Deed

end FramedLines
