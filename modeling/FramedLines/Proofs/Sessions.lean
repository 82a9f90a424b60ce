import FramedLines.Proofs.History
import FramedLines.Proofs.Lists
import Mathlib.Logic.Relation

-- What programs do with a session, act by act, and the steps that the net behind it takes at each
-- of these acts.

namespace FramedLines

namespace Net

-- What the holder of a line does with it. Closing also frees what the line had of the host.
def call (id : LineId) (request : Connection.Call) (net : Net) : Net :=
  match request with
  | .close => net.closeLine id
  | request => (net.atLine id fun side c => request.perform side c).2

end Net

-- What a step does to the hubs: it makes a new one, or somebody acts at one that is there.
inductive Net.HubsStep (before : List Hub) : List Hub → Prop where
  | idle : HubsStep before before
  | grown (bufferSize : UInt64) : HubsStep before (before ++ [.ofSize bufferSize])
  | acted (number : Nat) (act : Hub.Act) :
      HubsStep before (before.modify number fun hub => (act.perform hub).2)

-- What a step does to the host.
inductive Net.HostStep (before : Host) : Host → Prop where
  | listenedTcp (endpoint : Endpoint) (interval : Duration) (number : Nat) (after : Host)
      (hlisten : before.listenTcp endpoint = .ok (number, after)) :
      HostStep before (after.setInterval number interval)
  | listenedLocal (endpoint : Endpoint) (interval : Duration) (number : Nat) (after : Host)
      (hlisten : before.listenLocal endpoint = (.ok number, after)) :
      HostStep before (after.setInterval number interval)
  | refusedLocal (endpoint : Endpoint) (fault : Fault) (after : Host)
      (hlisten : before.listenLocal endpoint = (.error fault, after)) : HostStep before after
  | dialedTcp (endpoint : Endpoint) (number : Nat) (after : Host)
      (hdial : before.dialTcp endpoint = .ok (number, after)) : HostStep before after
  | dialedLocal (endpoint : Endpoint) (number : Nat) (after : Host)
      (hdial : before.dialLocal endpoint = .ok (number, after)) : HostStep before after
  | accepted (number : Nat) (dialed? : Option Nat) (after : Host)
      (haccept : before.accept? number = some (dialed?, after)) : HostStep before after
  | called (number : Nat) (side : End) (request : Connection.Call) (c : Connection)
      (hconnection : before.connections[number]? = some c) :
      HostStep before (before.updateConnection number fun _ => (request.perform side c).2)
  | closedLine (number : Nat) (side : End) : HostStep before (before.closeLine number side)
  | closed (number : Nat) : HostStep before (before.close number)

namespace Net

-- A step of the net. Now and then somebody else may put files on the host.
inductive Step (refiles : Prop) (before : Net) : Net → Prop where
  | hubs {hubs : List Hub} (h : HubsStep before.hubs hubs) :
      Step refiles before { before with hubs }
  | host {host : Host} (h : HostStep before.host host) : Step refiles before { before with host }
  | refiled (hrefiles : refiles) (files : Files) :
      Step refiles before { before with host := { before.host with files } }

section Steps

variable {refiles : Prop} {before after : Net}

theorem Step.refl : Step refiles before before := .hubs .idle

theorem Step.mono {others : Prop} (hothers : refiles → others) (h : Step refiles before after) :
    Step others before after := by
  cases h with
  | hubs h => exact .hubs h
  | host h => exact .host h
  | refiled hrefiles files => exact .refiled (hothers hrefiles) files

theorem steps_mono {others : Prop} (hothers : refiles → others)
    (h : Relation.ReflTransGen (Step refiles) before after) :
    Relation.ReflTransGen (Step others) before after :=
  Relation.ReflTransGen.mono (fun _ _ => Step.mono hothers) _ _ h

-- What each step keeps, all of them keep.
theorem kept_of_steps {P : Net → Prop}
    (hstep : ∀ {one next}, Step refiles one next → P one → P next)
    (h : Relation.ReflTransGen (Step refiles) before after) (hbefore : P before) : P after := by
  induction h with
  | refl => exact hbefore
  | tail _ hlast ih => exact hstep hlast ih

-- The hubs know nothing of the host.
theorem Step.hubsStep (h : Step refiles before after) : HubsStep before.hubs after.hubs := by
  cases h with
  | hubs h => exact h
  | host h => exact .idle
  | refiled hrefiles files => exact .idle

-- What every act does to a hub, or leaves alone, is what becomes of each hub in a step.
theorem HubsStep.getElem? {R : Hub → Hub → Prop} (hrefl : ∀ hub, R hub hub)
    (hact : ∀ (act : Hub.Act) (hub : Hub), R hub (act.perform hub).2) {before after : List Hub}
    (h : HubsStep before after) {number : Nat} {hub : Hub} (hhub : before[number]? = some hub) :
    ∃ next, after[number]? = some next ∧ R hub next := by
  cases h with
  | idle => exact ⟨hub, hhub, hrefl hub⟩
  | grown bufferSize =>
      rw [List.getElem?_append_left (List.getElem?_eq_some_iff.mp hhub).1]
      exact ⟨hub, hhub, hrefl hub⟩
  | acted actor act =>
      rw [List.getElem?_modify, hhub]
      by_cases hactor : actor = number
      · exact ⟨(act.perform hub).2, by simp [hactor], hact act hub⟩
      · exact ⟨hub, by simp [hactor], hrefl hub⟩

theorem HubsStep.forall {P : Hub → Prop} (hnew : ∀ bufferSize, P (.ofSize bufferSize))
    (hact : ∀ (act : Hub.Act) (hub : Hub), P hub → P (act.perform hub).2)
    {before after : List Hub} (h : HubsStep before after) (hall : ∀ hub ∈ before, P hub) :
    ∀ hub ∈ after, P hub := by
  cases h with
  | idle => exact hall
  | grown bufferSize =>
      rw [List.forall_mem_append]
      exact ⟨hall, List.forall_mem_singleton.mpr (hnew bufferSize)⟩
  | acted actor act =>
      intro next hnext
      obtain ⟨number, hnumber⟩ := List.getElem?_of_mem hnext
      rw [List.getElem?_modify] at hnumber
      obtain ⟨hub, hhub, rfl⟩ := Option.map_eq_some_iff.mp hnumber
      have hmem := hall hub (List.mem_of_getElem? hhub)
      split
      · exact hact act hub hmem
      · exact hmem

-- Nobody can do anything at a hub that is not there.
theorem step_setHub {number : Nat} {hub : Hub} (act : Hub.Act)
    (hact : (act.perform (before.hubs[number]?.getD (.ofSize 0))).2 = hub) :
    Step refiles before (before.setHub number hub) := by
  have hset : before.hubs.set number hub =
      before.hubs.modify number fun hub => (act.perform hub).2 := by
    rw [List.set_eq_modify]
    refine modify_congr fun old hold => ?_
    rw [← hact, hold, Option.getD_some]
  rw [setHub, hset]
  exact .hubs (.acted number act)

theorem step_listen (transport : Transport) (endpoint : Endpoint) :
    Step refiles before (before.listen transport endpoint).2 := by
  cases transport with
  | inproc number =>
      simp only [Net.listen]
      cases hlisten : (before.hubs[number]?.getD (.ofSize 0)).listen endpoint with
      | error fault => exact .refl
      | ok made => exact step_setHub (.listen endpoint) (by simp only [Hub.Act.perform, hlisten])
  | tcp interval =>
      simp only [Net.listen]
      cases hlisten : before.host.listenTcp endpoint with
      | error fault => exact .refl
      | ok made => exact .host (.listenedTcp endpoint interval _ _ hlisten)
  | «local» interval =>
      simp only [Net.listen]
      rcases hlisten : before.host.listenLocal endpoint with ⟨fault | listener, host⟩
      · exact .host (.refusedLocal endpoint fault host hlisten)
      · exact .host (.listenedLocal endpoint interval listener host hlisten)

-- How a dial comes through, in the hub or the host that its transport stands for.
inductive Dialed (before : Net) (endpoint : Endpoint) : Transport → LineId → Net → Prop where
  | hub {number connection : Nat} {hub : Hub}
      (hdialed : (before.hubs[number]?.getD (.ofSize 0)).dial endpoint = .ok (connection, hub)) :
      Dialed before endpoint (.inproc number) (.hub number connection .first)
        (before.setHub number hub)
  | tcp {interval : Duration} {connection : Nat} {host : Host}
      (hdialed : before.host.dialTcp endpoint = .ok (connection, host)) :
      Dialed before endpoint (.tcp interval) (.socket connection .first) { before with host }
  | local {interval : Duration} {connection : Nat} {host : Host}
      (hdialed : before.host.dialLocal endpoint = .ok (connection, host)) :
      Dialed before endpoint (.local interval) (.socket connection .first) { before with host }

theorem dialed_of_dial {transport : Transport} {endpoint : Endpoint} {id : LineId}
    (hdial : before.dial transport endpoint = .ok (id, after)) :
    Dialed before endpoint transport id after := by
  cases transport with
  | inproc number =>
      simp only [Net.dial] at hdial
      cases hdialed : (before.hubs[number]?.getD (.ofSize 0)).dial endpoint <;>
        rw [hdialed] at hdial <;> cases hdial
      exact .hub hdialed
  | tcp interval =>
      simp only [Net.dial] at hdial
      cases hdialed : before.host.dialTcp endpoint <;> rw [hdialed] at hdial <;> cases hdial
      exact .tcp hdialed
  | «local» interval =>
      simp only [Net.dial] at hdial
      cases hdialed : before.host.dialLocal endpoint <;> rw [hdialed] at hdial <;> cases hdial
      exact .local hdialed

theorem step_dial {transport : Transport} {endpoint : Endpoint} {id : LineId}
    (hdial : before.dial transport endpoint = .ok (id, after)) : Step refiles before after := by
  cases dialed_of_dial hdial with
  | hub hdialed =>
      exact step_setHub (.dial endpoint) (by simp only [Hub.Act.perform, hdialed])
  | tcp hdialed => exact .host (.dialedTcp endpoint _ _ hdialed)
  | «local» hdialed => exact .host (.dialedLocal endpoint _ _ hdialed)

theorem step_accept? {id : AcceptorId} {line? : Option LineId}
    (haccept : before.accept? id = some (line?, after)) : Step refiles before after := by
  cases id with
  | hub number listener =>
      simp only [Net.accept?] at haccept
      obtain ⟨⟨dialed?, hub⟩, haccepted, hafter⟩ := Option.map_eq_some_iff.mp haccept
      cases hafter
      exact step_setHub (.wait listener .zero)
        (by simp only [Hub.Act.perform, Hub.wait, haccepted, Prod.map_snd, id_eq])
  | socket listener =>
      simp only [Net.accept?] at haccept
      obtain ⟨⟨dialed?, host⟩, haccepted, hafter⟩ := Option.map_eq_some_iff.mp haccept
      cases hafter
      exact .host (.accepted listener dialed? host haccepted)

theorem step_closeLine (id : LineId) : Step refiles before (before.closeLine id) := by
  cases id with
  | hub number connection side =>
      have hsame : before.hubs.modify number
            (fun hub => hub.updateConnection connection (Connection.close side)) =
          before.hubs.modify number
            fun hub => ((Hub.Act.call connection side .close).perform hub).2 := by
        refine modify_congr fun hub hhub => ?_
        simp only [Hub.Act.perform, Connection.Call.perform, Hub.updateConnection]
        cases hconnection : hub.connections[connection]? with
        | none => rw [List.modify_eq_self (List.getElem?_eq_none_iff.mp hconnection)]
        | some c =>
            have hclosed : hub.connections.modify connection (Connection.close side) =
                hub.connections.modify connection fun _ => c.close side :=
              modify_congr fun other hother => by
                cases hconnection.symm.trans hother
                rfl
            rw [hclosed]
      have h : Step refiles before _ := .hubs (.acted number (.call connection side .close))
      rwa [← hsame] at h
  | socket connection side => exact .host (.closedLine connection side)

theorem call_eq {id : LineId} {request : Connection.Call} (hclose : request ≠ .close) :
    before.call id request = (before.atLine id fun side c => request.perform side c).2 := by
  cases request <;> first | rfl | exact absurd rfl hclose

theorem call_of_connection {id : LineId} {request : Connection.Call} {c : Connection}
    (hclose : request ≠ .close) (hconnection : before.connection? id = some c) :
    before.call id request = before.update id fun _ => (request.perform id.side c).2 := by
  rw [call_eq hclose, atLine, hconnection]

theorem step_call (id : LineId) (request : Connection.Call) :
    Step refiles before (before.call id request) := by
  by_cases hclose : request = .close
  · rw [hclose]
    exact step_closeLine id
  · cases hconnection : before.connection? id with
    | none =>
        rw [call_eq hclose, atLine, hconnection]
        exact .refl
    | some c =>
        rw [call_of_connection hclose hconnection]
        cases id with
        | hub number connection side =>
            obtain ⟨hub, hhub, hc⟩ := Option.bind_eq_some_iff.mp hconnection
            have hsame : before.hubs.modify number
                  (fun hub => hub.updateConnection connection fun _ => (request.perform side c).2) =
                before.hubs.modify number
                  fun hub => ((Hub.Act.call connection side request).perform hub).2 := by
              refine modify_congr fun other hother => ?_
              cases hhub.symm.trans hother
              simp only [Hub.Act.perform, hc]
            have h : Step refiles before _ := .hubs (.acted number (.call connection side request))
            rwa [← hsame] at h
        | socket connection side => exact .host (.called connection side request c hconnection)

theorem step_closeAcceptor (id : AcceptorId) : Step refiles before (before.closeAcceptor id) := by
  cases id with
  | hub number listener => exact .hubs (.acted number (.close listener))
  | socket listener => exact .host (.closed listener)

end Steps

end Net

namespace Session

inductive Act where
  | addManager (name : String) (config : ManagerConfig)
  | addTransport (name : String) (scheme : Scheme) (bufferSize : UInt64) (interval : Duration)
  | listen (name : String) (transport : Transport) (endpoint : Endpoint)
  | serve (name : String) (manager : Manager) (uri : String)
  | dial (name : String) (transport : Transport) (endpoint : Endpoint)
  | call (name : String) (manager : Manager) (uri : String)
  -- one look for a connection, to be known by a name
  | accept (acceptor : AcceptorId) (name : String)
  | ask (line : LineId) (request : Connection.Call)
  | dropLine (name : String)
  | closeAcceptor (acceptor : AcceptorId)
  | dropAcceptor (name : String)
  | addPoller (name : String) (interval : Duration)
  | watch (poller : PollerId) (key : String) (line : LineId) (interest : Events)
  | unwatch (poller : PollerId) (key : Nat)
  | check (poller : PollerId)
  | notice (poller : PollerId)
  | engage (poller : PollerId)
  | disengage (poller : PollerId)
  | makeFile (text : String) (node : Node)

-- What is left of the session when an act comes to nothing is what it was before.
def Act.perform (session : Session) : Act → Session
  | addManager name config => session.addManager name config
  | addTransport name scheme bufferSize interval =>
      session.addTransport name scheme bufferSize interval
  | listen name transport endpoint => (session.listen name transport endpoint).2
  | serve name manager uri => (session.serve name manager uri).2
  | dial name transport endpoint =>
      match session.dial name transport endpoint with
      | .ok (_, after) => after
      | .error _ => session
  | call name manager uri =>
      match session.call name manager uri with
      | .ok (_, after) => after
      | .error _ => session
  | accept acceptor name =>
      match session.accept? acceptor name with
      | some (_, after) => after
      | none => session
  | ask line request => { session with net := session.net.call line request }
  | dropLine name => (session.dropLine name).2
  | closeAcceptor acceptor => session.closeAcceptor acceptor
  | dropAcceptor name => (session.dropAcceptor name).2
  | addPoller name interval => session.addPoller name (.withInterval interval)
  | watch poller key line interest => (session.watch poller key line interest).2
  | unwatch poller key => (session.unwatch poller key).2
  | check poller => (session.check poller).2
  | notice poller => (session.notice poller).2
  | engage poller => session.engage poller
  | disengage poller => session.disengage poller
  | makeFile text node => session.makeFile text node

-- What nobody does but somebody else, who puts files where he likes.
def Act.refiles : Act → Bool
  | makeFile .. => true
  | _ => false

def performAll (acts : List Act) (session : Session) : Session := acts.foldl Act.perform session

-- What a program that starts on a host has made of its session.
def after (host : Host) (acts : List Act) : Session := performAll acts (start host)

section Steps

variable {refiles : Prop} {before : Net} {session next : Session} {name : String}

-- Whatever had the name is let go.
theorem nameLine_steps (id : LineId)
    (h : Relation.ReflTransGen (Net.Step refiles) before session.net) :
    Relation.ReflTransGen (Net.Step refiles) before (nameLine name id session).net := by
  unfold nameLine
  cases session.line? name with
  | none => exact h
  | some old => exact h.tail (Net.step_closeLine old)

theorem nameAcceptor_steps (id : AcceptorId)
    (h : Relation.ReflTransGen (Net.Step refiles) before session.net) :
    Relation.ReflTransGen (Net.Step refiles) before (nameAcceptor name id session).net := by
  unfold nameAcceptor
  cases session.acceptor? name with
  | none => exact h
  | some old => exact h.tail (Net.step_closeAcceptor old)

theorem enroll_steps {outcome : Except Fault AcceptorId × Net}
    (h : Relation.ReflTransGen (Net.Step refiles) before outcome.2) :
    Relation.ReflTransGen (Net.Step refiles) before (session.enroll name outcome).2.net := by
  obtain ⟨result, net⟩ := outcome
  unfold enroll
  cases result with
  | error fault => exact h
  | ok id =>
      rcases hacceptor : net.acceptor? id with _ | ⟨endpoint, closed⟩
      · simpa only [hacceptor] using h
      · simp only [hacceptor]
        exact nameAcceptor_steps id h

theorem attach_steps {outcome : Except Failure (LineId × Net)} {line : Line}
    (h : ∀ id net, outcome = .ok (id, net) → Relation.ReflTransGen (Net.Step refiles) before net)
    (hattach : session.attach name outcome = .ok (line, next)) :
    Relation.ReflTransGen (Net.Step refiles) before next.net := by
  unfold attach at hattach
  rcases outcome with failure | ⟨id, net⟩
  · cases hattach
  · rcases hline : net.line? id with _ | line
    · simp only [hline] at hattach
      cases hattach
    · simp only [hline] at hattach
      cases hattach
      exact nameLine_steps id (h id net rfl)

theorem accept?_steps {acceptor : AcceptorId} {line? : Option Line}
    (haccept : session.accept? acceptor name = some (line?, next)) :
    Relation.ReflTransGen (Net.Step refiles) session.net next.net := by
  unfold accept? at haccept
  rcases hnet : session.net.accept? acceptor with _ | ⟨_ | id, net⟩
  all_goals
    simp only [hnet] at haccept
    cases haccept
  · exact .single (Net.step_accept? hnet)
  · exact nameLine_steps id (.single (Net.step_accept? hnet))

end Steps

theorem Act.steps (act : Act) (session : Session) :
    Relation.ReflTransGen (Net.Step (act.refiles = true)) session.net
      (act.perform session).net := by
  cases act with
  | addManager name config => exact .single (.hubs (.grown config.inprocBufferSize))
  | addTransport name scheme bufferSize interval =>
      cases scheme with
      | inproc => exact .single (.hubs (.grown bufferSize))
      | tcp => exact .refl
      | «local» => exact .refl
  | listen name transport endpoint =>
      exact enroll_steps (.single (Net.step_listen transport endpoint))
  | serve name manager uri =>
      refine enroll_steps ?_
      unfold Manager.createServer
      cases Endpoint.parse uri with
      | error fault => exact .refl
      | ok endpoint => exact .single (Net.step_listen _ endpoint)
  | dial name transport endpoint =>
      simp only [Act.perform]
      rcases hdial : session.dial name transport endpoint with failure | ⟨line, after⟩
      · exact .refl
      · exact attach_steps
          (fun id net hnet => .single (Net.step_dial hnet)) hdial
  | call name manager uri =>
      simp only [Act.perform]
      rcases hcall : session.call name manager uri with failure | ⟨line, after⟩
      · exact .refl
      · refine attach_steps (fun id net hnet => ?_) hcall
        unfold Manager.createClient at hnet
        cases hparse : Endpoint.parse uri with
        | error fault => simp [hparse] at hnet
        | ok endpoint =>
            simp only [hparse] at hnet
            exact .single (Net.step_dial hnet)
  | accept acceptor name =>
      simp only [Act.perform]
      rcases haccept : session.accept? acceptor name with _ | ⟨line?, after⟩
      · exact .refl
      · exact accept?_steps haccept
  | ask line request => exact .single (Net.step_call line request)
  | dropLine name =>
      simp only [Act.perform, Session.dropLine]
      cases session.line? name with
      | none => exact .refl
      | some id => exact .single (Net.step_closeLine id)
  | closeAcceptor acceptor => exact .single (Net.step_closeAcceptor acceptor)
  | dropAcceptor name =>
      simp only [Act.perform, Session.dropAcceptor]
      cases session.acceptor? name with
      | none => exact .refl
      | some id => exact .single (Net.step_closeAcceptor id)
  | watch poller key line interest =>
      simp only [Act.perform, Session.watch]
      cases (session.poller poller).add (session.net.source? line) interest with
      | error fault => exact .refl
      | ok made => exact .refl
  | makeFile text node => exact .single (.refiled rfl _)
  | _ => exact .refl

theorem performAll_steps (acts : List Act) (session : Session) :
    Relation.ReflTransGen (Net.Step (acts.any Act.refiles = true)) session.net
      (performAll acts session).net := by
  induction acts generalizing session with
  | nil => exact .refl
  | cons act acts ih =>
      simp only [List.any_cons, Bool.or_eq_true]
      exact (Net.steps_mono .inl (act.steps session)).trans (Net.steps_mono .inr (ih _))

-- What the acts do that have to do with neither managers nor what pollers hold.
def Act.isPlain : Act → Bool
  | addManager .. | addPoller .. | watch .. | unwatch .. | check .. | notice .. => false
  | _ => true

section Shapes

variable {name : String} {session next : Session} {line : Line} {line? : Option Line}

theorem enroll_eq (name : String) (outcome : Except Fault AcceptorId × Net) (session : Session) :
    ∃ net acceptors stations,
      (session.enroll name outcome).2 = { session with net, acceptors, stations } := by
  unfold enroll
  split
  · exact ⟨_, _, _, rfl⟩
  · split <;> exact ⟨_, _, _, rfl⟩

theorem attach_eq {outcome : Except Failure (LineId × Net)}
    (hattach : session.attach name outcome = .ok (line, next)) :
    ∃ net lines, next = { session with net, lines } := by
  unfold attach at hattach
  split at hattach
  · cases hattach
  · split at hattach <;> cases hattach
    exact ⟨_, _, rfl⟩

theorem accept?_eq {acceptor : AcceptorId}
    (haccept : session.accept? acceptor name = some (line?, next)) :
    ∃ net lines, next = { session with net, lines } := by
  unfold accept? at haccept
  split at haccept <;> cases haccept <;> exact ⟨_, _, rfl⟩

theorem Act.perform_of_isPlain {act : Act} (hplain : act.isPlain = true) (session : Session) :
    ∃ net transports acceptors lines engaged stations, act.perform session =
      { session with net, transports, acceptors, lines, engaged, stations } := by
  cases act with
  | addTransport name scheme bufferSize interval =>
      cases scheme <;> exact ⟨_, _, _, _, _, _, rfl⟩
  | listen name transport endpoint =>
      obtain ⟨net, acceptors, stations, hafter⟩ := enroll_eq name _ session
      exact ⟨net, _, acceptors, _, _, stations, hafter⟩
  | serve name manager uri =>
      obtain ⟨net, acceptors, stations, hafter⟩ := enroll_eq name _ session
      exact ⟨net, _, acceptors, _, _, stations, hafter⟩
  | dial name transport endpoint =>
      simp only [Act.perform]
      rcases hdial : session.dial name transport endpoint with failure | ⟨line, next⟩
      · exact ⟨_, _, _, _, _, _, rfl⟩
      · obtain ⟨net, lines, rfl⟩ := attach_eq hdial
        exact ⟨net, _, _, lines, _, _, rfl⟩
  | call name manager uri =>
      simp only [Act.perform]
      rcases hcall : session.call name manager uri with failure | ⟨line, next⟩
      · exact ⟨_, _, _, _, _, _, rfl⟩
      · obtain ⟨net, lines, rfl⟩ := attach_eq hcall
        exact ⟨net, _, _, lines, _, _, rfl⟩
  | accept acceptor name =>
      simp only [Act.perform]
      rcases haccept : session.accept? acceptor name with _ | ⟨line?, next⟩
      · exact ⟨_, _, _, _, _, _, rfl⟩
      · obtain ⟨net, lines, rfl⟩ := accept?_eq haccept
        exact ⟨net, _, _, lines, _, _, rfl⟩
  | dropLine name =>
      simp only [Act.perform, Session.dropLine]
      cases session.line? name <;> exact ⟨_, _, _, _, _, _, rfl⟩
  | dropAcceptor name =>
      simp only [Act.perform, Session.dropAcceptor]
      cases session.acceptor? name <;> exact ⟨_, _, _, _, _, _, rfl⟩
  | addManager | addPoller | watch | unwatch | check | notice => cases hplain
  | _ => exact ⟨_, _, _, _, _, _, rfl⟩

end Shapes

-- What each act keeps, all of them keep.
theorem kept_performAll {P : Session → Prop}
    (hact : ∀ (act : Act) (session : Session), P session → P (act.perform session))
    (acts : List Act) {session : Session} (h : P session) : P (performAll acts session) := by
  induction acts generalizing session with
  | nil => exact h
  | cons act acts ih => exact ih (hact act session h)

-- The managers that every program starts with were added to a session with nothing in it.
theorem kept_after {P : Session → Prop}
    (hact : ∀ (act : Act) (session : Session), P session → P (act.perform session))
    {host : Host} (hempty : P { net := { host } }) (acts : List Act) : P (after host acts) := by
  have hown := hact (.addManager "m" {}) _ hempty
  have hstart : P (start host) := hact (.addManager "global" {}) _ hown
  exact kept_performAll hact acts hstart

end Session

end FramedLines
