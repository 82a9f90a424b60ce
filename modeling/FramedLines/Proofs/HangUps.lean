import FramedLines.Proofs.Hosts
import FramedLines.Proofs.Sockets
import FramedLines.Proofs.Turns
import FramedLines.Proofs.Watches

-- What those who watch one end of a connection see when the other end lets go, over each kind of
-- link. Over pipes they are told that nothing can be written any more, over sockets they are not.

namespace FramedLines

-- What is reported to those who watch for `interest` when nothing is left to read.
def Link.farewell (link : Link) (interest : Events) : Events :=
  match link with
  | .pipes _ => { read := interest.read, error := !interest.read }
  | .sockets pair =>
      { read := interest.read
        write := interest.write
        error := pair.family == .local && !interest.read }

-- What a write comes to that nobody reads.
def Link.orphaned (link : Link) (data : Bytes) : Except Fault WriteOutcome :=
  match link with
  | .pipes _ => .error (Fault.ofIo (.bare .brokenPipe))
  | .sockets pair =>
      match pair.family with
      | .local => .error (Fault.ofIo (.os .brokenPipe))
      -- over TCP it is taken and lost
      | .tcp => .ok ⟨data.length, data.length⟩

-- What they are to be told by rights: readers that the stream has ended and the others that the
-- line has failed, and nobody that a write would be taken.
def Events.hangUp (interest : Events) : Events :=
  { read := interest.read, error := !interest.read }

theorem Link.farewell_eq_hangUp_iff (link : Link) (interest : Events) :
    link.farewell interest = interest.hangUp ↔
      match link with
      | .pipes _ => True
      | .sockets pair =>
          interest.write = false ∧ (pair.family = .local ∨ interest.read = true) := by
  obtain ⟨read, write, error⟩ := interest
  cases link with
  | pipes duplex => simp [farewell, Events.hangUp]
  | sockets pair =>
      cases hfamily : pair.family <;> cases read <;> simp [farewell, Events.hangUp, hfamily]

theorem SocketPair.write_orphaned {pair : SocketPair} {side : End} {data : Bytes}
    (hdata : data ≠ []) (hgone : (pair.half side.other).released = true)
    (hsevered : (pair.half side).severed = false) :
    (pair.write side data).1 = match pair.family with
      | .local => .error (.os .brokenPipe)
      | .tcp => .ok data.length := by
  cases hfamily : pair.family <;> simp [SocketPair.write, hdata, hgone, hsevered, hfamily]

namespace Connection

variable {c : Connection} {side : End}

-- What is left of a connection for one end when the other has let go of it with nothing under way.
structure Ended (c : Connection) (side : End) : Prop where
  seen : ∀ interest, ((c.close side.other).link.readiness side).events interest =
    c.link.farewell interest
  reads : ∀ room, 0 < room → ((c.close side.other).read side room).1 = some (.ok [])
  -- as long as there is time
  writes : ∀ spent, (c.left side spent).any Duration.isZero = false → ∀ data, data ≠ [] →
    ((c.close side.other).write side data spent).1 = some (c.link.orphaned data)

theorem line_close_other (c : Connection) (side : End) :
    (c.close side.other).line side = c.line side := by
  cases hclosed : (c.line side.other).closed with
  | true => simp [close, hclosed]
  | false => cases side <;> simp only [close, hclosed] <;> rfl

theorem left_close_other (c : Connection) (side : End) (spent : Nat) :
    (c.close side.other).left side spent = c.left side spent := by
  rw [left, line_close_other, left]

theorem Piped.ended {duplex : Duplex} (h : c.Piped duplex)
    (hopen : ∀ viewer, (c.line viewer).closed = false)
    (hquiet : ∀ viewer, c.link.buffered viewer = 0) : c.Ended side := by
  obtain ⟨after, hafter, hmoves, -⟩ := h.close side.other
  have hline := line_close_other c side
  have hgone : ((c.close side.other).line side.other).closed = true := by
    simp [Connection.close, hopen side.other]
  have hopen' : ((c.close side.other).line side).closed = false := hline ▸ hopen side
  have hempty (viewer : End) : (after.incoming viewer).buffer = [] := by
    rw [hmoves.incoming_of_nil]
    have hlength := hquiet viewer
    rw [h.link] at hlength
    exact List.eq_nil_of_length_eq_zero hlength
  have hbroken (viewer : End) : (after.incoming viewer).connected = false := by
    rw [hafter.connected_of_open hopen' viewer, hgone]
    rfl
  refine ⟨fun interest => ?_, fun room hroom => ?_, fun spent hleft data hdata => ?_⟩
  · simp [h.link, hafter.link, Link.readiness, Duplex.readiness, Duplex.outgoing, hempty, hbroken,
      Readiness.events, Link.farewell]
  · rw [hafter.read_orphaned hopen' hgone (hempty side) hroom]
  · rw [hafter.write_orphaned hopen' hgone hdata, left_close_other, hleft, h.link]
    rfl

-- A write is over when its first attempt ends it.
theorem write_of_ended {data : Bytes} {spent : Nat} {result : Except Fault WriteOutcome}
    (hopen : (c.line side).closed = false) (hdata : data ≠ [])
    (hended : (c.attempt side (c.left side spent) ⟨data, 0⟩).1 = some (.ended result)) :
    (c.write side data spent).1 = some result := by
  have hbegin : c.begin side data = .ok ⟨data, 0⟩ := by simp [begin, hdata, hopen]
  rcases hattempt : c.attempt side (c.left side spent) ⟨data, 0⟩ with ⟨progress, next⟩
  rw [hattempt] at hended
  obtain rfl : progress = some (.ended result) := hended
  simp only [write, hbegin, finish, hattempt]

theorem attempt_orphaned {pair : SocketPair} (hlink : c.link = .sockets pair)
    (hgone : (pair.half side.other).released = true) (hsevered : (pair.half side).severed = false)
    {left : Option Duration} (hleft : left.any Duration.isZero = false) {data : Bytes}
    (hdata : data ≠ []) :
    (c.attempt side left ⟨data, 0⟩).1 = some (.ended (c.link.orphaned data)) := by
  obtain ⟨told, htold, hfamily, hother, hsame⟩ : ∃ told : SocketPair,
      (if left.isSome then c.link.setWriteLimit side left else c.link) = .sockets told ∧
        told.family = pair.family ∧ told.half side.other = pair.half side.other ∧
        (told.half side).severed = (pair.half side).severed := by
    rw [hlink]
    cases left with
    | none => exact ⟨pair, rfl, rfl, rfl, rfl⟩
    | some left => exact ⟨_, rfl, by cases side <;> rfl, by simp, by simp⟩
  have hwrite := SocketPair.write_orphaned hdata (hother ▸ hgone) (hsame.trans hsevered)
  simp only [attempt, hleft, Bool.false_eq_true, if_false, htold, Link.write?]
  rw [hlink, Link.orphaned]
  rw [hfamily] at hwrite
  rcases hwritten : told.write side data with ⟨result, after⟩
  rw [hwritten] at hwrite
  cases hpair : pair.family with
  | «local» =>
      rw [hpair] at hwrite
      obtain rfl : result = _ := hwrite
      rfl
  | tcp =>
      rw [hpair] at hwrite
      obtain rfl : result = _ := hwrite
      have hlength : data.length ≠ 0 := by simpa using hdata
      simp [Sending.advance_took hlength, Sending.outcome, hdata]

theorem Socketed.ended {pair : SocketPair} (h : c.Socketed pair)
    (hopen : ∀ viewer, (c.line viewer).closed = false)
    (hquiet : ∀ viewer, c.link.buffered viewer = 0) : c.Ended side := by
  have hempty (viewer : End) : (pair.half viewer).incoming = [] := by
    have hlength := hquiet viewer
    rw [h.link] at hlength
    exact List.eq_nil_of_length_eq_zero hlength
  have hthere (viewer : End) : (pair.half viewer).released = false :=
    (h.released viewer).trans (hopen viewer)
  obtain ⟨hsevered, hnews⟩ := h.sound side (hthere side.other)
  have hclose : (c.close side.other).link = .sockets (pair.release side.other) := by
    rw [h.close_eq (hopen side.other), link_setLine]
  have hline := line_close_other c side
  have hhalf : (pair.release side.other).half side = pair.half side := by
    simp only [SocketPair.release, hempty side.other]
    cases side <;> rfl
  have hgone : ((pair.release side.other).half side.other).released = true :=
    SocketPair.released_release pair side.other
  have hfamily : (pair.release side.other).family = pair.family := by cases side <;> rfl
  refine ⟨fun interest => ?_, fun room hroom => ?_, fun spent hleft data hdata => ?_⟩
  · simp [hclose, h.link, Link.readiness, SocketPair.readiness, hhalf, hgone, hfamily, hempty,
      hthere, hsevered, hnews, Readiness.events, Link.farewell]
  · have hzero : room ≠ 0 := Nat.ne_of_gt hroom
    simp [Connection.read, read?, hzero, hline, hopen, hclose, Link.read?, SocketPair.read?, hhalf,
      hgone, hempty, hnews, mapError_ok]
  · rw [← left_close_other] at hleft
    have hattempt := attempt_orphaned hclose hgone (hhalf ▸ hsevered) hleft hdata
    rw [write_of_ended (hline ▸ hopen side) hdata hattempt, hclose, h.link, Link.orphaned, hfamily]
    rfl

end Connection

-- The other end of the same connection.
def LineId.peer : LineId → LineId
  | .hub number connection side => .hub number connection side.other
  | .socket connection side => .socket connection side.other

namespace Net

variable {refiles : Prop} {before after net : Net} {id : LineId} {c : Connection}

-- All connections of a host are over sockets, which none of their ends has let go of unseen.
def Socketed (net : Net) : Prop := ∀ c ∈ net.host.connections, ∃ pair, c.Socketed pair

theorem Step.socketed (h : Step refiles before after) (hsocketed : before.Socketed) :
    after.Socketed := by
  cases h with
  | hubs h => exact hsocketed
  | host h =>
      exact h.effect.forall_connections
        (fun family first second => ⟨_, .of_family family first second⟩)
        (fun side request c ⟨pair, hpair⟩ => hpair.call side request)
        (fun c ⟨pair, hpair⟩ => hpair.refuse .second) hsocketed
  | refiled hrefiles files => exact hsocketed

theorem ended_of_quiet (hplumbed : net.Plumbed) (hsocketed : net.Socketed)
    (hconnection : net.connection? id = some c) (hopen : ∀ side, (c.line side).closed = false)
    (hquiet : ∀ side, c.link.buffered side = 0) : c.Ended id.side := by
  cases id with
  | hub number connection side =>
      obtain ⟨hub, hhub, hc⟩ := Option.bind_eq_some_iff.mp hconnection
      obtain ⟨duplex, hpiped⟩ := hplumbed hub (List.mem_of_getElem? hhub) connection c hc
      exact hpiped.ended hopen hquiet
  | socket connection side =>
      obtain ⟨pair, hpair⟩ := hsocketed c (List.mem_of_getElem? hconnection)
      exact hpair.ended hopen hquiet

theorem connection?_closeLine (hconnection : net.connection? id = some c) :
    (net.closeLine id.peer).connection? id = some (c.close id.side.other) := by
  have hpeer : net.connection? id.peer = some c := by cases id <;> exact hconnection
  cases id <;> exact connection?_update hpeer _

-- Whoever watches a line goes on watching it when the other end lets go.
theorem readiness_closeLine {source : Source} (hconnection : net.connection? id = some c)
    (hsource : net.source? id = some source) :
    (net.closeLine id.peer).readiness source =
      (c.close id.side.other).link.readiness id.side := by
  have hclosed := connection?_closeLine hconnection
  unfold source? at hsource
  split at hsource
  · cases hsource
  · cases id with
    | hub number connection side =>
        cases hsource
        simp only [readiness, hclosed]
    | socket connection side =>
        obtain ⟨descriptor, hdescriptor, rfl⟩ := Option.map_eq_some_iff.mp hsource
        obtain ⟨hbound, hheld, -⟩ := List.findIdx?_eq_some_iff_getElem.mp hdescriptor
        have hheld : net.host.descriptors[descriptor]? = some (some (.line connection side)) := by
          rw [List.getElem?_eq_getElem hbound, eq_of_beq hheld]
        have hother : Handle.line connection side ≠ .line connection side.other := by simp
        have hstill : (net.host.closeLine connection side.other).descriptors[descriptor]? =
            some (some (.line connection side)) := by
          simp [Host.closeLine, Host.closeHandle, Host.updateConnection, hheld, hother]
        have hclosed : (net.host.closeLine connection side.other).connections[connection]? = _ :=
          hclosed
        simp only [readiness, closeLine, LineId.peer, Host.readiness, hstill, Option.join_some,
          hclosed, Option.map_some, Option.getD_some, LineId.side]

end Net

namespace Session

theorem Wired.reported {session : Session} (h : session.Wired) (id : PollerId) {watch : Watch}
    (hwatch : watch ∈ (session.poller id).watches) :
    ((session.check id).2.poller id).eventsFor watch.key =
      (session.net.readiness watch.source).events watch.interest := by
  rw [poller_check]
  exact Poller.lookup_found (h.poller id).distinct hwatch

theorem socketed_after (files : Files) (hasRoute : Bool) (pace : Nat) (acts : List Act) :
    (after { files, hasRoute, pace } acts).net.Socketed := by
  refine Net.kept_of_steps Net.Step.socketed
    (performAll_steps acts (start { files, hasRoute, pace })) ?_
  rintro c ⟨⟩

-- What becomes of a line with nothing under way when the other end lets go, and what a poller finds
-- that watches it. That is wrong for those who watch for writes over sockets, and over TCP for
-- those who do not watch for reads.
structure HangsUp (session : Session) (id : LineId) (c : Connection) (poller : PollerId)
    (watch : Watch) : Prop where
  left : ((Act.ask id.peer .close).perform session).net.connection? id =
    some (c.close id.side.other)
  ended : c.Ended id.side
  reported : ((((Act.ask id.peer .close).perform session).check poller).2.poller poller).eventsFor
    watch.key = c.link.farewell watch.interest
  alike : c.link.farewell watch.interest = watch.interest.hangUp ↔
    match c.link with
    | .pipes _ => True
    | .sockets pair =>
        watch.interest.write = false ∧ (pair.family = .local ∨ watch.interest.read = true)

theorem hang_up_depends_on_link (files : Files) (hasRoute : Bool) (pace : Nat) (acts : List Act)
    {id : LineId} {c : Connection} {poller : PollerId} {watch : Watch}
    (hconnection : (after { files, hasRoute, pace } acts).net.connection? id = some c)
    (hopen : ∀ side, (c.line side).closed = false)
    (hquiet : ∀ side, c.link.buffered side = 0)
    (hsource : (after { files, hasRoute, pace } acts).net.source? id = some watch.source)
    (hwatch : watch ∈ ((after { files, hasRoute, pace } acts).poller poller).watches) :
    (after { files, hasRoute, pace } acts).HangsUp id c poller watch := by
  have hwired := Wired.after { files, hasRoute, pace } acts
  have hended := Net.ended_of_quiet hwired.plumbed (socketed_after files hasRoute pace acts)
    hconnection hopen hquiet
  refine ⟨Net.connection?_closeLine hconnection, hended, ?_, c.link.farewell_eq_hangUp_iff _⟩
  have hreported := (hwired.perform (.ask id.peer .close)).reported poller hwatch
  rw [hreported, ← hended.seen]
  exact congrArg (Readiness.events · watch.interest) (Net.readiness_closeLine hconnection hsource)

-- Over TCP those who only watch for writes hear nothing of it.
theorem hang_up_depends_on_link_tcp :
    let transport : Transport := .tcp (Duration.ofMillis 5)
    let endpoint : Endpoint := ⟨.tcp, "127.0.0.1:7000"⟩
    let line : LineId := .socket 0 .second
    let c : Connection := ⟨.sockets { family := .tcp }, { endpoint }, { endpoint }⟩
    let session := after {} [.listen "a" transport endpoint, .dial "c" transport endpoint,
      .accept (.socket 0) "s", .addPoller "p" (Duration.ofMillis 5),
      .watch 0 "k" line { write := true }]
    session.net.connection? line = some c ∧ (∀ side, (c.line side).closed = false) ∧
      (∀ side, c.link.buffered side = 0) ∧
      session.HangsUp line c 0 ⟨0, .descriptor 2, { write := true }⟩ := by
  intro transport endpoint line c session
  have hconnection : session.net.connection? line = some c := by decide +kernel
  have hopen : ∀ side, (c.line side).closed = false := fun side => by cases side <;> rfl
  have hquiet : ∀ side, c.link.buffered side = 0 := fun side => by cases side <;> rfl
  exact ⟨hconnection, hopen, hquiet, hang_up_depends_on_link {} true 40 _ hconnection hopen hquiet
    (by decide +kernel) (by decide +kernel)⟩

-- Over a local socket they are told that they can write, and they cannot.
theorem local_hang_up_looks_writable :
    let transport : Transport := .local (Duration.ofMillis 5)
    let endpoint : Endpoint := ⟨.local, "/s"⟩
    let line : LineId := .socket 0 .second
    let interest : Events := { write := true }
    let session := after {} [.listen "a" transport endpoint, .dial "c" transport endpoint,
      .accept (.socket 0) "s", .addPoller "p" (Duration.ofMillis 5), .watch 0 "k" line interest,
      .ask line.peer .close]
    ((session.check 0).2.poller 0).eventsFor 0 = { write := true, error := true } ∧
      interest.hangUp = { error := true } ∧
      (session.net.connection? line).map (fun c => (c.write line.side [1] 40).1) =
        some (some (.error (Fault.ofIo (.os .brokenPipe)))) := by
  decide +kernel

end Session

end FramedLines
