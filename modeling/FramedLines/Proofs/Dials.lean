import FramedLines.Proofs.Backlog

-- The connections of a hub. Whoever dialed has one end of a connection, whoever accepted that dial
-- has the other, and nobody else has either.

namespace FramedLines

namespace Hub

section Idle

variable {before : Hub} {act : Act} {outcome : Outcome} (connection : Nat) (side : End)

theorem Step.given_idle (hidle : outcome.isIdle = true) :
    Step.given connection side ⟨before, act, outcome⟩ = [] := by
  unfold given
  split
  · simp_all [Outcome.isIdle]
  · rfl

theorem Step.got_idle (hidle : outcome.isIdle = true) :
    Step.got connection side ⟨before, act, outcome⟩ = [] := by
  unfold got
  split
  · simp_all [Outcome.isIdle]
  · rfl

end Idle

-- What has gone out at one end of a connection has come in at the other, or is under way.
def History.Balanced (history : History) (connection : Nat) (duplex : Duplex) : Prop :=
  ∀ side : End, history.given connection side.other =
    history.got connection side ++ (duplex.incoming side).buffer

namespace History.Balanced

variable {history : History} {number connection : Nat} {side : End} {request : Connection.Call}
  {outcome : Connection.Outcome} {after : Hub} {duplex moved : Duplex}

theorem call (h : history.Balanced number duplex)
    (hmoves : Connection.Moves side (Connection.given request outcome) outcome.got duplex moved) :
    (history.record (.call number side request) (.called (some outcome)) after).Balanced number
      moved := by
  intro viewer
  rw [History.given_record, History.got_record, h viewer]
  rcases End.eq_or_eq_other viewer side with rfl | rfl
  · simp [Step.given, Step.got, hmoves.incoming]
  · simpa [Step.given, Step.got, Duplex.outgoing] using hmoves.outgoing

theorem call_of_ne (h : history.Balanced connection duplex) (hne : number ≠ connection) :
    (history.record (.call number side request) (.called (some outcome)) after).Balanced connection
      duplex := by
  intro viewer
  simp [History.given_record, History.got_record, Step.given, Step.got, hne, h viewer]

end History.Balanced

-- Nobody can have touched a line that nobody got. The other line of a dial is as it was made until
-- somebody gets it, or until its listener closes and takes it along.
structure Linked (history : History) : Prop where
  held : ∀ connection side, history.holds connection side = true →
    connection < history.hub.connections.length
  silent : ∀ connection side, history.holds connection side = false →
    history.given connection side = [] ∧ history.got connection side = []
  balanced : ∀ (connection : Nat) (c : Connection),
    history.hub.connections[connection]? = some c →
      ∃ duplex, c.Piped duplex ∧ history.Balanced connection duplex
  unclaimed : ∀ (number : Nat) (listener : Listener),
    history.hub.listeners[number]? = some listener →
      ∀ dialed ∈ history.dialsTo number, dialed ∉ history.acceptedFrom number →
        ∃ c, history.hub.connections[dialed]? = some c ∧
          c.second = { endpoint := listener.endpoint, closed := listener.closed }

namespace Ordered

variable {history : History} {number dialed : Nat} {listener : Listener}

theorem mem_pending (h : Ordered history)
    (hlistener : history.hub.listeners[number]? = some listener)
    (hopen : listener.closed = false) :
    dialed ∈ listener.pending ↔
      dialed ∈ history.dialsTo number ∧ dialed ∉ history.acceptedFrom number := by
  have hdistinct := h.distinct number
  rw [← h.queued number listener hlistener hopen] at hdistinct ⊢
  have hnot : dialed ∈ listener.pending → dialed ∉ history.acceptedFrom number :=
    fun hpending haccepted => (List.disjoint_of_nodup_append hdistinct) haccepted hpending
  rw [List.mem_append]
  tauto

theorem nodup_pending (h : Ordered history)
    (hlistener : history.hub.listeners[number]? = some listener)
    (hopen : listener.closed = false) : listener.pending.Nodup := by
  have hdistinct := h.distinct number
  rw [← h.queued number listener hlistener hopen] at hdistinct
  exact hdistinct.of_append_right

-- Nobody got the line of a dial that was not accepted by the listener it went to.
theorem not_holds (h : Ordered history) (hdialed : dialed ∈ history.dialsTo number)
    (hnot : dialed ∉ history.acceptedFrom number) : history.holds dialed .second = false := by
  refine Bool.eq_false_iff.mpr fun hholds => ?_
  obtain ⟨other, hother⟩ := History.holds_second_iff.mp hholds
  have hsame := h.apart number other dialed hdialed ((h.inOrder other).subset hother)
  exact hnot (hsame ▸ hother)

end Ordered

-- Which dials wait at a listener makes no difference to where it listens.
theorem getElem?_modify_pending {listeners : List Listener} {pending : Listener → List Nat}
    {number index : Nat} {listener : Listener}
    (hlistener : (listeners.modify number fun listener =>
      { listener with pending := pending listener })[index]? = some listener) :
    ∃ old, listeners[index]? = some old ∧ listener.endpoint = old.endpoint ∧
      listener.closed = old.closed := by
  rcases getElem?_modify_cases hlistener with ⟨-, old, hold, rfl⟩ | ⟨-, hold⟩
  · exact ⟨old, hold, rfl, rfl⟩
  · exact ⟨listener, hold, rfl, rfl⟩

theorem connections_abandon_of_notMem {dialed : List Nat} {number : Nat}
    (hnot : number ∉ dialed) (hub : Hub) :
    (hub.abandon dialed).connections[number]? = hub.connections[number]? := by
  induction dialed generalizing hub with
  | nil => rfl
  | cons first dialed ih =>
      rw [List.mem_cons, not_or] at hnot
      exact (ih hnot.2 _).trans (List.getElem?_modify_ne _ _ (Ne.symm hnot.1))

theorem connections_abandon_of_mem {dialed : List Nat} {number : Nat}
    (hdistinct : dialed.Nodup) (hmem : number ∈ dialed) (hub : Hub) :
    (hub.abandon dialed).connections[number]? =
      (hub.connections[number]?).map (Connection.refuse .second) := by
  induction dialed generalizing hub with
  | nil => cases hmem
  | cons first dialed ih =>
      rw [List.nodup_cons] at hdistinct
      rcases List.mem_cons.mp hmem with rfl | hmem
      · exact (connections_abandon_of_notMem hdistinct.1 _).trans (List.getElem?_modify_eq ..)
      · have hne : first ≠ number := fun h => hdistinct.1 (h ▸ hmem)
        exact (ih hdistinct.2 hmem _).trans
          (congrArg (Option.map _) (List.getElem?_modify_ne _ _ hne))

namespace Linked

variable {history : History} {act : Act} {outcome : Outcome} {after : Hub}

-- Acts at which no octets go anywhere.
theorem of_quiet (h : Linked history)
    (hquiet : ∀ connection side, Step.given connection side ⟨history.hub, act, outcome⟩ = [] ∧
      Step.got connection side ⟨history.hub, act, outcome⟩ = [])
    (hheld : ∀ connection side, Step.hands connection side ⟨history.hub, act, outcome⟩ = true →
      connection < after.connections.length)
    (hlength : history.hub.connections.length ≤ after.connections.length)
    (hbalanced : ∀ (connection : Nat) (c : Connection),
      after.connections[connection]? = some c →
        ∃ duplex, c.Piped duplex ∧ history.Balanced connection duplex)
    (hunclaimed : ∀ (number : Nat) (listener : Listener),
      after.listeners[number]? = some listener →
        ∀ dialed ∈ (history.record act outcome after).dialsTo number,
          dialed ∉ (history.record act outcome after).acceptedFrom number →
            ∃ c, after.connections[dialed]? = some c ∧
              c.second = { endpoint := listener.endpoint, closed := listener.closed }) :
    Linked (history.record act outcome after) := by
  refine ⟨fun connection side hholds => ?_, fun connection side hholds => ?_,
    fun connection c hc => ?_, hunclaimed⟩
  · rw [History.holds_record, Bool.or_eq_true] at hholds
    rcases hholds with hholds | hhands
    · exact Nat.lt_of_lt_of_le (h.held connection side hholds) hlength
    · exact hheld connection side hhands
  · rw [History.holds_record, Bool.or_eq_false_iff] at hholds
    obtain ⟨hgiven, hgot⟩ := h.silent connection side hholds.1
    obtain ⟨hnone, hnothing⟩ := hquiet connection side
    rw [History.given_record, History.got_record, hgiven, hgot, hnone, hnothing]
    exact ⟨rfl, rfl⟩
  · obtain ⟨duplex, hpiped, hsame⟩ := hbalanced connection c hc
    refine ⟨duplex, hpiped, fun side => ?_⟩
    rw [History.given_record, History.got_record, (hquiet connection side.other).1,
      (hquiet connection side).2, List.append_nil, List.append_nil]
    exact hsame side

theorem idle (h : Linked history) (hidle : outcome.isIdle = true) :
    Linked (history.record act outcome history.hub) := by
  refine h.of_quiet
    (fun _ _ => ⟨Step.given_idle _ _ hidle, Step.got_idle _ _ hidle⟩)
    (fun connection side hhands => ?_) (Nat.le_refl _) h.balanced
    fun number listener hlistener dialed hdialed hnot => ?_
  · rw [Step.hands_idle hidle] at hhands
    cases hhands
  · refine h.unclaimed number listener hlistener dialed ?_ ?_
    · simpa [History.dialsTo_record, Step.dialTo?_idle hidle] using hdialed
    · simpa [History.acceptedFrom_record, Step.acceptFrom?_idle hidle] using hnot

theorem listen (h : Linked history) (hordered : Ordered history) {endpoint : Endpoint}
    (hlisteners : after.listeners = history.hub.listeners ++ [({ endpoint } : Listener)])
    (hconnections : after.connections = history.hub.connections) :
    Linked (history.record (.listen endpoint) (.listened (.ok history.hub.listeners.length))
      after) := by
  refine h.of_quiet (fun _ _ => ⟨rfl, rfl⟩) (fun connection side hhands => ?_)
    (Nat.le_of_eq (by rw [hconnections])) (fun connection c hc => ?_)
    fun number listener hlistener dialed hdialed hnot => ?_
  · cases side <;> cases hhands
  · rw [hconnections] at hc
    exact h.balanced connection c hc
  · replace hdialed : dialed ∈ history.dialsTo number := by
      simpa [History.dialsTo_record, Step.dialTo?] using hdialed
    replace hnot : dialed ∉ history.acceptedFrom number := by
      simpa [History.acceptedFrom_record, Step.acceptFrom?] using hnot
    rw [hlisteners] at hlistener
    rw [hconnections]
    by_cases hnumber : number < history.hub.listeners.length
    · rw [List.getElem?_append_left hnumber] at hlistener
      exact h.unclaimed number listener hlistener dialed hdialed hnot
    · rw [hordered.unborn number (Nat.le_of_not_lt hnumber)] at hdialed
      cases hdialed

theorem dial (h : Linked history) (hsound : history.hub.Sound) {endpoint : Endpoint}
    {number : Nat} {listener : Listener} {duplex : Duplex}
    (hlistens : history.hub.listensAt number endpoint.address = true)
    (hlistener : history.hub.listeners[number]? = some listener) (hopen : listener.closed = false)
    (hpair : Duplex.pair history.hub.bufferSize = .ok duplex)
    (hlisteners : after.listeners = history.hub.listeners.modify number fun listener =>
      { listener with pending := listener.pending ++ [history.hub.connections.length] })
    (hconnections : after.connections = history.hub.connections ++
      [⟨.pipes duplex, { endpoint }, { endpoint := listener.endpoint }⟩]) :
    Linked (history.record (.dial endpoint) (.dialed (.ok history.hub.connections.length))
      after) := by
  refine h.of_quiet (fun _ _ => ⟨rfl, rfl⟩) (fun connection side hhands => ?_)
    (by simp [hconnections]) (fun connection c hc => ?_)
    fun index other hother dialed hdialed hnot => ?_
  · cases side with
    | first =>
        obtain rfl : history.hub.connections.length = connection := of_decide_eq_true hhands
        rw [hconnections, List.length_append]
        exact Nat.lt_succ_self _
    | second => cases hhands
  · rw [hconnections] at hc
    by_cases hnew : connection < history.hub.connections.length
    · rw [List.getElem?_append_left hnew] at hc
      exact h.balanced connection c hc
    · -- Nobody has got a line of the new connection before, so nothing has gone over it.
      rw [List.getElem?_append_right (Nat.le_of_not_lt hnew)] at hc
      obtain rfl := List.mem_singleton.mp (List.mem_of_getElem? hc)
      obtain ⟨hpiped, hempty⟩ := Connection.Piped.of_pair hpair { endpoint }
        { endpoint := listener.endpoint } rfl rfl
      have hnobody (side : End) : history.holds connection side = false :=
        Bool.eq_false_iff.mpr fun hholds => hnew (h.held connection side hholds)
      refine ⟨duplex, hpiped, fun side => ?_⟩
      rw [(h.silent connection side.other (hnobody _)).1,
        (h.silent connection side (hnobody _)).2, hempty]
      rfl
  · rw [hlisteners] at hother
    obtain ⟨old, hold, hendpoint, hclosed⟩ := getElem?_modify_pending hother
    rw [History.acceptedFrom_record_dial] at hnot
    rw [hendpoint, hclosed, hconnections]
    rcases (History.mem_dialsTo_record_dial hsound hlistens).mp hdialed with
      hdialed | ⟨rfl, rfl⟩
    · obtain ⟨c, hc, hsecond⟩ := h.unclaimed index old hold dialed hdialed hnot
      rw [List.getElem?_append_left (List.getElem?_eq_some_iff.mp hc).1]
      exact ⟨c, hc, hsecond⟩
    · rw [hlistener] at hold
      cases hold
      exact ⟨_, List.getElem?_concat_length, by rw [hopen]⟩

-- Whoever is given a dial gets its line as it was made.
theorem accept (h : Linked history) (hordered : Ordered history) {number : Nat} {limit : Duration}
    {listener : Listener} {dialed : Nat} {pending : List Nat}
    (hlistener : history.hub.listeners[number]? = some listener) (hopen : listener.closed = false)
    (hpending : listener.pending = dialed :: pending)
    (hlisteners : after.listeners = history.hub.listeners.modify number fun listener =>
      { listener with pending })
    (hconnections : after.connections = history.hub.connections) :
    Linked (history.record (.wait number limit) (.waited (some (some dialed))) after) := by
  refine h.of_quiet (fun _ _ => ⟨rfl, rfl⟩) (fun connection side hhands => ?_)
    (Nat.le_of_eq (by rw [hconnections])) (fun connection c hc => ?_)
    fun index other hother waiting hwaiting hnot => ?_
  · cases side with
    | first => cases hhands
    | second =>
        obtain rfl : dialed = connection := of_decide_eq_true hhands
        have hmem : dialed ∈ listener.pending := by rw [hpending]; exact List.mem_cons_self
        rw [hconnections]
        exact hordered.made number dialed ((hordered.mem_pending hlistener hopen).mp hmem).1
  · rw [hconnections] at hc
    exact h.balanced connection c hc
  · rw [hlisteners] at hother
    obtain ⟨old, hold, hendpoint, hclosed⟩ := getElem?_modify_pending hother
    rw [hendpoint, hclosed, hconnections]
    rw [History.dialsTo_record_wait] at hwaiting
    rw [History.acceptedFrom_record_wait, List.mem_append, not_or] at hnot
    exact h.unclaimed index old hold waiting hwaiting hnot.1

-- A listener that closes takes along the lines that wait at it, and no others.
theorem shut (h : Linked history) (hordered : Ordered history) {number : Nat}
    {listener : Listener}
    (hlistener : history.hub.listeners[number]? = some listener) (hopen : listener.closed = false)
    {shut : Hub} (hlisteners : after.listeners = history.hub.listeners.modify number fun listener =>
      { listener with closed := true, isOpen := false, pending := [] })
    (hconnections : after.connections = (shut.abandon listener.pending).connections)
    (hshut : shut.connections = history.hub.connections) :
    Linked (history.record (.close number) .closed after) := by
  have hkept {dialed : Nat} (hnot : dialed ∉ listener.pending) :
      after.connections[dialed]? = history.hub.connections[dialed]? := by
    rw [hconnections, connections_abandon_of_notMem hnot, hshut]
  have hrefused {dialed : Nat} (hmem : dialed ∈ listener.pending) : after.connections[dialed]? =
      (history.hub.connections[dialed]?).map (Connection.refuse .second) := by
    rw [hconnections,
      connections_abandon_of_mem (hordered.nodup_pending hlistener hopen) hmem, hshut]
  refine h.of_quiet (fun _ _ => ⟨rfl, rfl⟩) (fun connection side hhands => ?_)
    (Nat.le_of_eq (by rw [hconnections, length_connections_abandon, hshut]))
    (fun connection c hc => ?_) fun index other hother dialed hdialed hnot => ?_
  · cases side <;> cases hhands
  · by_cases hmem : connection ∈ listener.pending
    · rw [hrefused hmem] at hc
      obtain ⟨old, hold, rfl⟩ := Option.map_eq_some_iff.mp hc
      obtain ⟨duplex, hpiped, hbalanced⟩ := h.balanced connection old hold
      obtain ⟨after, hafter, hmoves, -⟩ := hpiped.refuse .second
      refine ⟨after, hafter, fun side => ?_⟩
      rw [hbalanced side, hmoves.incoming_of_nil]
    · rw [hkept hmem] at hc
      exact h.balanced connection c hc
  · replace hdialed : dialed ∈ history.dialsTo index := by
      simpa [History.dialsTo_record, Step.dialTo?] using hdialed
    replace hnot : dialed ∉ history.acceptedFrom index := by
      simpa [History.acceptedFrom_record, Step.acceptFrom?] using hnot
    rw [hlisteners] at hother
    rcases getElem?_modify_cases hother with ⟨rfl, old, hold, rfl⟩ | ⟨hindex, hold⟩
    · rw [hlistener] at hold
      cases hold
      obtain ⟨c, hc, hsecond⟩ := h.unclaimed number listener hlistener dialed hdialed hnot
      rw [hrefused ((hordered.mem_pending hlistener hopen).mpr ⟨hdialed, hnot⟩), hc]
      exact ⟨_, rfl, by rw [Connection.second_refuse, hsecond]⟩
    · rw [hkept fun hmem => hindex (hordered.apart number index dialed
        ((hordered.mem_pending hlistener hopen).mp hmem).1 hdialed)]
      exact h.unclaimed index other hold dialed hdialed hnot

-- Only who holds a line can call at it.
theorem call (h : Linked history) (hordered : Ordered history) {number : Nat} {side : End}
    {request : Connection.Call} {c : Connection}
    (hholds : history.holds number side = true)
    (hconnection : history.hub.connections[number]? = some c)
    (hreturned : (request.perform side c).1.hasReturned = true)
    (hlisteners : after.listeners = history.hub.listeners)
    (hconnections : after.connections =
      history.hub.connections.modify number fun _ => (request.perform side c).2) :
    Linked (history.record (.call number side request) (.called (some (request.perform side c).1))
      after) := by
  obtain ⟨duplex, hpiped, hbalanced⟩ := h.balanced number c hconnection
  obtain ⟨moved, hmoved, hmoves, hother⟩ := hpiped.perform side request hreturned
  have hholds' (connection : Nat) (viewer : End) :
      (history.record (.call number side request) (.called (some (request.perform side c).1))
        after).holds connection viewer = history.holds connection viewer := by
    rw [History.holds_record]
    cases viewer <;> exact Bool.or_false _
  refine ⟨fun connection viewer hheld => ?_, fun connection viewer hfree => ?_,
    fun connection d hd => ?_, fun index listener hlistener dialed hdialed hnot => ?_⟩
  · rw [hholds'] at hheld
    rw [History.record, hconnections, List.length_modify]
    exact h.held connection viewer hheld
  · rw [hholds'] at hfree
    obtain ⟨hgiven, hgot⟩ := h.silent connection viewer hfree
    have hnot : ¬(number = connection ∧ side = viewer) := by
      rintro ⟨rfl, rfl⟩
      rw [hholds] at hfree
      cases hfree
    simp [History.given_record, History.got_record, hgiven, hgot, Step.given, Step.got, hnot]
  · rw [History.record, hconnections] at hd
    rcases getElem?_modify_cases hd with ⟨rfl, -, -, rfl⟩ | ⟨hne, hold⟩
    · exact ⟨moved, hmoved, hbalanced.call hmoves⟩
    · obtain ⟨duplex, hpiped, hbalanced⟩ := h.balanced connection d hold
      exact ⟨duplex, hpiped, hbalanced.call_of_ne hne⟩
  · replace hdialed : dialed ∈ history.dialsTo index := by
      simpa [History.dialsTo_record, Step.dialTo?] using hdialed
    replace hnot : dialed ∉ history.acceptedFrom index := by
      simpa [History.acceptedFrom_record, Step.acceptFrom?] using hnot
    rw [History.record, hlisteners] at hlistener
    obtain ⟨d, hd, hsecond⟩ := h.unclaimed index listener hlistener dialed hdialed hnot
    rw [History.record, hconnections, List.getElem?_modify, hd]
    refine ⟨_, rfl, ?_⟩
    by_cases hsame : number = dialed
    · -- The caller has the other line of this dial.
      subst hsame
      rw [hconnection] at hd
      cases hd
      cases side with
      | first => exact (congrArg _ (if_pos rfl)).trans (hother.trans hsecond)
      | second =>
          rw [hordered.not_holds hdialed hnot] at hholds
          cases hholds
    · simpa [hsame] using hsecond

end Linked

end Hub

end FramedLines
