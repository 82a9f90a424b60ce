import FramedLines.Proofs.Dials

-- What becomes of the dials to the listeners of a hub, in every history: whoever waits gets them
-- in order, each with the line it belongs to, until the listener closes and drops the rest.

namespace FramedLines

namespace Hub

-- What every act preserves, all together.
structure Kept (history : History) : Prop where
  sound : history.hub.Sound
  ordered : Ordered history
  linked : Linked history

namespace Kept

variable {history : History}

theorem start (size : UInt64) : Kept { hub := .ofSize size } := by
  refine ⟨⟨List.nodup_nil, fun address number => ?_, fun number listener hlistener => ?_⟩,
    ⟨⟨fun _ _ => rfl, fun _ _ hdialed => ?_, fun _ => List.nodup_nil, fun _ _ _ hdialed => ?_,
        fun _ hheld => ?_⟩, fun _ _ hlistener => ?_, fun _ _ hlistener => ?_,
      fun _ => List.prefix_rfl⟩,
    ⟨fun _ _ hheld => ?_, fun _ _ _ => ⟨rfl, rfl⟩, fun _ _ hc => ?_, fun _ _ hlistener => ?_⟩⟩
  · simp [ofSize, listensAt]
  · cases hlistener
  · cases hdialed
  · cases hdialed
  · cases hheld
  · cases hlistener
  · cases hlistener
  · cases hheld
  · cases hc
  · cases hlistener

theorem extend (h : Kept history) {act : Act} (hadmits : history.admits act = true)
    (hreturned : (act.perform history.hub).1.hasReturned = true) : Kept (history.extend act) := by
  have heffect := perform_effect act history.hub
  rw [History.extend]
  generalize act.perform history.hub = done at heffect hreturned
  obtain ⟨outcome, after⟩ := done
  refine ⟨heffect.sound h.sound, h.ordered.record h.sound heffect, ?_⟩
  cases heffect with
  | listened endpoint hfree => exact h.linked.listen h.ordered rfl rfl
  | dialed endpoint number listener duplex hregistered hlistener hopen hpair =>
      have hclosed : listener.closed = false := by
        simpa [hopen] using h.sound.settled number listener hlistener
      exact h.linked.dial h.sound (h.sound.registered?_iff.mp hregistered) hlistener hclosed hpair
        rfl rfl
  | accepted number limit listener dialed pending hlistener hopen hpending =>
      exact h.linked.accept h.ordered hlistener hopen hpending rfl rfl
  | shut number listener hlistener hopen =>
      exact h.linked.shut h.ordered hlistener hopen (listeners_abandon ..) rfl rfl
  | called number side request c hconnection =>
      exact h.linked.call h.ordered hadmits hconnection hreturned rfl rfl
  | idle _ _ hidle => exact h.linked.idle hidle

theorem of (size : UInt64) (acts : List Act) : Kept (History.of size acts) :=
  History.of_induction size acts (start size) fun _ _ h hadmits hreturned =>
    h.extend hadmits hreturned

-- Dials go through where somebody listens, as long as there is a pair of pipes for them.
theorem dial_iff (h : Kept history) (endpoint : Endpoint) (dialed : Nat) :
    ((Act.dial endpoint).perform history.hub).1 = .dialed (.ok dialed) ↔
      (∃ number, history.hub.listensAt number endpoint.address = true) ∧
        (∃ duplex, Duplex.pair history.hub.bufferSize = .ok duplex) ∧
          dialed = history.hub.connections.length := by
  simp only [Act.perform, Hub.dial, seek]
  cases hregistered : history.hub.registered? endpoint.address with
  | none =>
      refine iff_of_false (by simp) ?_
      rintro ⟨⟨number, hlistens⟩, -⟩
      rw [h.sound.registered?_iff.mpr hlistens] at hregistered
      cases hregistered
  | some number =>
      have hlistens := h.sound.registered?_iff.mp hregistered
      obtain ⟨listener, hlistener, hopen⟩ := listener_of_listensAt hlistens
      have hsettled := h.sound.settled number listener hlistener
      have htakes : (history.hub.listeners[number]?.filter (·.isOpen)) = some listener := by
        rw [hlistener, Option.filter_some, hsettled, hopen]
        rfl
      simp only [enqueue]
      cases hpair : Duplex.pair history.hub.bufferSize with
      | error crash => simp
      | ok duplex =>
          simp only [htakes]
          constructor
          · intro hdialed
            cases hdialed
            exact ⟨⟨number, hlistens⟩, ⟨duplex, rfl⟩, rfl⟩
          · rintro ⟨-, -, rfl⟩
            rfl

-- The next one to be given out is the first dial that nobody got.
theorem wait_iff (h : Kept history) (number : Nat) (limit : Duration) (dialed : Nat) :
    (history.hub.wait number limit).1 = some (some dialed) ↔
      (∃ listener, history.hub.listeners[number]? = some listener ∧ listener.closed = false) ∧
        (history.dialsTo number)[(history.acceptedFrom number).length]? = some dialed := by
  rcases history.hub.wait_cases number limit with
    ⟨listener, first, pending, hlistener, hopen, hpending, hwait⟩ | ⟨hnone, hwait⟩
  · rw [hwait, ← h.ordered.queued number listener hlistener hopen, hpending,
      List.getElem?_append_right (Nat.le_refl _), Nat.sub_self]
    simp [hlistener, hopen]
  · refine iff_of_false ?_ ?_
    · rcases hwait with hwait | hwait <;> simp [hwait]
    · rintro ⟨⟨listener, hlistener, hopen⟩, hnext⟩
      rcases hnone listener hlistener with hclosed | hpending
      · rw [hopen] at hclosed
        cases hclosed
      · rw [← h.ordered.queued number listener hlistener hopen, hpending, List.append_nil,
          List.getElem?_length] at hnext
        cases hnext

-- A dial made a connection, and what is on its way there is all that has not arrived.
theorem piped (h : Kept history) {number dialed : Nat} (hdialed : dialed ∈ history.dialsTo number) :
    ∃ c duplex, history.hub.connections[dialed]? = some c ∧ c.Piped duplex ∧
      history.Balanced dialed duplex := by
  have hbound := h.ordered.made number dialed hdialed
  obtain ⟨duplex, hpiped, hbalanced⟩ :=
    h.linked.balanced dialed _ (List.getElem?_eq_getElem hbound)
  exact ⟨_, duplex, List.getElem?_eq_getElem hbound, hpiped, hbalanced⟩

-- Nobody has sent anything to a client whose dial nobody got.
theorem incoming_of_unclaimed (h : Kept history) {number dialed : Nat} {duplex : Duplex}
    (hdialed : dialed ∈ history.dialsTo number) (hnot : dialed ∉ history.acceptedFrom number)
    (hbalanced : history.Balanced dialed duplex) : (duplex.incoming .first).buffer = [] := by
  have hsame := hbalanced .first
  have hsilent := (h.linked.silent dialed .second (h.ordered.not_holds hdialed hnot)).1
  rw [show End.first.other = .second from rfl, hsilent] at hsame
  exact (List.append_eq_nil_iff.mp hsame.symm).2

-- Closing a listener touches only the connections that wait there.
theorem connections_close (h : Kept history) {number other dialed : Nat}
    (haccepted : dialed ∈ history.acceptedFrom other) :
    (history.hub.close number).connections[dialed]? = history.hub.connections[dialed]? := by
  have heffect := perform_effect (.close number) history.hub
  change Effect _ _ _ (history.hub.close number) at heffect
  generalize history.hub.close number = after at heffect
  cases heffect with
  | shut _ listener hlistener hopen =>
      refine connections_abandon_of_notMem (fun hmem => ?_) _
      obtain ⟨hdialed, hnot⟩ := (h.ordered.mem_pending hlistener hopen).mp hmem
      have hsame :=
        h.ordered.apart number other dialed hdialed ((h.ordered.inOrder other).subset haccepted)
      exact hnot (hsame ▸ haccepted)
  | idle _ _ _ => rfl

end Kept

-- No dial is lost, given out twice or mixed up with another. A dial makes a connection; whoever
-- dialed has its first end, and whoever is given the dial has its second.
structure Faithful (history : History) : Prop where
  dials : ∀ endpoint dialed, ((Act.dial endpoint).perform history.hub).1 = .dialed (.ok dialed) ↔
    (∃ number, history.hub.listensAt number endpoint.address = true) ∧
      (∃ duplex, Duplex.pair history.hub.bufferSize = .ok duplex) ∧
        dialed = history.hub.connections.length
  dialed : ∀ dialed, history.holds dialed .first = true ↔
    ∃ number, dialed ∈ history.dialsTo number
  accepted : ∀ dialed, history.holds dialed .second = true ↔
    ∃ number, dialed ∈ history.acceptedFrom number
  -- however long somebody waits
  waits : ∀ number limit dialed, (history.hub.wait number limit).1 = some (some dialed) ↔
    (∃ listener, history.hub.listeners[number]? = some listener ∧ listener.closed = false) ∧
      (history.dialsTo number)[(history.acceptedFrom number).length]? = some dialed
  inOrder : ∀ number, history.acceptedFrom number <+: history.dialsTo number
  distinct : ∀ number, (history.dialsTo number).Nodup
  apart : ∀ one other dialed, dialed ∈ history.dialsTo one → dialed ∈ history.dialsTo other →
    one = other
  -- what arrives is what was sent, and what is still to come can be read at once
  carried : ∀ number, ∀ dialed ∈ history.dialsTo number, ∃ c,
    history.hub.connections[dialed]? = some c ∧ ∀ side, ∃ rest,
      history.given dialed side.other = history.got dialed side ++ rest ∧
      ((c.line side).closed = false → ∀ room, 0 < room →
        (rest ≠ [] → (c.read side room).1 = some (.ok (rest.take room))) ∧
        (rest = [] → (c.line side.other).closed = true → c.read side room = (some (.ok []), c)))
  -- what a closed listener has not given out is lost to whoever dialed
  dropped : ∀ (number : Nat) (listener : Listener),
    history.hub.listeners[number]? = some listener → listener.closed = true →
      ∀ dialed ∈ history.dialsTo number, dialed ∉ history.acceptedFrom number →
        ∃ c, history.hub.connections[dialed]? = some c ∧ (c.first.closed = false →
          (∀ room, 0 < room → c.read .first room = (some (.ok []), c)) ∧
          -- however long it takes to get to the pipe
          ∀ data spent, data ≠ [] → (c.write .first data spent).1 =
            some (.error (if (c.left .first spent).any Duration.isZero then
                Fault.timeout.withContext "no bytes accepted before send timeout"
              else Fault.ofIo (.bare .brokenPipe))))
  untouched : ∀ number other, ∀ dialed ∈ history.acceptedFrom other,
    (history.hub.close number).connections[dialed]? = history.hub.connections[dialed]?

theorem history_faithful (size : UInt64) (acts : List Act) : Faithful (History.of size acts) := by
  have h := Kept.of size acts
  refine ⟨h.dial_iff,
    fun dialed => ⟨h.ordered.heard dialed, fun ⟨_, hmem⟩ => History.holds_first_of_mem hmem⟩,
    fun _ => History.holds_second_iff, h.wait_iff, h.ordered.inOrder, h.ordered.distinct,
    h.ordered.apart, fun number dialed hdialed => ?_,
    fun number listener hlistener hclosed dialed hdialed hnot => ?_,
    fun number other dialed haccepted => h.connections_close haccepted⟩
  · obtain ⟨c, duplex, hc, hpiped, hbalanced⟩ := h.piped hdialed
    refine ⟨c, hc, fun side => ⟨_, hbalanced side, fun hopen room hroom => ⟨fun hrest => ?_,
      fun hrest hgone => ?_⟩⟩⟩
    · exact hpiped.read_buffered hopen hrest hroom
    · exact hpiped.read_orphaned hopen hgone hrest hroom
  · obtain ⟨c, duplex, hc, hpiped, hbalanced⟩ := h.piped hdialed
    obtain ⟨d, hd, hsecond⟩ := h.linked.unclaimed number listener hlistener dialed hdialed hnot
    obtain rfl := Option.some.inj (hc.symm.trans hd)
    have hgone : (c.line End.first.other).closed = true := by
      simp [End.other, Connection.line, hsecond, hclosed]
    refine ⟨c, hc, fun (hopen : (c.line .first).closed = false) =>
      ⟨fun room hroom => ?_, fun data spent hdata => ?_⟩⟩
    · exact hpiped.read_orphaned hopen hgone (h.incoming_of_unclaimed hdialed hnot hbalanced) hroom
    · exact hpiped.write_orphaned hopen hgone hdata spent

-- One of two dials is given out before the listener closes. The address is then another one's.
example :
    let endpoint : Endpoint := ⟨.inproc, "x"⟩
    let history := History.of 4 [.listen endpoint, .dial endpoint, .dial endpoint,
      .wait 0 .zero, .close 0, .listen endpoint, .dial endpoint]
    history.dialsTo 0 = [0, 1] ∧ history.acceptedFrom 0 = [0] ∧ history.dialsTo 1 = [2] := by
  decide +kernel

-- A client that is out of time before it gets to the pipe does not hear that nobody is there.
theorem dropped_client_times_out :
    let endpoint : Endpoint := ⟨.inproc, "x"⟩
    let history := History.of 64 [.listen endpoint, .dial endpoint,
      .call 0 .first (.setOption .sendTimeout (some ⟨1, by decide⟩)), .close 0]
    let fault := Fault.timeout.withContext "no bytes accepted before send timeout"
    history.hub.listeners.map Listener.closed = [true] ∧ history.dialsTo 0 = [0] ∧
      history.acceptedFrom 0 = [] ∧
      history.hub.connections.map (fun c => (c.write .first [1] 1).1) = [some (.error fault)] ∧
      fault.isConnectionLost = false := by
  decide +kernel

end Hub

end FramedLines
