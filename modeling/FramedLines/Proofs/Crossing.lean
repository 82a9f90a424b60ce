import FramedLines.Proofs.Dispatch
import FramedLines.Proofs.Pipes
import FramedLines.Proofs.Reception

-- Messages between the two ends of an in-process connection. Calls come in any order, one at a
-- time, and what is in the pipe between two of them is whole messages.

namespace FramedLines

-- One end sends, with so many nanoseconds spent before it gets to the link, and may close its line;
-- the other end reads. Neither keeps anything from one call to the next.
inductive Act where
  | send (message : Message) (spent : Nat)
  | receive
  | close

-- What an act came to. A call without a result has not returned.
inductive Outcome where
  | sent (message : Message) (result : Option (Except Fault Unit))
  | received (result : Option (Except Fault (Option Message)))
  | closed
deriving DecidableEq

namespace Outcome

-- The message that a sender was told has gone out.
def sent? : Outcome → Option Message
  | sent message (some (.ok ())) => some message
  | _ => none

-- The message that a reader got.
def received? : Outcome → Option Message
  | received (some (.ok (some message))) => some message
  | _ => none

-- The sender was told that only a part of the message has gone out.
def isCut : Outcome → Bool
  | sent _ (some (.error fault)) =>
      fault.isTimeout && fault.context.any fun text =>
        "message cut after ".toList.isPrefixOf text.toList
  | _ => false

theorem isCut_of_short (message : Message) {outcome : WriteOutcome}
    (hshort : outcome.isShort = true) :
    isCut (sent message (some (Message.sendResult (.ok outcome)))) = true := by
  rw [Message.sendResult, if_pos hshort]
  refine Bool.and_eq_true_iff.mpr ⟨rfl, List.isPrefixOf_iff_prefix.mpr ?_⟩
  simp only [String.toList_append, List.append_assoc]
  exact List.prefix_append _ _

end Outcome

-- An act with the connection before and after it.
structure Step where
  before : Connection
  outcome : Outcome
  after : Connection

def Act.perform (limits : Limits) (side : End) (before : Connection) : Act → Step
  | send message spent =>
      let (result, after) := (message.send limits).run (Connection.byteLine side spent) before
      ⟨before, .sent message result, after⟩
  | receive =>
      let (result, after) := (Message.receive limits).run (Connection.byteLine side.other 0) before
      ⟨before, .received result, after⟩
  | close => ⟨before, .closed, before.close side⟩

-- The acts one after another, and how they leave the connection.
def Act.performAll (limits : Limits) (side : End) : List Act → Connection → List Step × Connection
  | [], connection => ([], connection)
  | act :: acts, connection =>
      let step := act.perform limits side connection
      let (steps, last) := performAll limits side acts step.after
      (step :: steps, last)

def sentMessages (steps : List Step) : List Message := steps.filterMap (·.outcome.sent?)

def receivedMessages (steps : List Step) : List Message := steps.filterMap (·.outcome.received?)

theorem sentMessages_cons (step : Step) (steps : List Step) :
    sentMessages (step :: steps) = step.outcome.sent?.toList ++ sentMessages steps := by
  rw [sentMessages, List.filterMap_cons]
  cases step.outcome.sent? <;> rfl

theorem receivedMessages_cons (step : Step) (steps : List Step) :
    receivedMessages (step :: steps) = step.outcome.received?.toList ++ receivedMessages steps := by
  rw [receivedMessages, List.filterMap_cons]
  cases step.outcome.received? <;> rfl

-- A read gets a message, or a timeout and leaves everything as it was, or the end of the stream
-- once the sender has closed.
def Step.Sound (side : End) (step : Step) : Prop :=
  ∀ result, step.outcome = .received result →
    (∃ message, result = some (.ok (some message))) ∨
    (∃ fault, result = some (.error fault) ∧ fault.isTimeout ∧ step.after = step.before) ∨
    (result = some (.ok none) ∧ (step.before.line side).closed)

-- The other end has its line open, and no wait goes on for ever.
structure Connection.Timed (side : End) (c : Connection) : Prop where
  listening : (c.line side.other).closed = false
  sendLimit : (c.line side).sendLimit.isSome = true
  readLimit : Duration.endsWait (c.link.readLimit side.other) = true

-- So many messages are under way from one end, and nothing else is in the pipe.
structure Underway (limits : Limits) (side : End) (pending : List Message) (c : Connection) : Prop
    extends c.Timed side where
  pipe : ∃ duplex, c.link = .pipes duplex ∧
    (duplex.outgoing side).buffer = pending.flatMap Message.wire ∧
    (duplex.outgoing side).connected = !(c.line side).closed
  whole : ∀ message ∈ pending, message.Writable ∧ limits.Admits message

namespace Underway

variable {limits : Limits} {side : End} {pending : List Message} {c : Connection}

-- Other octets in the pipe make other messages, and disturb nothing else.
theorem relink {duplex next : Duplex} {others : List Message} (h : Underway limits side pending c)
    (hlink : c.link = .pipes duplex)
    (hlimit : (next.half side.other).readLimit = (duplex.half side.other).readLimit)
    (hconnected : (next.outgoing side).connected = (duplex.outgoing side).connected)
    (hbuffer : (next.outgoing side).buffer = others.flatMap Message.wire)
    (hwhole : ∀ message ∈ others, message.Writable ∧ limits.Admits message) :
    Underway limits side others { c with link := .pipes next } := by
  obtain ⟨old, hold, -, hopen⟩ := h.pipe
  rw [hlink] at hold
  cases hold
  have hread := h.readLimit
  rw [hlink] at hread
  refine ⟨⟨?_, ?_, ?_⟩, ⟨next, rfl, hbuffer, ?_⟩, hwhole⟩
  · rw [Connection.line_link]
    exact h.listening
  · rw [Connection.line_link]
    exact h.sendLimit
  · simpa only [Link.readLimit, hlimit] using hread
  · simp only [hconnected, hopen, Connection.line_link]

-- A send adds the message, or fails and adds nothing, or says that it was cut.
theorem send (h : Underway limits side pending c) (message : Message) (spent : Nat) :
    ∃ result next,
      (message.send limits).run (Connection.byteLine side spent) c = (some result, next) ∧
      ((result = .ok () ∧ Underway limits side (pending ++ [message]) next) ∨
        (∃ fault, result = .error fault ∧ Underway limits side pending next) ∨
        (Outcome.sent message (some result)).isCut = true) := by
  rcases message.send_cases limits with ⟨fault, hsend, -⟩ | ⟨hw, hadmits, hsend⟩
  · exact ⟨.error fault, c, by rw [hsend]; rfl, .inr (.inl ⟨fault, rfl, h⟩)⟩
  · obtain ⟨duplex, hlink, hbuffer, hconnected⟩ := h.pipe
    cases hclosed : (c.line side).closed with
    | true =>
        refine ⟨.error Line.closedFault, c, ?_, .inr (.inl ⟨_, rfl, h⟩)⟩
        simp [hsend, Dialogue.run, Connection.byteLine, Connection.write, Connection.begin,
          message.wire_ne_nil, hclosed, Message.sendResult]
    | false =>
        rw [hclosed] at hconnected
        obtain ⟨answer, next, hwrite, hreadLimit, hwritten⟩ :=
          Connection.write_pipes hlink hconnected hclosed h.sendLimit message.wire_ne_nil spent
        refine ⟨Message.sendResult answer, { c with link := .pipes next }, ?_, ?_⟩
        · simp [hsend, Dialogue.run, Connection.byteLine, hwrite]
        · generalize hpipe : next.outgoing side = pipe at hwritten
          cases hwritten with
          | refused fault =>
              refine .inr (.inl ⟨fault, rfl, h.relink hlink hreadLimit ?_ ?_ h.whole⟩)
              · rw [hpipe]
              · rw [hpipe, hbuffer]
          | @took count hpos hcount =>
              by_cases hshort : count < message.wire.length
              · exact .inr (.inr (Outcome.isCut_of_short message (by simpa [WriteOutcome.isShort])))
              · obtain rfl := Nat.le_antisymm hcount (Nat.le_of_not_lt hshort)
                refine .inl ⟨by simp [Message.sendResult, WriteOutcome.isShort],
                  h.relink hlink hreadLimit ?_ ?_ ?_⟩
                · rw [hpipe]
                  rfl
                · rw [hpipe, List.take_length, Pipe.put, hbuffer, List.flatMap_append,
                    List.flatMap_singleton]
                · intro other hother
                  rcases List.mem_append.mp hother with hother | hother
                  · exact h.whole other hother
                  · rw [List.mem_singleton] at hother
                    exact hother ▸ ⟨hw, hadmits⟩

-- A read takes the first message.
theorem receive {message : Message} {others : List Message}
    (h : Underway limits side (message :: others) c) :
    ∃ next, (Message.receive limits).run (Connection.byteLine side.other 0) c =
        (some (.ok (some message)), next) ∧
      Underway limits side others next ∧ next.line side = c.line side := by
  obtain ⟨duplex, hlink, hbuffer, -⟩ := h.pipe
  obtain ⟨hw, hadmits⟩ := h.whole message (by simp)
  have hlimit := h.readLimit
  rw [hlink] at hlimit
  have hoffers := Connection.offers_self side.other hlink 0
  rw [show (duplex.incoming side.other).buffer = _ from hbuffer, List.flatMap_cons] at hoffers
  obtain ⟨next, hrun, hnext⟩ := Message.seamless_receive limits
    (Message.feed_receive_whole limits _ _ hw hadmits (others.flatMap Message.wire))
    (Connection.byteLine_faithful h.listening hlimit 0) hoffers
  refine ⟨next, hrun, ?_, ?_⟩
  · rw [hnext.eq_carrying]
    refine h.relink hlink ?_ ?_ ?_ fun other hother => h.whole other (by simp [hother])
    · simp
    · simp [Duplex.outgoing]
    · simp
  · rw [hnext.eq_carrying, Connection.carrying, Connection.line_link c]

-- With none under way it waits in vain, or sees that the line is closed.
theorem receive_nothing (h : Underway limits side [] c) :
    (Message.receive limits).run (Connection.byteLine side.other 0) c =
      (some (if (c.line side).closed then .ok none else .error (Fault.ofIo Duplex.timedOut)),
        c) := by
  obtain ⟨duplex, hlink, hbuffer, hconnected⟩ := h.pipe
  have hlimit := h.readLimit
  rw [hlink] at hlimit
  have hoffers := Connection.offers_self side.other hlink 1
  rw [show (duplex.incoming side.other).buffer = _ from hbuffer, List.flatMap_nil] at hoffers
  obtain ⟨next, hrun, hnext⟩ := Message.seamless_receive limits
    (Message.feed_receive_noCount limits _ _ (show ([] : Bytes).length < Wire.wordLen by decide))
    (Connection.byteLine_faithful h.listening hlimit 0) hoffers
  have hself : next = c := by
    rw [hnext.eq_carrying, ← Connection.carrying_self side.other hlink,
      show (duplex.incoming side.other).buffer = _ from hbuffer]
    rfl
  rw [hrun, hself]
  rw [Duplex.outgoing] at hconnected
  cases hclosed : (c.line side).closed <;>
    simp [Connection.silence, hconnected, hclosed, Message.account, Halt.stop]

theorem close (h : Underway limits side pending c) :
    Underway limits side pending (c.close side) := by
  rw [Connection.close]
  cases hclosed : (c.line side).closed with
  | true => exact h
  | false =>
      obtain ⟨duplex, hlink, hbuffer, hconnected⟩ := h.pipe
      simp only [Bool.false_eq_true, if_false]
      refine ⟨⟨?_, ?_, ?_⟩, ⟨duplex.disconnect, ?_, ?_, ?_⟩, h.whole⟩
      · simpa using h.listening
      · simpa [Line.sendLimit] using h.sendLimit
      · simpa [hlink, Link.release, Link.readLimit] using h.readLimit
      · simp [hlink, Link.release]
      · simpa [Pipe.disconnect] using hbuffer
      · simp [Pipe.disconnect]

-- Once the sender has closed, the messages that are left come one by one, and then the end.
theorem runTimes_receive (h : Underway limits side pending c) (hclosed : (c.line side).closed)
    (ends : Nat) :
    (Dialogue.runTimes (Connection.byteLine side.other 0) (Message.receive limits)
        (pending.length + ends) c).1 =
      pending.map (fun message => some (Except.ok (some message))) ++
        List.replicate ends (some (.ok none)) := by
  induction pending generalizing c with
  | nil =>
      rw [List.length_nil, Nat.zero_add, List.map_nil, List.nil_append]
      have hrun := h.receive_nothing
      rw [if_pos hclosed] at hrun
      induction ends with
      | zero => rfl
      | succ ends ih =>
          simp only [Dialogue.runTimes, hrun, ih, List.replicate_succ]
  | cons message others ih =>
      obtain ⟨next, hrun, hnext, hline⟩ := h.receive
      have hrest := ih hnext (hline ▸ hclosed)
      simp only [List.length_cons, Nat.succ_add, Dialogue.runTimes, hrun, hrest, List.map_cons,
        List.cons_append]

-- What one act preserves: a message that goes out joins the ones under way, and the one that is
-- read is the first of them.
theorem perform (h : Underway limits side pending c) (act : Act)
    (hcut : (act.perform limits side c).outcome.isCut = false) :
    ∃ left, Underway limits side left (act.perform limits side c).after ∧
      (act.perform limits side c).Sound side ∧
      pending ++ (act.perform limits side c).outcome.sent?.toList =
        (act.perform limits side c).outcome.received?.toList ++ left := by
  cases act with
  | send message spent =>
      obtain ⟨result, next, hrun, hresult⟩ := h.send message spent
      simp only [Act.perform, hrun] at hcut ⊢
      rcases hresult with ⟨rfl, hnext⟩ | ⟨fault, rfl, hnext⟩ | hshort
      · exact ⟨pending ++ [message], hnext, by simp [Step.Sound], rfl⟩
      · exact ⟨pending, hnext, by simp [Step.Sound], List.append_nil pending⟩
      · rw [hcut] at hshort
        cases hshort
  | receive =>
      cases pending with
      | nil =>
          have hrun := h.receive_nothing
          simp only [Act.perform, hrun]
          refine ⟨[], h, ?_, ?_⟩
          · rintro result ⟨⟩
            by_cases hclosed : (c.line side).closed = true
            · exact .inr (.inr ⟨by rw [if_pos hclosed], hclosed⟩)
            · exact .inr (.inl ⟨_, by rw [if_neg hclosed], rfl, rfl⟩)
          · cases (c.line side).closed <;> rfl
      | cons message others =>
          obtain ⟨next, hrun, hnext, -⟩ := h.receive
          simp only [Act.perform, hrun]
          refine ⟨others, hnext, ?_, List.append_nil _⟩
          rintro result ⟨⟩
          exact .inl ⟨message, rfl⟩
  | close => exact ⟨pending, h.close, by simp [Step.Sound, Act.perform], List.append_nil pending⟩

-- What a run preserves: every message that has gone out has been read or is still under way.
theorem performAll (h : Underway limits side pending c) (acts : List Act)
    (hcut : ∀ step ∈ (Act.performAll limits side acts c).1, step.outcome.isCut = false) :
    ∃ left, Underway limits side left (Act.performAll limits side acts c).2 ∧
      (∀ step ∈ (Act.performAll limits side acts c).1, step.Sound side) ∧
      pending ++ sentMessages (Act.performAll limits side acts c).1 =
        receivedMessages (Act.performAll limits side acts c).1 ++ left := by
  induction acts generalizing pending c with
  | nil => exact ⟨pending, h, by simp [Act.performAll], List.append_nil pending⟩
  | cons act acts ih =>
      simp only [Act.performAll, List.forall_mem_cons] at hcut ⊢
      obtain ⟨middle, hmiddle, hsound, hstep⟩ := h.perform act hcut.1
      obtain ⟨left, hleft, hall, hsteps⟩ := ih hmiddle hcut.2
      refine ⟨left, hleft, ⟨hsound, hall⟩, ?_⟩
      rw [sentMessages_cons, receivedMessages_cons, ← List.append_assoc, hstep, List.append_assoc,
        hsteps, List.append_assoc]

end Underway

-- Two open ends of a pair of pipes with nothing under way.
structure Connection.Ready (side : End) (c : Connection) : Prop extends c.Timed side where
  speaking : (c.line side).closed = false
  pipe : ∃ duplex capacity, c.link = .pipes duplex ∧ duplex.outgoing side = { capacity }

-- A new pair is ready as soon as the sender limits its sends and the other end its reads.
theorem Connection.ready_of_pair {capacity : Nat} {duplex : Duplex} {first second : Line}
    {side : End} {sendTimeout receiveTimeout : Duration} {middle c : Connection}
    (hpair : Duplex.pair capacity = .ok duplex) (hfirst : first.closed = false)
    (hsecond : second.closed = false) (hsend : sendTimeout.isZero = false ∧ sendTimeout.expires)
    (hreceive : receiveTimeout.isZero = false ∧ receiveTimeout.expires)
    (hsender : Connection.setOption side .sendTimeout (some sendTimeout)
      ⟨.pipes duplex, first, second⟩ = .ok middle)
    (hreader : middle.setOption side.other .receiveTimeout (some receiveTimeout) = .ok c) :
    c.Ready side := by
  obtain rfl : duplex = ⟨{ incoming := { capacity } }, { incoming := { capacity } }⟩ := by
    unfold Duplex.pair at hpair
    split at hpair
    · exact (Except.ok.inj hpair).symm
    · cases hpair
  cases side
  all_goals
    simp only [setOption, line, hfirst, hsecond, LineOptions.set, Option.filter, hsend.1,
      Link.setWriteLimit, setLine, Bool.not_false, if_true, Bool.false_eq_true, if_false,
      Except.ok.injEq] at hsender
    subst hsender
    simp only [setOption, line, End.other, hfirst, hsecond, LineOptions.set, Option.filter,
      hreceive.1, Link.setReadLimit, setLine, Bool.not_false, if_true, Bool.false_eq_true, if_false,
      Except.ok.injEq] at hreader
    subst hreader
    exact ⟨⟨rfl, by simp [line, Line.sendLimit, hsend.2], hreceive.2⟩, rfl, _, capacity, rfl, rfl⟩

theorem Connection.Ready.underway {side : End} {c : Connection} (h : c.Ready side)
    (limits : Limits) : Underway limits side [] c := by
  obtain ⟨duplex, capacity, hlink, hpipe⟩ := h.pipe
  refine ⟨h.toTimed, ⟨duplex, hlink, ?_, ?_⟩, by simp⟩
  · rw [hpipe]
    rfl
  · rw [hpipe, h.speaking]
    rfl

-- Messages cross a line in order, and none is lost, doubled or changed, as long as no send was
-- cut.
theorem messages_cross_in_order (limits : Limits) {side : End} {c : Connection}
    (hready : c.Ready side) (acts : List Act)
    (hcut : ∀ step ∈ (Act.performAll limits side acts c).1, step.outcome.isCut = false) :
    let (steps, last) := Act.performAll limits side acts c
    (∀ step ∈ steps, step.Sound side) ∧
    receivedMessages steps <+: sentMessages steps ∧
    ((last.line side).closed → ∃ left, sentMessages steps = receivedMessages steps ++ left ∧
      ∀ ends, (Dialogue.runTimes (Connection.byteLine side.other 0) (Message.receive limits)
          (left.length + ends) last).1 =
        left.map (fun message => some (Except.ok (some message))) ++
          List.replicate ends (some (.ok none))) := by
  obtain ⟨left, hleft, hsound, hmessages⟩ := (hready.underway limits).performAll acts hcut
  rw [List.nil_append] at hmessages
  exact ⟨hsound, ⟨left, hmessages.symm⟩, fun hclosed =>
    ⟨left, hmessages, fun ends => hleft.runTimes_receive hclosed ends⟩⟩

-- A pipe that one message fills: the next send and one read time out, a send that is over the
-- limits fails, and all of this is of no consequence.
theorem messages_cross_full_pipe :
    let tick : Option Duration := some (Duration.ofMillis 50)
    let limits : Limits := { maxFrameLen := 1 }
    let endpoint : Endpoint := ⟨.inproc, "tight"⟩
    let connection : Connection :=
      { link := .pipes ⟨{ incoming := { capacity := 9 } },
          { incoming := { capacity := 9 }, readLimit := tick }⟩
        first := { endpoint, options := { sendTimeout := tick } }
        second := { endpoint, options := { receiveTimeout := tick } } }
    let acts : List Act := [.send ⟨[[1]]⟩ 40, .send ⟨[[2]]⟩ 0, .send ⟨[[3, 4]]⟩ 0, .receive,
      .receive, .send ⟨[[5]]⟩ 1000, .close]
    let (steps, last) := Act.performAll limits .first acts connection
    (∀ step ∈ steps, step.Sound .first) ∧
    receivedMessages steps <+: sentMessages steps ∧
    ∃ left, sentMessages steps = receivedMessages steps ++ left ∧
      ∀ ends, (Dialogue.runTimes (Connection.byteLine .second 0) (Message.receive limits)
          (left.length + ends) last).1 =
        left.map (fun message => some (Except.ok (some message))) ++
          List.replicate ends (some (.ok none)) := by
  intro tick limits endpoint connection acts
  have hready : connection.Ready .first := ⟨⟨rfl, rfl, rfl⟩, rfl, _, 9, rfl, rfl⟩
  have hcut : ∀ step ∈ (Act.performAll limits .first acts connection).1,
      step.outcome.isCut = false := by decide +kernel
  obtain ⟨hsound, hprefix, hrest⟩ := messages_cross_in_order limits hready acts hcut
  exact ⟨hsound, hprefix, hrest (by decide +kernel)⟩

end FramedLines
