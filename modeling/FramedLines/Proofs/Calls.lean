import FramedLines.Proofs.Pipes

-- Calls at either end of a connection over pipes: what goes over in either direction, and that the
-- pipes are connected for as long as both lines are open.

namespace FramedLines.Connection

-- What the holder of a line can do with it. A line that is dropped is closed.
inductive Call where
  | read (room : Nat)
  -- with so many nanoseconds spent before it gets to the link
  | write (data : Bytes) (spent : Nat)
  -- one attempt of a write under way, in between which others can act
  | attempt (left : Option Duration) (sending : Sending)
  | setOption (option : LineOption) (value : Option Duration)
  | setOptionRaw (id : Int) (millis : UInt64)
  | close

-- What a call came to. Without an answer it waits for ever.
inductive Outcome where
  | read (answer : Option (Except Fault Bytes))
  | wrote (answer : Option (Except Fault WriteOutcome))
  | attempted (progress : Option Progress)
  | set (result : Except Fault Unit)
  | closed

def Outcome.hasReturned : Outcome → Bool
  | read answer => answer.isSome
  | wrote answer => answer.isSome
  | _ => true

def setTo (c : Connection) : Except Fault Connection → Outcome × Connection
  | .ok next => (.set (.ok ()), next)
  | .error fault => (.set (.error fault), c)

def Call.perform (side : End) (c : Connection) : Call → Outcome × Connection
  | read room => Prod.map .read id (c.read side room)
  | write data spent => Prod.map .wrote id (c.write side data spent)
  | attempt left sending => Prod.map .attempted id (c.attempt side left sending)
  | setOption option value => c.setTo (c.setOption side option value)
  | setOptionRaw id millis => c.setTo (c.setOptionRaw side id millis)
  | close => (.closed, c.close side)

-- The octets that went out with a call, as far as the caller knows.
def given : Call → Outcome → Bytes
  | .write data _, .wrote (some answer) => goneOut data answer
  | .attempt _ sending, .attempted progress => tookOff sending progress
  | _, _ => []

-- The octets that came in with it.
def Outcome.got : Outcome → Bytes
  | read answer => gotten answer
  | _ => []

-- Nobody has closed either line.
def joined (c : Connection) : Bool := !(c.first.closed || c.second.closed)

theorem joined_eq (c : Connection) (side : End) :
    c.joined = !((c.line side).closed || (c.line side.other).closed) := by
  cases side
  · rfl
  · exact congrArg Bool.not (Bool.or_comm ..)

-- A connection over these pipes, which nobody has let go of behind the back of the lines.
structure Piped (c : Connection) (duplex : Duplex) : Prop where
  link : c.link = .pipes duplex
  connected : ∀ side, (duplex.incoming side).connected = c.joined

-- What one end moves: octets into its pipe behind the others, and the first ones off the other.
structure Moves (side : End) (given got : Bytes) (before after : Duplex) : Prop where
  outgoing : (before.outgoing side).buffer ++ given = (after.outgoing side).buffer
  incoming : (before.incoming side).buffer = got ++ (after.incoming side).buffer

-- An end that moves nothing leaves both pipes as full as they were.
theorem Moves.incoming_of_nil {side : End} {before after : Duplex}
    (h : Moves side [] [] before after) (viewer : End) :
    (after.incoming viewer).buffer = (before.incoming viewer).buffer := by
  rcases End.eq_or_eq_other viewer side with rfl | rfl
  · exact h.incoming.symm
  · exact h.outgoing.symm.trans (List.append_nil _)

@[simp] theorem second_refuse (c : Connection) :
    (c.refuse .second).second = { c.second with closed := true } := rfl

namespace Piped

variable {c : Connection} {duplex after : Duplex} {side : End}

-- Other octets in the same pipes.
theorem relink (h : c.Piped duplex) (hincoming : (after.incoming side).connected =
    (duplex.incoming side).connected) (houtgoing : (after.outgoing side).connected =
    (duplex.outgoing side).connected) : Piped { c with link := .pipes after } after := by
  refine ⟨rfl, fun viewer => ?_⟩
  rcases End.eq_or_eq_other viewer side with rfl | rfl
  · exact hincoming.trans (h.connected viewer)
  · exact houtgoing.trans (h.connected side.other)

theorem read (h : c.Piped duplex) (room : Nat) :
    ∃ after, (c.read side room).2.Piped after ∧
      Moves side [] (gotten (c.read side room).1) duplex after ∧
      (c.read side room).2.line side.other = c.line side.other := by
  obtain ⟨rest, hbuffer, hnext⟩ := read_takes h.link side room
  refine ⟨duplex.setIncoming side { duplex.incoming side with buffer := rest }, ?_,
    ⟨by simp, by simpa using hbuffer⟩, by rw [hnext, carrying, line_link]⟩
  rw [hnext]
  exact h.relink (by rw [Duplex.incoming_setIncoming]) (by rw [Duplex.outgoing_setIncoming])

theorem of_puts (h : c.Piped duplex) {octets : Bytes} (hputs : duplex.Puts side octets after) :
    Piped { c with link := .pipes after } after ∧ Moves side octets [] duplex after :=
  ⟨h.relink (by rw [hputs.incoming]) (by rw [hputs.outgoing, Pipe.connected_put]),
    by rw [hputs.outgoing]; rfl, by rw [hputs.incoming]; rfl⟩

theorem write (h : c.Piped duplex) {data : Bytes} {spent : Nat}
    {answer : Except Fault WriteOutcome} (hanswer : (c.write side data spent).1 = some answer) :
    ∃ after, (c.write side data spent).2.Piped after ∧
      Moves side (goneOut data answer) [] duplex after ∧
      (c.write side data spent).2.line side.other = c.line side.other := by
  have hwrite : c.write side data spent = (some answer, (c.write side data spent).2) :=
    Prod.ext hanswer rfl
  obtain ⟨after, hnext, hputs⟩ := write_puts h.link hwrite
  rw [hnext]
  obtain ⟨hpiped, hmoves⟩ := h.of_puts hputs
  exact ⟨after, hpiped, hmoves, line_link c _ side.other⟩

theorem attempt (h : c.Piped duplex) (left : Option Duration) (sending : Sending) :
    ∃ after, (c.attempt side left sending).2.Piped after ∧
      Moves side (tookOff sending (c.attempt side left sending).1) [] duplex after ∧
      (c.attempt side left sending).2.line side.other = c.line side.other := by
  obtain ⟨after, hnext, hputs⟩ := attempt_puts h.link left sending
  obtain ⟨hpiped, hmoves⟩ := h.of_puts hputs
  rw [hnext]
  exact ⟨after, hpiped, hmoves, line_link c _ side.other⟩

theorem setOption (h : c.Piped duplex) {option : LineOption} {value : Option Duration}
    {next : Connection} (hset : c.setOption side option value = .ok next) :
    ∃ after, next.Piped after ∧ Moves side [] [] duplex after ∧
      next.line side.other = c.line side.other := by
  have hline (after : Duplex) (options : LineOptions)
      (hsame : ∀ viewer, after.incoming viewer = duplex.incoming viewer) :
      (setLine { c with link := .pipes after } side { c.line side with options }).Piped after ∧
        Moves side [] [] duplex after := by
    refine ⟨⟨by simp, fun viewer => ?_⟩,
      ⟨by simp [Duplex.outgoing, hsame], by simp [hsame]⟩⟩
    rw [hsame, h.connected, joined_eq c side, joined_eq _ side, line_setLine, line_setLine_other,
      line_link]
    rfl
  simp only [Connection.setOption, h.link] at hset
  split at hset
  · cases hset
  · cases hset
    cases option with
    | receiveTimeout =>
        obtain ⟨hpiped, hmoves⟩ := hline (duplex.setReadLimit side _) _ (by simp)
        exact ⟨_, hpiped, hmoves, by rw [line_setLine_other, line_link]⟩
    | sendTimeout =>
        obtain ⟨hpiped, hmoves⟩ := hline (duplex.setWriteLimit side _) _ (by simp)
        exact ⟨_, hpiped, hmoves, by rw [line_setLine_other, line_link]⟩

-- Letting go of one end leaves what is in the pipes for the other.
theorem letGo (c : Connection) (duplex : Duplex) (side : End) :
    let gone := setLine { c with link := .pipes duplex.disconnect } side
      { c.line side with closed := true }
    gone.Piped duplex.disconnect ∧ Moves side [] [] duplex duplex.disconnect ∧
      gone.line side.other = c.line side.other := by
  refine ⟨⟨link_setLine .., fun viewer => ?_⟩, ⟨?_, ?_⟩, ?_⟩
  · rw [Duplex.incoming_disconnect, joined_eq _ side, line_setLine, Bool.true_or]
    rfl
  · rw [Duplex.outgoing_disconnect, List.append_nil]
    rfl
  · rw [Duplex.incoming_disconnect]
    rfl
  · rw [line_setLine_other, line_link]

theorem close (h : c.Piped duplex) (side : End) :
    ∃ after, (c.close side).Piped after ∧ Moves side [] [] duplex after ∧
      (c.close side).line side.other = c.line side.other := by
  rw [Connection.close]
  split
  · exact ⟨duplex, h, ⟨List.append_nil _, rfl⟩, rfl⟩
  · rw [h.link, Link.release]
    exact ⟨_, letGo c duplex side⟩

theorem refuse (h : c.Piped duplex) (side : End) :
    ∃ after, (c.refuse side).Piped after ∧ Moves side [] [] duplex after ∧
      (c.refuse side).line side.other = c.line side.other := by
  rw [Connection.refuse, h.link, Link.refuse]
  exact ⟨_, letGo c duplex side⟩

-- What one call preserves.
theorem perform (h : c.Piped duplex) (side : End) (call : Call)
    (hreturned : (call.perform side c).1.hasReturned) :
    ∃ after, (call.perform side c).2.Piped after ∧
      Moves side (given call (call.perform side c).1) (call.perform side c).1.got duplex after ∧
      (call.perform side c).2.line side.other = c.line side.other := by
  cases call with
  | read room => exact h.read room
  | write data spent =>
      have hreturned : (c.write side data spent).1.isSome := hreturned
      obtain ⟨answer, hanswer⟩ := Option.isSome_iff_exists.mp hreturned
      obtain ⟨after, hpiped, hmoves, hother⟩ := h.write hanswer
      refine ⟨after, hpiped, ?_, hother⟩
      simp only [Call.perform, Prod.map_fst, hanswer]
      exact hmoves
  | attempt left sending => exact h.attempt left sending
  | setOption option value =>
      simp only [Call.perform]
      cases hset : c.setOption side option value with
      | error fault => exact ⟨duplex, h, ⟨List.append_nil _, rfl⟩, rfl⟩
      | ok next => exact h.setOption hset
  | setOptionRaw id millis =>
      simp only [Call.perform, setOptionRaw]
      cases LineOption.ofId id with
      | error fault => exact ⟨duplex, h, ⟨List.append_nil _, rfl⟩, rfl⟩
      | ok option =>
          cases hset : c.setOption side option (some (Duration.ofMillis millis)) with
          | error fault =>
              refine ⟨duplex, ?_⟩
              simp only [bind, Except.bind, hset]
              exact ⟨h, ⟨List.append_nil _, rfl⟩, rfl⟩
          | ok next =>
              simp only [bind, Except.bind, hset]
              exact h.setOption hset
  | close => exact h.close side

theorem finish (h : c.Piped duplex) (side : End) (left : Option Duration) (fuel : Nat)
    (sending : Sending) : ∃ after, (c.finish side left fuel sending).2.Piped after := by
  induction fuel generalizing c duplex sending with
  | zero => exact ⟨duplex, h⟩
  | succ fuel ih =>
      obtain ⟨after, hpiped, -⟩ := h.attempt left sending
      rcases hattempt : c.attempt side left sending with ⟨_ | sending | result, next⟩
      all_goals
        rw [hattempt] at hpiped
        simp only [Connection.finish, hattempt]
      · split
        · split <;> exact ⟨after, hpiped⟩
        · exact ⟨after, hpiped⟩
      · exact ih hpiped sending
      · exact ⟨after, hpiped⟩

-- That holds of calls that wait for ever too.
theorem call (h : c.Piped duplex) (side : End) (call : Call) :
    ∃ after, (call.perform side c).2.Piped after := by
  have hset (result : Except Fault Connection) : (c.setTo result).1.hasReturned = true := by
    cases result <;> rfl
  have hreturned (returned : (call.perform side c).1.hasReturned = true) :
      ∃ after, (call.perform side c).2.Piped after := by
    obtain ⟨after, hpiped, -⟩ := h.perform side call returned
    exact ⟨after, hpiped⟩
  cases call with
  | read room =>
      obtain ⟨after, hpiped, -⟩ := h.read room
      exact ⟨after, hpiped⟩
  | write data spent =>
      simp only [Call.perform, Prod.map_snd, id_eq, Connection.write]
      cases c.begin side data with
      | error fault => exact ⟨duplex, h⟩
      | ok sending => exact h.finish side _ _ sending
  | attempt left sending => exact hreturned rfl
  | setOption option value => exact hreturned (hset _)
  | setOptionRaw id millis => exact hreturned (hset _)
  | close => exact hreturned rfl

-- A new pair of pipes between two open lines.
theorem of_pair {capacity : Nat} (hpair : Duplex.pair capacity = .ok duplex) (first second : Line)
    (hfirst : first.closed = false) (hsecond : second.closed = false) :
    Piped ⟨.pipes duplex, first, second⟩ duplex ∧
      ∀ side, (duplex.incoming side).buffer = [] := by
  unfold Duplex.pair at hpair
  split at hpair
  · cases hpair
    refine ⟨⟨rfl, fun side => ?_⟩, fun side => by cases side <;> rfl⟩
    rw [joined, hfirst, hsecond]
    cases side <;> rfl
  · cases hpair

-- What is in the pipe can be read, whatever has become of the other end.
theorem read_buffered (h : c.Piped duplex) (hopen : (c.line side).closed = false)
    (hne : (duplex.incoming side).buffer ≠ []) {room : Nat} (hroom : 0 < room) :
    (c.read side room).1 = some (.ok ((duplex.incoming side).buffer.take room)) := by
  have hread : (c.carrying duplex side (duplex.incoming side).buffer).read side room = _ :=
    read_carrying hopen hne hroom
  rw [carrying_self side h.link] at hread
  rw [hread]

-- With the other line closed and nothing left in the pipe, the stream has ended.
theorem read_orphaned (h : c.Piped duplex) (hopen : (c.line side).closed = false)
    (hgone : (c.line side.other).closed = true) (hempty : (duplex.incoming side).buffer = [])
    {room : Nat} (hroom : 0 < room) : c.read side room = (some (.ok []), c) := by
  have hzero : room ≠ 0 := Nat.ne_of_gt hroom
  have hbroken : (duplex.incoming side).connected = false := by
    rw [h.connected, joined_eq c side, hgone, Bool.or_true]
    rfl
  have hself : { c with link := .pipes duplex } = c := by rw [← h.link]
  simp [Connection.read, read?, hzero, hopen, h.link, Link.read?, Duplex.read?, Pipe.read?, hempty,
    hbroken, mapError_ok, hself]

-- A write then fails as soon as it gets to the pipe, and when its time is up by then it fails too.
theorem write_orphaned (h : c.Piped duplex) (hopen : (c.line side).closed = false)
    (hgone : (c.line side.other).closed = true) {data : Bytes} (hdata : data ≠ [])
    (spent : Nat) :
    (c.write side data spent).1 =
      some (.error (if (c.left side spent).any Duration.isZero then
          Fault.timeout.withContext "no bytes accepted before send timeout"
        else Fault.ofIo (.bare .brokenPipe))) := by
  have hbroken : (duplex.outgoing side).connected = false := by
    rw [Duplex.outgoing, h.connected, joined_eq c side, hgone, Bool.or_true]
    rfl
  obtain ⟨after, -, hfinish⟩ :=
    finish_broken h.link hbroken (c.left side spent) ⟨data, 0⟩ hdata data.length
  have hbegin : c.begin side data = .ok ⟨data, 0⟩ := by simp [begin, hdata, hopen]
  simp only [Connection.write, hbegin]
  rw [hfinish]
  simp only [Sending.outcome, if_true]
  split <;> rfl

end Piped

end FramedLines.Connection
