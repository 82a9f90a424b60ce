import FramedLines.Connection
import FramedLines.Proofs.Duplex
import FramedLines.Proofs.Supply

-- Connections over pipes, seen from one end: what a write under a time limit puts into the pipe
-- to the other end, and what that end has to read.

namespace FramedLines

theorem Sending.advance_took {count : Nat} (hpos : count ≠ 0) (sending : Sending) :
    sending.advance (.took count) =
      if (sending.pending.drop count).isEmpty then
        .ended (Sending.outcome ⟨sending.pending.drop count, sending.written + count⟩)
      else .going ⟨sending.pending.drop count, sending.written + count⟩ := by
  cases count with
  | zero => exact absurd rfl hpos
  | succ count => rfl

theorem Sending.advance_brokenPipe (sending : Sending) :
    sending.advance (.failed (.bare .brokenPipe)) =
      .ended (.error (Fault.ofIo (.bare .brokenPipe))) := rfl

-- What it is to put these octets into the pipe from one end, and no others into the pipe to it.
structure Duplex.Puts (side : End) (octets : Bytes) (before after : Duplex) : Prop where
  outgoing : after.outgoing side = (before.outgoing side).put octets
  incoming : after.incoming side = before.incoming side
  readLimit : (after.half side.other).readLimit = (before.half side.other).readLimit

namespace Duplex.Puts

variable {side : End} {before middle after : Duplex} {octets more : Bytes}

theorem refl (duplex : Duplex) : duplex.Puts side [] duplex := ⟨by simp, rfl, rfl⟩

theorem told (duplex : Duplex) (limit : Option Duration) :
    duplex.Puts side [] (duplex.setWriteLimit side limit) :=
  ⟨by simp, by simp, by simp⟩

theorem trans (h : before.Puts side octets middle) (hmore : middle.Puts side more after) :
    before.Puts side (octets ++ more) after :=
  ⟨by rw [hmore.outgoing, h.outgoing, Pipe.put_put], hmore.incoming.trans h.incoming,
    hmore.readLimit.trans h.readLimit⟩

end Duplex.Puts

namespace Connection

@[simp] theorem line_setLine_other (c : Connection) (line : Line) (side : End) :
    (c.setLine side line).line side.other = c.line side.other := by
  cases side <;> rfl

@[simp] theorem line_setLine (c : Connection) (line : Line) (side : End) :
    (c.setLine side line).line side = line := by
  cases side <;> rfl

@[simp] theorem link_setLine (c : Connection) (line : Line) (side : End) :
    (c.setLine side line).link = c.link := by
  cases side <;> rfl

@[simp] theorem line_link (c : Connection) (link : Link) (side : End) :
    Connection.line { c with link } side = c.line side := by
  cases side <;> rfl

section Write

variable {c : Connection} {duplex : Duplex} {side : End}

-- A write under a time limit has an end to its waits, however much of the time has gone by.
theorem endsWait_left (hlimit : (c.line side).sendLimit.isSome = true) (spent : Nat) :
    Duration.endsWait (c.left side spent) = true := by
  obtain ⟨limit, hlimit⟩ := Option.isSome_iff_exists.mp hlimit
  have hexpires : limit.expires = true := by
    rw [Line.sendLimit, Option.filter_eq_some_iff] at hlimit
    exact hlimit.2
  have hless : (limit.after spent).wholeSeconds ≤ limit.wholeSeconds :=
    Nat.div_le_div_right (Nat.sub_le ..)
  rw [Duration.expires, decide_eq_true_iff] at hexpires
  rw [left, hlimit]
  exact decide_eq_true (Nat.lt_of_le_of_lt hless hexpires)

-- The link is told how long to wait, when that is limited.
theorem told_pipes (hlink : c.link = .pipes duplex) (left : Option Duration) :
    ∃ told, duplex.Puts side [] told ∧
      (if left.isSome then c.link.setWriteLimit side left else c.link) = .pipes told ∧
      (left.isSome → (told.half side).writeLimit = left) := by
  cases left with
  | none => exact ⟨duplex, .refl duplex, hlink, by simp⟩
  | some left =>
      exact ⟨duplex.setWriteLimit side (some left), .told duplex (some left), by rw [hlink]; rfl,
        fun _ => Duplex.writeLimit_setWriteLimit ..⟩

-- First the link is told how long to wait. Then the pipe takes something, or else there is only
-- the time to say how far the write has got, or to wait. It fails where nothing can ever be taken.
theorem attempt_cases (hlink : c.link = .pipes duplex) (left : Option Duration)
    (sending : Sending) :
    ∃ next taken rest, duplex.Puts side taken next ∧ sending.pending = taken ++ rest ∧
      (c.attempt side left sending =
          (some (.ended (Sending.outcome ⟨rest, sending.written + taken.length⟩)),
            { c with link := .pipes next }) ∨
        taken ≠ [] ∧ rest ≠ [] ∧ c.attempt side left sending =
          (some (.going ⟨rest, sending.written + taken.length⟩),
            { c with link := .pipes next }) ∨
        taken = [] ∧ (left.isSome → (next.half side).writeLimit = left) ∧
          c.attempt side left sending = (none, { c with link := .pipes next }) ∨
        taken = [] ∧ ((duplex.outgoing side).connected = false ∨ rest = []) ∧
          ∃ fault, c.attempt side left sending =
            (some (.ended (.error fault)), { c with link := .pipes next })) := by
  by_cases hlate : left.any Duration.isZero = true
  · refine ⟨duplex, [], sending.pending, .refl duplex, rfl, .inl ?_⟩
    rw [attempt, if_pos hlate, ← hlink]
    rfl
  · obtain ⟨told, hputs, htold, hlimit⟩ := told_pipes hlink left
    have hsame : told.outgoing side = duplex.outgoing side := by simpa using hputs.outgoing
    have hinto (taken : Bytes) : duplex.Puts side taken
        (told.setIncoming side.other ((duplex.outgoing side).put taken)) :=
      ⟨by simp, by simp [hputs.incoming], by simp [hputs.readLimit]⟩
    simp only [attempt, if_neg hlate, htold, Link.write?, Duplex.write?, hsame]
    rcases hwrite : (duplex.outgoing side).write? sending.pending with _ | ⟨result, pipe⟩
    · exact ⟨told, [], sending.pending, hputs, rfl, .inr (.inr (.inl ⟨rfl, hlimit, rfl⟩))⟩
    · rcases Pipe.write?_cases hwrite with ⟨hbroken, rfl, rfl⟩ | ⟨count, rfl, hcount, hzero, rfl⟩
      · have hnothing := hinto []
        rw [Pipe.put_nil] at hnothing
        exact ⟨_, [], sending.pending, hnothing, rfl,
          .inr (.inr (.inr ⟨rfl, .inl hbroken, _, rfl⟩))⟩
      · refine ⟨_, sending.pending.take count, sending.pending.drop count, hinto _,
          (List.take_append_drop count sending.pending).symm, ?_⟩
        by_cases hnone : count = 0
        · subst hnone
          exact .inr (.inr (.inr ⟨rfl, .inr (hzero rfl), _, rfl⟩))
        · have hlength : (sending.pending.take count).length = count := by
            rw [List.length_take]
            omega
          simp only [Option.map_some, Sending.advance_took hnone, hlength]
          by_cases hrest : sending.pending.drop count = []
          · exact .inl (by simp [hrest])
          · refine .inr (.inl ⟨?_, hrest, by simp [hrest]⟩)
            rw [← List.length_pos_iff, hlength]
            exact Nat.pos_of_ne_zero hnone

-- A write ends by saying how far it has got. It does not wait for ever under a limit.
theorem finish_cases (hlink : c.link = .pipes duplex)
    (hconnected : (duplex.outgoing side).connected) (left : Option Duration) (fuel : Nat)
    (sending : Sending) (hpending : sending.pending ≠ []) :
    ∃ answer? next taken rest, duplex.Puts side taken next ∧ sending.pending = taken ++ rest ∧
      c.finish side left fuel sending = (answer?, { c with link := .pipes next }) ∧
      (answer? = some (Sending.outcome ⟨rest, sending.written + taken.length⟩) ∨
        answer? = none ∧ (Duration.endsWait left = true → fuel < sending.pending.length)) := by
  induction fuel generalizing c duplex sending with
  | zero =>
      exact ⟨none, duplex, [], sending.pending, .refl duplex, rfl, by rw [finish, ← hlink],
        .inr ⟨rfl, fun _ => List.length_pos_iff.mpr hpending⟩⟩
  | succ fuel ih =>
      obtain ⟨next, taken, rest, hputs, hsplit, hattempt | ⟨htaken, hrest, hattempt⟩ |
        ⟨rfl, hlimit, hattempt⟩ | ⟨rfl, hbroken | rfl, -⟩⟩ :=
        attempt_cases hlink left sending
      · exact ⟨_, next, taken, rest, hputs, hsplit, by rw [finish, hattempt], .inl rfl⟩
      · have hnext : (next.outgoing side).connected := by
          rw [hputs.outgoing]
          exact hconnected
        obtain ⟨answer?, last, more, behind, hmore, hsplit', hfinish, hanswer⟩ :=
          ih (c := { c with link := .pipes next }) rfl hnext
            ⟨rest, sending.written + taken.length⟩ hrest
        refine ⟨answer?, last, taken ++ more, behind, hputs.trans hmore, ?_, ?_, ?_⟩
        · rw [hsplit, List.append_assoc, show rest = _ from hsplit']
        · rw [finish, hattempt]
          exact hfinish
        · rw [List.length_append, ← Nat.add_assoc]
          refine hanswer.imp id fun ⟨hnone, hfuel⟩ => ⟨hnone, fun hends => ?_⟩
          have hpos := List.length_pos_iff.mpr htaken
          have hshort := hfuel hends
          simp only at hshort
          rw [hsplit, List.length_append]
          omega
      · cases hends : Duration.endsWait (next.half side).writeLimit with
        | true =>
            refine ⟨some sending.outcome, next, [], rest, hputs, hsplit, ?_, .inl ?_⟩
            · simp only [finish, hattempt, Link.writeLimit, hends, if_true]
              rfl
            · rw [List.nil_append] at hsplit
              rw [← hsplit]
              rfl
        | false =>
            refine ⟨none, next, [], rest, hputs, hsplit, ?_, .inr ⟨rfl, fun hleft => ?_⟩⟩
            · simp [finish, hattempt, Link.writeLimit, hends]
            · have hsome : left.isSome := by
                cases left with
                | none => cases hleft
                | some _ => rfl
              rw [hlimit hsome, hleft] at hends
              cases hends
      · rw [hconnected] at hbroken
        cases hbroken
      · exact absurd hsplit hpending

-- With the pipe broken there is nothing to wait for. Only a writer who is out of time by then does
-- not hear of it.
theorem finish_broken (hlink : c.link = .pipes duplex)
    (hbroken : (duplex.outgoing side).connected = false) (left : Option Duration)
    (sending : Sending) (hpending : sending.pending ≠ []) (fuel : Nat) :
    ∃ next, duplex.Puts side [] next ∧ c.finish side left (fuel + 1) sending =
      (some (if left.any Duration.isZero then sending.outcome
        else .error (Fault.ofIo (.bare .brokenPipe))), { c with link := .pipes next }) := by
  cases hlate : left.any Duration.isZero with
  | true =>
      refine ⟨duplex, .refl duplex, ?_⟩
      simp only [finish, attempt, hlate, if_true, ← hlink]
      rfl
  | false =>
      cases left with
      | none =>
          refine ⟨duplex, .refl duplex, ?_⟩
          simp [finish, attempt, hlink, Link.write?, Duplex.write?, Pipe.write?, hpending, hbroken,
            Sending.advance_brokenPipe]
      | some left =>
          refine ⟨duplex.setWriteLimit side (some left), .told duplex (some left), ?_⟩
          rw [Option.any_some] at hlate
          have hsame : (duplex.setWriteLimit side (some left)).setIncoming side.other
              (duplex.outgoing side) = duplex.setWriteLimit side (some left) := by
            have h := Duplex.setIncoming_outgoing (duplex.setWriteLimit side (some left)) side
            rwa [Duplex.outgoing_setWriteLimit] at h
          simp [finish, attempt, hlate, hlink, Link.setWriteLimit, Link.write?, Duplex.write?,
            Pipe.write?, hpending, hbroken, Sending.advance_brokenPipe, hsame]

-- What a write comes to and what it leaves in the pipe: as much as it says it has written, and
-- nothing when it fails.
inductive Written (data : Bytes) (pipe : Pipe) : Except Fault WriteOutcome → Pipe → Prop where
  | took {count : Nat} (hpos : 0 < count) (hcount : count ≤ data.length) :
      Written data pipe (.ok ⟨count, data.length⟩) (pipe.put (data.take count))
  | refused (fault : Fault) : Written data pipe (.error fault) pipe

theorem written_outcome (pipe : Pipe) (taken rest : Bytes) :
    Written (taken ++ rest) pipe (Sending.outcome ⟨rest, taken.length⟩) (pipe.put taken) := by
  by_cases hempty : taken = []
  · rw [hempty, Pipe.put_nil]
    exact .refused _
  · have hpos := List.length_pos_iff.mpr hempty
    have htook : Written (taken ++ rest) pipe (.ok ⟨taken.length, (taken ++ rest).length⟩)
        (pipe.put ((taken ++ rest).take taken.length)) := .took hpos (by simp)
    rwa [List.take_left, List.length_append, ← show Sending.outcome ⟨rest, taken.length⟩ = _ from
      if_neg (Nat.ne_of_gt hpos)] at htook

-- A write under a time limit always comes to an end.
theorem write_pipes (hlink : c.link = .pipes duplex) (hconnected : (duplex.outgoing side).connected)
    (hopen : (c.line side).closed = false) (hlimit : (c.line side).sendLimit.isSome = true)
    {data : Bytes} (hdata : data ≠ []) (spent : Nat) :
    ∃ answer next, c.write side data spent = (some answer, { c with link := .pipes next }) ∧
      (next.half side.other).readLimit = (duplex.half side.other).readLimit ∧
      Written data (duplex.outgoing side) answer (next.outgoing side) := by
  have hends := endsWait_left hlimit spent
  have hbegin : c.begin side data = .ok ⟨data, 0⟩ := by simp [begin, hdata, hopen]
  simp only [write, hbegin]
  obtain ⟨answer?, next, taken, rest, hputs, rfl, hfinish, hanswer⟩ :=
    finish_cases hlink hconnected (c.left side spent) (data.length + 1) ⟨data, 0⟩ hdata
  rcases hanswer with rfl | ⟨-, hfuel⟩
  · refine ⟨_, next, hfinish, hputs.readLimit, ?_⟩
    rw [hputs.outgoing, Nat.zero_add]
    exact written_outcome _ taken rest
  · exact absurd (hfuel hends) (Nat.not_lt.mpr (Nat.le_succ _))

-- The octets that a writer hears have gone out.
def goneOut (data : Bytes) : Except Fault WriteOutcome → Bytes
  | .ok outcome => data.take outcome.written
  | .error _ => []

theorem goneOut_outcome (taken rest : Bytes) :
    goneOut (taken ++ rest) (Sending.outcome ⟨rest, taken.length⟩) = taken := by
  simp only [Sending.outcome]
  split
  · next hempty => exact (List.eq_nil_of_length_eq_zero hempty).symm
  · exact List.take_left

-- The octets that an attempt took off a write.
def tookOff (sending : Sending) : Option Progress → Bytes
  | some (.going next) => sending.pending.take (next.written - sending.written)
  | some (.ended (.ok outcome)) => sending.pending.take (outcome.written - sending.written)
  | _ => []

-- Whatever an attempt comes to, what it took off is what went into the pipe.
theorem attempt_puts (hlink : c.link = .pipes duplex) (left : Option Duration)
    (sending : Sending) :
    ∃ after, (c.attempt side left sending).2 = { c with link := .pipes after } ∧
      duplex.Puts side (tookOff sending (c.attempt side left sending).1) after := by
  obtain ⟨after, taken, rest, hputs, hsplit, hattempt | ⟨-, -, hattempt⟩ | ⟨rfl, -, hattempt⟩ |
    ⟨rfl, -, fault, hattempt⟩⟩ := attempt_cases hlink left sending
  all_goals
    rw [hattempt]
    refine ⟨after, rfl, ?_⟩
  · simp only [Sending.outcome]
    split
    · next hnone =>
        obtain rfl := List.eq_nil_of_length_eq_zero (Nat.add_eq_zero_iff.mp hnone).2
        exact hputs
    · simpa [tookOff, hsplit] using hputs
  · simpa [tookOff, hsplit] using hputs
  · exact hputs
  · exact hputs

-- Whoever writes, and with whatever result: what a writer hears of is what goes into the pipe.
theorem write_puts (hlink : c.link = .pipes duplex) {data : Bytes} {spent : Nat}
    {answer : Except Fault WriteOutcome} {next : Connection}
    (hwrite : c.write side data spent = (some answer, next)) :
    ∃ after, next = { c with link := .pipes after } ∧
      duplex.Puts side (goneOut data answer) after := by
  have hunchanged : c = { c with link := .pipes duplex } := by rw [← hlink]
  by_cases hdata : data = []
  · simp only [write, begin, hdata, List.isEmpty_nil, if_true] at hwrite
    cases hwrite
    exact ⟨duplex, hunchanged, .refl duplex⟩
  · cases hopen : (c.line side).closed with
    | true =>
        simp only [write, begin, List.isEmpty_eq_false_iff.mpr hdata, hopen, if_true] at hwrite
        cases hwrite
        exact ⟨duplex, hunchanged, .refl duplex⟩
    | false =>
        have hbegin : c.begin side data = .ok ⟨data, 0⟩ := by simp [begin, hdata, hopen]
        simp only [write, hbegin] at hwrite
        cases hconnected : (duplex.outgoing side).connected with
        | true =>
            obtain ⟨answer?, after, taken, rest, hputs, rfl, hfinish, hanswer⟩ :=
              finish_cases hlink hconnected (c.left side spent) (data.length + 1) ⟨data, 0⟩ hdata
            rw [hwrite] at hfinish
            cases hfinish
            rcases hanswer with hanswer | ⟨hnone, -⟩
            · refine ⟨after, rfl, ?_⟩
              cases hanswer
              rwa [Nat.zero_add, goneOut_outcome]
            · cases hnone
        | false =>
            obtain ⟨after, hputs, hfinish⟩ :=
              finish_broken hlink hconnected (c.left side spent) ⟨data, 0⟩ hdata data.length
            rw [hfinish] at hwrite
            cases hwrite
            refine ⟨after, rfl, ?_⟩
            split <;> exact hputs

end Write

section Read

theorem mapError_ok (value : α) :
    (Except.ok value : Except IoError α).mapError Fault.ofIo = .ok value := rfl

variable {c : Connection} {duplex : Duplex} {side : End}

-- How the pipe to this end answers when it is empty.
def silence (duplex : Duplex) (side : End) : Halt :=
  if (duplex.incoming side).connected then .failed (Fault.ofIo Duplex.timedOut) else .ended

-- The connection over `duplex` with these octets under way to one end.
def carrying (c : Connection) (duplex : Duplex) (side : End) (octets : Bytes) : Connection :=
  { c with link := .pipes (duplex.setIncoming side { duplex.incoming side with buffer := octets }) }

variable (side) in
theorem carrying_self (hlink : c.link = .pipes duplex) :
    c.carrying duplex side (duplex.incoming side).buffer = c := by
  change { c with link := .pipes (duplex.setIncoming side (duplex.incoming side)) } = c
  rw [Duplex.setIncoming_incoming, ← hlink]

theorem read_carrying_nil (hopen : (c.line side).closed = false)
    (hlimit : Duration.endsWait (duplex.half side).readLimit = true) {room : Nat}
    (hroom : 0 < room) :
    (c.carrying duplex side []).read side room =
      (some (silence duplex side).answer, c.carrying duplex side []) := by
  have hzero : room ≠ 0 := Nat.pos_iff_ne_zero.mp hroom
  cases hconnected : (duplex.incoming side).connected <;>
    simp [read, read?, hzero, hopen, carrying, Link.read?, Duplex.read?, Pipe.read?, hconnected,
      silence, Halt.answer, Link.readLimit, hlimit, timedOut, Link.timedOut, mapError_ok]

theorem read_carrying (hopen : (c.line side).closed = false) {octets : Bytes} (hne : octets ≠ [])
    {room : Nat} (hroom : 0 < room) :
    (c.carrying duplex side octets).read side room =
      (some (.ok (octets.take room)), c.carrying duplex side (octets.drop room)) := by
  have hzero : room ≠ 0 := Nat.pos_iff_ne_zero.mp hroom
  simp [read, read?, hzero, hopen, carrying, Link.read?, Duplex.read?, Pipe.read?, hne,
    mapError_ok]

-- The octets that a reader gets.
def gotten : Option (Except Fault Bytes) → Bytes
  | some (.ok octets) => octets
  | _ => []

-- Whoever reads, and with whatever result: what a reader gets is what comes first in the pipe.
theorem read_takes (hlink : c.link = .pipes duplex) (side : End) (room : Nat) :
    ∃ rest, (duplex.incoming side).buffer = gotten (c.read side room).1 ++ rest ∧
      (c.read side room).2 = c.carrying duplex side rest := by
  have hself : c = c.carrying duplex side (duplex.incoming side).buffer :=
    (carrying_self side hlink).symm
  by_cases hzero : room = 0
  · exact ⟨(duplex.incoming side).buffer, by simp [read, read?, hzero, gotten],
      by simpa [read, read?, hzero] using hself⟩
  · cases hclosed : (c.line side).closed with
    | true =>
        exact ⟨(duplex.incoming side).buffer, by simp [read, read?, hzero, hclosed, gotten],
          by simpa [read, read?, hzero, hclosed] using hself⟩
    | false =>
        rcases hread : (duplex.incoming side).read? room with _ | ⟨octets, pipe⟩
        · refine ⟨(duplex.incoming side).buffer, ?_, ?_⟩
          all_goals
            simp only [read, read?, hzero, hclosed, hlink, Link.read?, Duplex.read?, hread,
              if_false, Bool.false_eq_true, Option.map_none]
            split
          · rfl
          · rfl
          · exact hself
          · exact hself
        · obtain ⟨rest, hbuffer, rfl⟩ := Pipe.read?_cases hread
          refine ⟨rest, ?_, ?_⟩
          all_goals
            simp [read, read?, hzero, hclosed, hlink, Link.read?, Duplex.read?, hread, mapError_ok,
              gotten, hbuffer, carrying]

-- What there is to read at one end, as long as nobody writes at the other.
def Offers (c : Connection) (duplex : Duplex) (side : End) (state : Connection)
    (supply : Supply) : Prop :=
  ∃ (octets : Bytes) (ends : Nat), state = c.carrying duplex side octets ∧
    supply <+: ⟨octets, silence duplex side⟩ :: List.replicate ends ⟨[], silence duplex side⟩

variable (side) in
theorem offers_self (hlink : c.link = .pipes duplex) (ends : Nat) :
    Offers c duplex side c (⟨(duplex.incoming side).buffer, silence duplex side⟩ ::
      List.replicate ends ⟨[], silence duplex side⟩) :=
  ⟨_, ends, (carrying_self side hlink).symm, List.prefix_refl _⟩

theorem Offers.eq_carrying {state : Connection} {octets : Bytes} {halt : Halt} {later : Supply}
    (h : Offers c duplex side state (⟨octets, halt⟩ :: later)) :
    state = c.carrying duplex side octets := by
  obtain ⟨other, ends, hstate, hprefix⟩ := h
  rw [List.cons_prefix_cons, Stretch.mk.injEq] at hprefix
  rw [hstate, hprefix.1.1]

theorem byteLine_faithful (hopen : (c.line side).closed = false)
    (hlimit : Duration.endsWait (duplex.half side).readLimit = true) (spent : Nat) :
    (byteLine side spent).Faithful (Offers c duplex side) := by
  rintro state supply room ⟨octets, ends, rfl, hsupply⟩ hne hroom
  cases supply with
  | nil => exact absurd rfl hne
  | cons stretch later =>
      rw [List.cons_prefix_cons] at hsupply
      obtain ⟨rfl, hlater⟩ := hsupply
      cases octets with
      | nil =>
          refine ⟨_, _, later, read_carrying_nil hopen hlimit hroom, .halt _, [], ends, rfl, ?_⟩
          rw [← List.replicate_succ, List.replicate_succ']
          exact hlater.trans (List.prefix_append _ _)
      | cons octet octets =>
          refine ⟨_, _, ⟨(octet :: octets).drop room, _⟩ :: later,
            read_carrying hopen (List.cons_ne_nil octet octets) hroom, ?_, _, ends, rfl,
            List.cons_prefix_cons.mpr ⟨rfl, hlater⟩⟩
          exact .of_take (List.cons_ne_nil octet octets) hroom

end Read

end Connection

end FramedLines
