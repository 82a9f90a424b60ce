import FramedLines.Proofs.Sockets

-- Writes, attempt by attempt: what the stream has accepted is what the writer hears of. So a
-- writer who goes on from there gets every octet across, once and in order.

namespace FramedLines

namespace Attempt

-- What the stream accepts of the octets that it is offered.
def accepts (offered : Bytes) : Attempt → Bytes
  | took count => offered.take count
  | failed _ | late => []

-- A stream accepts no more than there is.
def Fits (offered : Bytes) : Attempt → Prop
  | took count => count ≤ offered.length
  | failed _ | late => True

-- The time was up, by the clock or by what the stream says.
def RanOut : Attempt → Prop
  | took _ => False
  | failed error => (Fault.ofIo error).isTimeout
  | late => True

-- The stream takes nothing at all, or fails in a way that ends the write.
inductive Refuses : Attempt → Fault → Prop where
  | nothing : Refuses (.took 0) (Fault.connectionLost.withContext "peer stopped accepting bytes")
  | failed {error : IoError} (hkind : error.kind ≠ .interrupted)
      (htime : (Fault.ofIo error).isTimeout = false) : Refuses (.failed error) (Fault.ofIo error)

theorem Refuses.isTimeout {attempt : Attempt} {fault : Fault} (h : attempt.Refuses fault) :
    fault.isTimeout = false := by
  cases h with
  | nothing => rfl
  | failed _ htime => exact htime

end Attempt

namespace Sending

-- A write goes through these attempts, in which the stream accepts these octets, and has then
-- come so far. There are no attempts behind one that ends it.
inductive Runs : Sending → List Attempt → Bytes → Progress → Prop where
  | rest (sending : Sending) : Runs sending [] [] (.going sending)
  | step {sending next : Sending} {attempt : Attempt} {attempts : List Attempt} {accepted : Bytes}
      {progress : Progress} (hfits : attempt.Fits sending.pending)
      (hadvance : sending.advance attempt = .going next)
      (hrest : Runs next attempts accepted progress) :
      Runs sending (attempt :: attempts) (attempt.accepts sending.pending ++ accepted) progress
  | stop {sending : Sending} {attempt : Attempt} {result : Except Fault WriteOutcome}
      (hfits : attempt.Fits sending.pending) (hadvance : sending.advance attempt = .ended result) :
      Runs sending [attempt] (attempt.accepts sending.pending) (.ended result)

theorem Runs.run_eq {sending : Sending} {attempts : List Attempt} {accepted : Bytes}
    {progress : Progress} (h : sending.Runs attempts accepted progress) :
    sending.run attempts = progress := by
  induction h with
  | rest => rfl
  | step _ hadvance _ ih =>
      rw [run, hadvance]
      exact ih
  | stop _ hadvance => rw [run, hadvance]

-- A write of `data` that is under way.
structure Of (sending : Sending) (data : Bytes) : Prop where
  pending : data.drop sending.written = sending.pending
  unfinished : sending.written < data.length

theorem of_start {data : Bytes} (hdata : data ≠ []) : Of ⟨data, 0⟩ data :=
  ⟨rfl, List.length_pos_iff.mpr hdata⟩

-- How a write of `data` ends when all that the stream accepted is `accepted`, with its last
-- attempt.
inductive Ends (data : Bytes) : (accepted : Bytes) → (last : Attempt) →
    Except Fault WriteOutcome → Prop where
  | whole (hdata : data ≠ []) (last : Attempt) :
      Ends data data last (.ok ⟨data.length, data.length⟩)
  | short {written : Nat} {last : Attempt} (hpos : 0 < written) (hshort : written < data.length)
      (hlast : last.RanOut) : Ends data (data.take written) last (.ok ⟨written, data.length⟩)
  | nothing {last : Attempt} (hlast : last.RanOut) :
      Ends data [] last (.error (Fault.timeout.withContext "no bytes accepted before send timeout"))
  | refused {accepted : Bytes} {last : Attempt} {fault : Fault} (hlast : last.Refuses fault)
      (hfront : accepted <+: data) : Ends data accepted last (.error fault)

section Steps

variable {sending : Sending} {data : Bytes}

theorem Of.ne_nil (h : sending.Of data) : data ≠ [] :=
  List.ne_nil_of_length_pos (Nat.zero_lt_of_lt h.unfinished)

theorem Of.ends_of_ranOut (h : sending.Of data) {last : Attempt} (hlast : last.RanOut) :
    Ends data (data.take sending.written) last sending.outcome := by
  have hunfinished := h.unfinished
  have hrequested : sending.written + sending.pending.length = data.length := by
    rw [← h.pending, List.length_drop]
    omega
  rw [outcome]
  split
  · next hzero =>
      rw [hzero]
      exact .nothing hlast
  · next hne =>
      rw [hrequested]
      exact .short (Nat.pos_of_ne_zero hne) hunfinished hlast

theorem Of.advance_took (h : sending.Of data) {count : Nat} (hpos : count ≠ 0)
    (hcount : count ≤ sending.pending.length) :
    (∃ next, sending.advance (.took count) = .going next ∧ next.Of data ∧
      next.written = sending.written + count) ∨
    sending.advance (.took count) = .ended (.ok ⟨data.length, data.length⟩) ∧
      sending.written + count = data.length := by
  have hunfinished := h.unfinished
  have hpending : sending.pending.length = data.length - sending.written := by
    rw [← h.pending, List.length_drop]
  rw [Sending.advance_took hpos]
  split
  · next hempty =>
      have hrest := List.isEmpty_iff.mp hempty
      have hall : sending.written + count = data.length := by
        have hlength := congrArg List.length hrest
        rw [List.length_drop, List.length_nil] at hlength
        omega
      refine .inr ⟨?_, hall⟩
      rw [Sending.outcome, hrest, hall, if_neg (show data.length ≠ 0 by omega)]
      rfl
  · next hmore =>
      have hrest := List.length_pos_iff.mpr fun hnil => hmore (List.isEmpty_iff.mpr hnil)
      rw [List.length_drop] at hrest
      refine .inl ⟨_, rfl, ⟨?_, ?_⟩, rfl⟩
      · rw [← h.pending, List.drop_drop]
      · show sending.written + count < data.length
        omega

-- One attempt takes a write on by what the stream accepts, or ends it.
theorem Of.advance (h : sending.Of data) {attempt : Attempt}
    (hfits : attempt.Fits sending.pending) :
    (∃ next, sending.advance attempt = .going next ∧ next.Of data ∧
      data.take next.written = data.take sending.written ++ attempt.accepts sending.pending) ∨
    ∃ result, sending.advance attempt = .ended result ∧
      Ends data (data.take sending.written ++ attempt.accepts sending.pending) attempt result := by
  have hfront := data.take_prefix sending.written
  cases attempt with
  | took count =>
      by_cases hzero : count = 0
      · subst hzero
        refine .inr ⟨_, rfl, ?_⟩
        rw [Attempt.accepts, List.take_zero, List.append_nil]
        exact .refused .nothing hfront
      · have htake : data.take (sending.written + count) =
            data.take sending.written ++ sending.pending.take count := by
          rw [List.take_add, h.pending]
        rw [Attempt.accepts, ← htake]
        obtain ⟨next, hadvance, hnext, hwritten⟩ | ⟨hadvance, hall⟩ := h.advance_took hzero hfits
        · exact .inl ⟨next, hadvance, hnext, by rw [hwritten]⟩
        · rw [hall, List.take_length]
          exact .inr ⟨_, hadvance, .whole h.ne_nil _⟩
  | failed error =>
      rw [Attempt.accepts, List.append_nil, Sending.advance]
      split
      · exact .inl ⟨sending, rfl, h, rfl⟩
      · next hkind =>
          cases htime : (Fault.ofIo error).isTimeout with
          | true => exact .inr ⟨_, rfl, h.ends_of_ranOut htime⟩
          | false => exact .inr ⟨_, rfl, .refused (.failed hkind htime) hfront⟩
  | late =>
      rw [Attempt.accepts, List.append_nil]
      exact .inr ⟨_, rfl, h.ends_of_ranOut trivial⟩

theorem Of.of_going (h : sending.Of data) {attempt : Attempt}
    (hfits : attempt.Fits sending.pending) {next : Sending}
    (hadvance : sending.advance attempt = .going next) :
    next.Of data ∧
      data.take next.written = data.take sending.written ++ attempt.accepts sending.pending := by
  rcases h.advance hfits with ⟨other, hother, hof, htake⟩ | ⟨result, hended, -⟩
  · cases hadvance.symm.trans hother
    exact ⟨hof, htake⟩
  · cases hadvance.symm.trans hended

theorem Of.of_ended (h : sending.Of data) {attempt : Attempt}
    (hfits : attempt.Fits sending.pending) {result : Except Fault WriteOutcome}
    (hadvance : sending.advance attempt = .ended result) :
    Ends data (data.take sending.written ++ attempt.accepts sending.pending) attempt result := by
  rcases h.advance hfits with ⟨next, hnext, -, -⟩ | ⟨other, hother, hends⟩
  · cases hadvance.symm.trans hnext
  · cases hadvance.symm.trans hother
    exact hends

-- Attempt by attempt it is the same of a whole write.
theorem Of.runs {attempts : List Attempt} {accepted : Bytes} {progress : Progress}
    (h : sending.Of data) (hruns : sending.Runs attempts accepted progress) :
    (∀ next, progress = .going next → next.Of data ∧
      data.take next.written = data.take sending.written ++ accepted) ∧
    ∀ result, progress = .ended result → ∃ last ∈ attempts.getLast?,
      Ends data (data.take sending.written ++ accepted) last result := by
  induction hruns with
  | rest sending =>
      refine ⟨?_, fun result hresult => (by cases hresult)⟩
      rintro next ⟨⟩
      exact ⟨h, (List.append_nil _).symm⟩
  | @step sending next attempt attempts accepted progress hfits hadvance hrest ih =>
      obtain ⟨hof, htake⟩ := h.of_going hfits hadvance
      obtain ⟨hgoing, hended⟩ := ih hof
      rw [htake, List.append_assoc] at hgoing hended
      refine ⟨hgoing, fun result hresult => ?_⟩
      obtain ⟨last, hlast, hends⟩ := hended result hresult
      cases attempts with
      | nil => cases hlast
      | cons other attempts => exact ⟨last, by rwa [List.getLast?_cons_cons], hends⟩
  | @stop sending attempt result hfits hadvance =>
      refine ⟨fun next hnext => (by cases hnext), ?_⟩
      rintro other ⟨⟩
      exact ⟨attempt, List.getLast?_singleton, h.of_ended hfits hadvance⟩

end Steps

section Ends

variable {data accepted : Bytes} {last : Attempt}

theorem Ends.of_ok {outcome : WriteOutcome} (h : Ends data accepted last (.ok outcome)) :
    outcome.requested = data.length ∧ 0 < outcome.written ∧
      outcome.written ≤ outcome.requested ∧ accepted = data.take outcome.written ∧
      (outcome.isShort → last.RanOut) := by
  cases h with
  | whole hdata =>
      refine ⟨rfl, List.length_pos_iff.mpr hdata, Nat.le_refl _, data.take_length.symm, ?_⟩
      intro hshort
      exact absurd (of_decide_eq_true hshort) (Nat.lt_irrefl _)
  | short hpos hshort hlast => exact ⟨rfl, hpos, Nat.le_of_lt hshort, rfl, fun _ => hlast⟩

theorem Ends.of_error {fault : Fault} (h : Ends data accepted last (.error fault)) :
    if fault.isTimeout then accepted = [] else last.Refuses fault := by
  cases h with
  | nothing => exact rfl
  | refused hlast =>
      rw [hlast.isTimeout]
      exact hlast

theorem Ends.front_of_error {fault : Fault} (h : Ends data accepted last (.error fault)) :
    accepted <+: data := by
  cases h with
  | nothing => exact data.nil_prefix
  | refused _ hfront => exact hfront

end Ends

-- Goes on with what a short write left over, and makes a write again that timed out. Altogether
-- the stream has accepted these octets by now, and then there is still so much left to write, or a
-- call has failed.
inductive Resends : (data accepted : Bytes) → Except Fault Bytes → Prop where
  | rest (data : Bytes) : Resends data [] (.ok data)
  | waits {data accepted : Bytes} {attempts : List Attempt} {next : Sending} (hdata : data ≠ [])
      (hruns : Runs ⟨data, 0⟩ attempts accepted (.going next)) :
      Resends data accepted (.ok next.pending)
  | resumes {data accepted more : Bytes} {attempts : List Attempt} {outcome : WriteOutcome}
      {left : Except Fault Bytes} (hdata : data ≠ [])
      (hruns : Runs ⟨data, 0⟩ attempts accepted (.ended (.ok outcome)))
      (hmore : Resends (data.drop outcome.written) more left) :
      Resends data (accepted ++ more) left
  | retries {data accepted more : Bytes} {attempts : List Attempt} {fault : Fault}
      {left : Except Fault Bytes} (hdata : data ≠ [])
      (hruns : Runs ⟨data, 0⟩ attempts accepted (.ended (.error fault))) (htime : fault.isTimeout)
      (hmore : Resends data more left) : Resends data (accepted ++ more) left
  | fails {data accepted : Bytes} {attempts : List Attempt} {fault : Fault} (hdata : data ≠ [])
      (hruns : Runs ⟨data, 0⟩ attempts accepted (.ended (.error fault)))
      (htime : fault.isTimeout = false) : Resends data accepted (.error fault)

section Calls

variable {data accepted : Bytes} {attempts : List Attempt}

theorem pending_of_runs (hdata : data ≠ []) {next : Sending}
    (hruns : Runs ⟨data, 0⟩ attempts accepted (.going next)) : accepted ++ next.pending = data := by
  obtain ⟨hof, htake⟩ := ((of_start hdata).runs hruns).1 next rfl
  rw [List.take_zero, List.nil_append] at htake
  rw [← htake, ← hof.pending, List.take_append_drop]

theorem ends_of_runs (hdata : data ≠ []) {result : Except Fault WriteOutcome}
    (hruns : Runs ⟨data, 0⟩ attempts accepted (.ended result)) :
    ∃ last ∈ attempts.getLast?, Ends data accepted last result :=
  ((of_start hdata).runs hruns).2 result rfl

-- Nothing is lost between two calls and nothing is sent twice.
theorem Resends.conserves {left : Except Fault Bytes} (h : Resends data accepted left) :
    (∀ rest, left = .ok rest → accepted ++ rest = data) ∧
      ∀ fault, left = .error fault → accepted <+: data := by
  induction h with
  | rest data =>
      refine ⟨?_, fun fault hfault => (by cases hfault)⟩
      rintro rest ⟨⟩
      exact List.nil_append data
  | waits hdata hruns =>
      refine ⟨?_, fun fault hfault => (by cases hfault)⟩
      rintro rest ⟨⟩
      exact pending_of_runs hdata hruns
  | @resumes data accepted more attempts outcome left hdata hruns hmore ih =>
      obtain ⟨last, -, hends⟩ := ends_of_runs hdata hruns
      obtain ⟨-, -, -, rfl, -⟩ := hends.of_ok
      obtain ⟨hok, herror⟩ := ih
      refine ⟨fun rest hrest => ?_, fun fault hfault => ?_⟩
      · rw [List.append_assoc, hok rest hrest, List.take_append_drop]
      · have hfront := herror fault hfault
        have happend := (List.prefix_append_right_inj (data.take outcome.written)).mpr hfront
        rwa [List.take_append_drop] at happend
  | @retries data accepted more attempts fault left hdata hruns htime hmore ih =>
      obtain ⟨last, -, hends⟩ := ends_of_runs hdata hruns
      have hnothing := hends.of_error
      rw [if_pos htime] at hnothing
      rwa [hnothing, List.nil_append]
  | @fails data accepted attempts fault hdata hruns htime =>
      obtain ⟨last, -, hends⟩ := ends_of_runs hdata hruns
      refine ⟨fun rest hrest => (by cases hrest), ?_⟩
      rintro other ⟨⟩
      exact hends.front_of_error

end Calls

end Sending

-- What a write has come to, when it is over.
def Progress.result? : Progress → Option (Except Fault WriteOutcome)
  | going _ => none
  | ended result => some result

-- What the link makes of the octets it is offered, as an attempt.
def Attempt.ofResult : Except IoError Nat → Attempt
  | .ok count => .took count
  | .error error => .failed error

-- Over sockets, what it is to have these octets put in from one end. They arrive as long as the
-- other end has not let go. The first ones after that are lost, over TCP alone, and no more go out.
structure SocketPair.Puts (side : End) (octets : Bytes) (before after : SocketPair) : Prop where
  family : after.family = before.family
  peer : after.half side.other = { before.half side.other with
    incoming := (before.half side.other).incoming ++
      if (before.half side.other).released then [] else octets }
  incoming : (after.half side).incoming = (before.half side).incoming
  lost : (before.half side.other).released = true → octets ≠ [] →
    before.family = .tcp ∧ (after.half side).severed = true
  severed : (before.half side).severed = true → octets = [] ∧ (after.half side).severed = true

namespace SocketPair.Puts

variable {side : End} {before middle after : SocketPair} {octets more : Bytes}

theorem of_nothing {half : SocketHalf} (pair : SocketPair)
    (hincoming : half.incoming = (pair.half side).incoming)
    (hsevered : half.severed = (pair.half side).severed) :
    pair.Puts side [] (pair.setHalf side half) := by
  refine ⟨by cases side <;> rfl, ?_, ?_, fun _ hsome => absurd rfl hsome, fun h => ⟨rfl, ?_⟩⟩
  · simp
  · rw [half_setHalf, hincoming]
  · rw [half_setHalf, hsevered, h]

theorem refl (side : End) (pair : SocketPair) : pair.Puts side [] pair := by
  have h : pair.Puts side [] (pair.setHalf side (pair.half side)) := of_nothing pair rfl rfl
  rwa [setHalf_half] at h

theorem trans (h : before.Puts side octets middle) (hmore : middle.Puts side more after) :
    before.Puts side (octets ++ more) after := by
  have hreleased : (middle.half side.other).released = (before.half side.other).released := by
    rw [h.peer]
  refine ⟨hmore.family.trans h.family, ?_, hmore.incoming.trans h.incoming,
    fun hgone hsome => ?_, fun hsevered => ?_⟩
  · rw [hmore.peer, hreleased, h.peer]
    cases (before.half side.other).released <;> simp
  · by_cases hnone : more = []
    · subst hnone
      rw [List.append_nil] at hsome
      obtain ⟨hfamily, hsevered⟩ := h.lost hgone hsome
      exact ⟨hfamily, (hmore.severed hsevered).2⟩
    · obtain ⟨hfamily, hsevered⟩ := hmore.lost (hreleased.trans hgone) hnone
      exact ⟨h.family ▸ hfamily, hsevered⟩
  · obtain ⟨rfl, hmiddle⟩ := h.severed hsevered
    exact hmore.severed hmiddle

end SocketPair.Puts

-- Where the octets of a write go.
theorem SocketPair.write_cases {data : Bytes} (hdata : data ≠ []) (side : End) (pair : SocketPair) :
    pair.write side data = (.error (.os .brokenPipe), pair) ∨
    (pair.half side).severed = true ∧ pair.write side data =
      (.error (.os ((pair.half side).news.getD .brokenPipe)),
        pair.setHalf side { pair.half side with news := none }) ∨
    ((pair.half side).severed = false ∧ (pair.half side.other).released = true ∧
      pair.family = .tcp ∧ pair.write side data = (.ok data.length,
        pair.setHalf side { pair.half side with severed := true, news := some .brokenPipe })) ∨
    ((pair.half side).severed = false ∧ (pair.half side.other).released = false ∧
      pair.write side data = (.ok data.length, pair.setHalf side.other
        { pair.half side.other with incoming := (pair.half side.other).incoming ++ data })) := by
  cases hfamily : pair.family <;> cases hgone : (pair.half side.other).released <;>
    cases hsevered : (pair.half side).severed <;> simp [write, hdata, hfamily, hgone, hsevered]

-- What is accepted is what is put in.
theorem SocketPair.puts_write {data : Bytes} (hdata : data ≠ []) (side : End) (pair : SocketPair) :
    (Attempt.ofResult (pair.write side data).1).Fits data ∧
      pair.Puts side ((Attempt.ofResult (pair.write side data).1).accepts data)
        (pair.write side data).2 := by
  rcases pair.write_cases hdata side with hwrite | ⟨-, hwrite⟩ |
    ⟨hsevered, hgone, htcp, hwrite⟩ | ⟨hsevered, hthere, hwrite⟩
  all_goals simp only [hwrite, Attempt.ofResult, Attempt.accepts, List.take_length]
  · exact ⟨trivial, .refl side pair⟩
  · exact ⟨trivial, .of_nothing pair rfl rfl⟩
  · refine ⟨Nat.le_refl _, by cases side <;> rfl, ?_, by simp, fun _ _ => ⟨htcp, by simp⟩,
      fun h => ?_⟩
    · rw [half_setHalf_other, if_pos hgone, List.append_nil]
    · cases hsevered.symm.trans h
  · refine ⟨Nat.le_refl _, by cases side <;> rfl, ?_, ?_, fun h => ?_, fun h => ?_⟩
    · rw [half_setHalf, if_neg (by simp [hthere])]
    · cases side <;> rfl
    · cases hthere.symm.trans h
    · cases hsevered.symm.trans h

-- What is taken of a write that does not end with it makes the rest shorter.
theorem Sending.shorter_of_took {sending next : Sending} {count : Nat}
    (hadvance : sending.advance (.took count) = .going next) :
    next.pending ≠ [] ∧ next.pending.length < sending.pending.length := by
  by_cases hcount : count = 0
  · subst hcount
    cases hadvance
  rw [advance_took hcount] at hadvance
  split at hadvance
  · cases hadvance
  · next hrest =>
      cases hadvance
      have hsome : sending.pending.drop count ≠ [] := by simpa using hrest
      have hlength := List.length_pos_iff.mpr hsome
      rw [List.length_drop] at hlength ⊢
      exact ⟨hsome, by omega⟩

namespace Link

variable {side : End} {octets more data : Bytes} {before middle after : Link}
  {result : Except IoError Nat} {sending next : Sending}

-- What it is to have these octets put in from one end.
inductive Takes (side : End) (octets : Bytes) : Link → Link → Prop where
  | pipes {before after : Duplex} (h : before.Puts side octets after) :
      Takes side octets (.pipes before) (.pipes after)
  | sockets {before after : SocketPair} (h : before.Puts side octets after) :
      Takes side octets (.sockets before) (.sockets after)

theorem Takes.refl (side : End) (link : Link) : link.Takes side [] link := by
  cases link with
  | pipes duplex => exact .pipes (.refl duplex)
  | sockets pair => exact .sockets (.refl side pair)

theorem Takes.trans (h : before.Takes side octets middle) (hmore : middle.Takes side more after) :
    before.Takes side (octets ++ more) after := by
  cases h with
  | pipes h =>
      cases hmore with
      | pipes hmore => exact .pipes (h.trans hmore)
  | sockets h =>
      cases hmore with
      | sockets hmore => exact .sockets (h.trans hmore)

theorem takes_setWriteLimit (side : End) (limit : Option Duration) (link : Link) :
    link.Takes side [] (link.setWriteLimit side limit) := by
  cases link with
  | pipes duplex => exact .pipes (.told duplex limit)
  | sockets pair => exact .sockets (.of_nothing pair rfl rfl)

theorem write?_accounts (hdata : data ≠ [])
    (hwrite : before.write? side data = some (result, after)) :
    (Attempt.ofResult result).Fits data ∧
      before.Takes side ((Attempt.ofResult result).accepts data) after := by
  cases before with
  | pipes duplex =>
      rcases hpipe : (duplex.outgoing side).write? data with _ | ⟨answer, pipe⟩
      all_goals
        simp only [write?, Duplex.write?, hpipe, Option.map_none, Option.map_some] at hwrite
        cases hwrite
      rcases Pipe.write?_cases hpipe with ⟨-, rfl, rfl⟩ | ⟨count, rfl, hcount, -, rfl⟩
      · rw [Duplex.setIncoming_outgoing]
        exact ⟨trivial, .refl side _⟩
      · refine ⟨show count ≤ data.length by omega, .pipes ⟨?_, by simp, by simp⟩⟩
        simp [Attempt.ofResult, Attempt.accepts]
  | sockets pair =>
      cases hwrite
      obtain ⟨hfits, hputs⟩ := pair.puts_write hdata side
      exact ⟨hfits, .sockets hputs⟩

-- A writer has to wait, and nothing ends its wait.
structure Stuck (side : End) (link : Link) : Prop where
  full : ∃ duplex, link = .pipes duplex ∧ (duplex.outgoing side).connected = true ∧
    (duplex.outgoing side).space = 0
  endless : Duration.endsWait (link.writeLimit side) = false

theorem full_of_write? (hwrite : before.write? side data = none) :
    ∃ duplex, before = .pipes duplex ∧ (duplex.outgoing side).connected = true ∧
      (duplex.outgoing side).space = 0 := by
  cases before with
  | pipes duplex =>
      simp only [write?, Duplex.write?, Option.map_eq_none_iff, Pipe.write?] at hwrite
      split at hwrite
      · cases hwrite
      · split at hwrite
        · cases hwrite
        · next hconnected =>
            split at hwrite
            · next hspace => exact ⟨duplex, rfl, by simpa using hconnected, hspace⟩
            · cases hwrite
  | sockets pair => cases hwrite

theorem advance_timedOut (sending : Sending) (link : Link) :
    sending.advance (.failed link.timedOut) = .ended sending.outcome := by
  cases link <;> rfl

-- How often an attempt to write can be cut off before it gets anywhere.
def interruptions (side : End) : Link → Nat
  | .pipes _ => 0
  | .sockets pair => (pair.half side).news.isSome.toNat

theorem interruptions_setWriteLimit (side : End) (limit : Option Duration) (link : Link) :
    (link.setWriteLimit side limit).interruptions side = link.interruptions side := by
  cases link with
  | pipes duplex => rfl
  | sockets pair => cases side <;> rfl

-- An attempt that does not end a write gets it further, or there is one interruption less.
theorem write?_progress (hpending : sending.pending ≠ [])
    (hwrite : before.write? side sending.pending = some (result, after))
    (hadvance : sending.advance (.ofResult result) = .going next) :
    next.pending ≠ [] ∧ next.pending.length + after.interruptions side <
      sending.pending.length + before.interruptions side := by
  have hsome := List.length_pos_iff.mpr hpending
  cases before with
  | pipes duplex =>
      rcases hpipe : (duplex.outgoing side).write? sending.pending with _ | ⟨answer, pipe⟩
      all_goals
        simp only [write?, Duplex.write?, hpipe, Option.map_none, Option.map_some] at hwrite
        cases hwrite
      rcases Pipe.write?_cases hpipe with ⟨-, rfl, rfl⟩ | ⟨count, rfl, -, -, rfl⟩
      · cases hadvance
      · exact Sending.shorter_of_took hadvance
  | sockets pair =>
      rcases pair.write_cases hpending side with hanswer | ⟨-, hanswer⟩ | ⟨-, -, -, hanswer⟩ |
        ⟨-, -, hanswer⟩
      all_goals
        simp only [write?, hanswer] at hwrite
        cases hwrite
        rw [Attempt.ofResult] at hadvance
      · cases hadvance
      · cases hnews : (pair.half side).news with
        | none =>
            rw [hnews] at hadvance
            cases hadvance
        | some errno =>
            rw [hnews, Sending.advance] at hadvance
            split at hadvance
            · cases hadvance
              refine ⟨hpending, ?_⟩
              simp [interruptions, hnews]
            · split at hadvance <;> cases hadvance
      · simp [Sending.advance_took (Nat.ne_of_gt hsome)] at hadvance
      · simp [Sending.advance_took (Nat.ne_of_gt hsome)] at hadvance

end Link

namespace Connection

-- The link is a stream like any other, and what it accepts goes into it. It has to wait only when
-- it is full.
theorem attempt_eq (side : End) (left : Option Duration) {sending : Sending}
    (hpending : sending.pending ≠ []) (c : Connection) :
    ∃ link, (c.attempt side left sending = (none, { c with link }) ∧
        c.link.Takes side [] link ∧
        ∃ duplex, link = .pipes duplex ∧ (duplex.outgoing side).connected = true ∧
          (duplex.outgoing side).space = 0) ∨
      ∃ attempt : Attempt,
        c.attempt side left sending = (some (sending.advance attempt), { c with link }) ∧
        attempt.Fits sending.pending ∧
        c.link.Takes side (attempt.accepts sending.pending) link ∧
        ∀ next, sending.advance attempt = .going next → next.pending ≠ [] ∧
          next.pending.length + link.interruptions side <
            sending.pending.length + c.link.interruptions side := by
  by_cases hlate : left.any Duration.isZero = true
  · refine ⟨c.link, .inr ⟨.late, ?_, trivial, .refl side c.link, fun _ h => (by cases h)⟩⟩
    rw [attempt, if_pos hlate]
  · obtain ⟨told, htold, htakes, hsame⟩ : ∃ told,
        (if left.isSome then c.link.setWriteLimit side left else c.link) = told ∧
          c.link.Takes side [] told ∧ told.interruptions side = c.link.interruptions side := by
      cases left with
      | none => exact ⟨_, rfl, .refl side c.link, rfl⟩
      | some limit =>
          exact ⟨_, rfl, c.link.takes_setWriteLimit side (some limit),
            c.link.interruptions_setWriteLimit side (some limit)⟩
    simp only [attempt, if_neg hlate, htold]
    rcases hwrite : told.write? side sending.pending with _ | ⟨result, link⟩
    · exact ⟨told, .inl ⟨rfl, htakes, Link.full_of_write? hwrite⟩⟩
    · obtain ⟨hfits, hmore⟩ := Link.write?_accounts hpending hwrite
      refine ⟨link, .inr ⟨.ofResult result, ?_, hfits, htakes.trans hmore, fun next hnext => ?_⟩⟩
      · cases result <;> rfl
      · rw [← hsame]
        exact Link.write?_progress hpending hwrite hnext

-- With as many attempts as it can take, a write comes to its end or is stuck.
theorem finish_runs (side : End) (left : Option Duration) {fuel : Nat} {sending : Sending}
    {c : Connection} (hpending : sending.pending ≠ [])
    (hfuel : sending.pending.length + c.link.interruptions side ≤ fuel) :
    ∃ attempts accepted progress link, sending.Runs attempts accepted progress ∧
      c.finish side left fuel sending = (progress.result?, { c with link }) ∧
      c.link.Takes side accepted link ∧ (progress.result? = none → link.Stuck side) := by
  induction fuel generalizing sending c with
  | zero =>
      have hsome := List.length_pos_iff.mpr hpending
      omega
  | succ fuel ih =>
      obtain ⟨link, ⟨hattempt, htakes, hfull⟩ | ⟨attempt, hattempt, hfits, htakes, hgoing⟩⟩ :=
        c.attempt_eq side left hpending
      · simp only [finish, hattempt]
        cases hends : Duration.endsWait (link.writeLimit side) with
        | true =>
            have hfits : (Attempt.failed link.timedOut).Fits sending.pending := trivial
            have hadvance := Link.advance_timedOut sending link
            simp only [hadvance, if_true]
            exact ⟨_, _, _, link, .stop hfits hadvance, rfl, htakes,
              fun hnone => by cases hnone⟩
        | false =>
            exact ⟨[], [], .going sending, link, .rest sending, rfl, htakes,
              fun _ => ⟨hfull, hends⟩⟩
      · rw [finish, hattempt]
        cases hadvance : sending.advance attempt with
        | going next =>
            obtain ⟨hnext, hless⟩ := hgoing next hadvance
            obtain ⟨attempts, accepted, progress, last, hruns, hfinish, hmore, hstuck⟩ :=
              ih (c := { c with link }) hnext (by simp only; omega)
            exact ⟨_, _, _, last, .step hfits hadvance hruns, hfinish, htakes.trans hmore, hstuck⟩
        | ended result =>
            exact ⟨_, _, _, link, .stop hfits hadvance, rfl, htakes, fun hnone => by cases hnone⟩

theorem write_runs {side : End} {data : Bytes} {c : Connection}
    (hopen : (c.line side).closed = false) (hdata : data ≠ []) (spent : Nat) :
    ∃ attempts accepted progress link, Sending.Runs ⟨data, 0⟩ attempts accepted progress ∧
      c.write side data spent = (progress.result?, { c with link }) ∧
      c.link.Takes side accepted link ∧ (progress.result? = none → link.Stuck side) := by
  have hbegin : c.begin side data = .ok ⟨data, 0⟩ := by simp [begin, hdata, hopen]
  have honce : c.link.interruptions side ≤ 1 := by
    cases c.link with
    | pipes duplex => exact Nat.zero_le 1
    | sockets pair => exact Bool.toNat_le _
  simp only [write, hbegin]
  exact finish_runs side (c.left side spent) hdata (Nat.add_le_add_left honce _)

end Connection

-- What a writer hears is what the stream accepted: so much of the front, or nothing when it is a
-- timeout. So one who goes on from there loses nothing and repeats nothing. Every write on an open
-- line is such a write, and it returns unless it is stuck.
theorem Sending.writes_account_for_octets {data : Bytes} (hdata : data ≠ []) :
    (∀ {attempts : List Attempt} {accepted : Bytes} {result : Except Fault WriteOutcome},
      Runs ⟨data, 0⟩ attempts accepted (.ended result) →
        run ⟨data, 0⟩ attempts = .ended result ∧
        ∃ last ∈ attempts.getLast?,
          (∀ outcome, result = .ok outcome →
            outcome.requested = data.length ∧ 0 < outcome.written ∧
            outcome.written ≤ outcome.requested ∧ accepted = data.take outcome.written ∧
            (outcome.isShort → last.RanOut)) ∧
          ∀ fault, result = .error fault →
            if fault.isTimeout then accepted = [] else last.Refuses fault) ∧
    (∀ {accepted : Bytes},
      (∀ {rest}, Resends data accepted (.ok rest) → accepted ++ rest = data) ∧
      ∀ {fault}, Resends data accepted (.error fault) → accepted <+: data) ∧
    ∀ {side : End} {c : Connection}, (c.line side).closed = false → ∀ spent,
      ∃ attempts accepted progress link, Runs ⟨data, 0⟩ attempts accepted progress ∧
        c.write side data spent = (progress.result?, { c with link }) ∧
        c.link.Takes side accepted link ∧ (progress.result? = none → link.Stuck side) := by
  refine ⟨?_, ?_, fun hopen => Connection.write_runs hopen hdata⟩
  · intro attempts accepted result hruns
    obtain ⟨last, hlast, hends⟩ := ends_of_runs hdata hruns
    refine ⟨hruns.run_eq, last, hlast, ?_, ?_⟩
    · rintro outcome rfl
      exact hends.of_ok
    · rintro fault rfl
      exact hends.of_error
  · intro accepted
    exact ⟨fun h => h.conserves.1 _ rfl, fun h => h.conserves.2 _ rfl⟩

-- An interrupted attempt, two octets, and the time is up; then a timeout, and then the rest.
theorem Sending.writes_account_three_calls :
    let data : Bytes := [1, 2, 3, 4, 5]
    let first : List Attempt := [.failed (.bare .interrupted), .took 2, .late]
    (Runs ⟨data, 0⟩ first [1, 2] (.ended (.ok ⟨2, 5⟩)) ∧
      run ⟨data, 0⟩ first = .ended (.ok ⟨2, 5⟩)) ∧
    ∃ accepted, Resends data accepted (.ok []) ∧ accepted = data := by
  intro data first
  have hdata : data ≠ [] := by decide
  have hfirst : Runs ⟨data, 0⟩ first [1, 2] (.ended (.ok ⟨2, 5⟩)) :=
    .step trivial rfl (.step (show 2 ≤ 5 by decide) rfl (.stop trivial rfl))
  have hsecond : Runs ⟨[3, 4, 5], 0⟩ [.failed (.bare .timedOut)] []
      (.ended (.error (Fault.timeout.withContext "no bytes accepted before send timeout"))) :=
    .stop trivial rfl
  have hthird : Runs ⟨[3, 4, 5], 0⟩ [.took 3] [3, 4, 5] (.ended (.ok ⟨3, 3⟩)) :=
    .stop (show 3 ≤ 3 by decide) rfl
  have hresends : Resends data ([1, 2] ++ ([] ++ ([3, 4, 5] ++ []))) (.ok []) :=
    .resumes hdata hfirst (.retries (by decide) hsecond rfl
      (.resumes (by decide) hthird (.rest [])))
  obtain ⟨hruns, hcalls, -⟩ := writes_account_for_octets hdata
  refine ⟨⟨hfirst, (hruns hfirst).1⟩, _, hresends, ?_⟩
  have hconserved := (@hcalls _).1 hresends
  rwa [List.append_nil] at hconserved

end FramedLines
