import FramedLines.Proofs.Halves

-- The options of a line over pipes, the time limits that its end of the pipes holds for them, and
-- whether it is closed, over all that its holder and the other one can do.

namespace FramedLines

theorem LineOptions.get_set (options : LineOptions) (option other : LineOption)
    (value : Option Duration) : (options.set option value).get other =
      if option = other then value.filter (!·.isZero) else options.get other := by
  cases option <;> cases other <;> rfl

namespace Connection

-- A line with its connection. Its holder waits for a write to return before the next call, while
-- the other holder goes on.
structure InHand where
  connection : Connection
  writing : Option Sending := none

inductive Event where
  -- a call of the holder, with nobody in between
  | call (request : Call)
  -- a write that others come in between of: its start, an attempt when it has been going on for
  -- some nanoseconds, and the end of a wait that has taken too long
  | begin (data : Bytes)
  | attempt (spent : Nat)
  | expire
  -- whatever the other holder does
  | other (request : Call)

-- Attempts are part of a write and no calls by themselves.
def Call.isAttempt : Call → Bool
  | .attempt .. => true
  | _ => false

-- What an attempt leaves of a write.
def onward (sending : Sending) : Option Progress → Option Sending
  | none => some sending
  | some (.going sending) => some sending
  | some (.ended _) => none

namespace InHand

-- What an event comes to. Nothing where it cannot happen: a holder whose write has not returned
-- calls nothing else, and only a write under way is got on with.
def step (side : End) (hand : InHand) : Event → Option (Outcome × InHand)
  | .call request =>
      if request.isAttempt || hand.writing.isSome then none
      else
        let (outcome, connection) := request.perform side hand.connection
        some (outcome, ⟨connection, none⟩)
  | .begin data =>
      if hand.writing.isSome then none
      else match hand.connection.begin side data with
        | .error fault => some (.wrote (some (.error fault)), hand)
        | .ok sending => some (.wrote none, ⟨hand.connection, some sending⟩)
  | .attempt spent =>
      hand.writing.map fun sending =>
        let left := hand.connection.left side spent
        let (progress, connection) := hand.connection.attempt side left sending
        (.attempted progress, ⟨connection, onward sending progress⟩)
  | .expire =>
      if Duration.endsWait (hand.connection.link.writeLimit side) then
        hand.writing.map fun sending =>
          let progress := sending.advance (.failed hand.connection.link.timedOut)
          (.attempted (some progress), ⟨hand.connection, onward sending (some progress)⟩)
      else none
  | .other request =>
      let (outcome, connection) := request.perform side.other hand.connection
      some (outcome, ⟨connection, hand.writing⟩)

-- A call of the holder is made with no write under way.
theorem step_call {side : End} {hand next : InHand} {request : Call} {outcome : Outcome}
    (hstep : hand.step side (.call request) = some (outcome, next)) :
    hand.writing = none ∧ request.isAttempt = false ∧
      outcome = (request.perform side hand.connection).1 ∧
      next = ⟨(request.perform side hand.connection).2, none⟩ := by
  rw [step] at hstep
  split at hstep
  · cases hstep
  · next hcall =>
      cases hstep
      rw [Bool.or_eq_true, not_or, Bool.not_eq_true, Bool.not_eq_true, Option.isSome_eq_false_iff,
        Option.isNone_iff_eq_none] at hcall
      exact ⟨hcall.2, hcall.1, rfl, rfl⟩

end InHand

-- What happens to a line, with what came of it, the latest first.
inductive Run (side : End) (start : Connection) : List (Event × Outcome) → InHand → Prop where
  | start : Run side start [] ⟨start, none⟩
  | step {history : List (Event × Outcome)} {hand next : InHand} {event : Event}
      {outcome : Outcome} (h : Run side start history hand)
      (hstep : hand.step side event = some (outcome, next)) :
      Run side start ((event, outcome) :: history) next

-- The option that an event is to set, and its value.
def Event.setting : Event → Option (LineOption × Option Duration)
  | .call (.setOption option value) => some (option, value)
  | .call (.setOptionRaw id millis) =>
      (LineOption.ofId id).toOption.map (·, some (Duration.ofMillis millis))
  | _ => none

def Event.closes : Event → Bool
  | .call .close => true
  | _ => false

-- The value that was last set with success, where zero is no value.
def chosen (option : LineOption) : List (Event × Outcome) → Option Duration
  | [] => none
  | (event, outcome) :: earlier =>
      match event.setting, outcome with
      | some (target, value), .set (.ok ()) =>
          if target = option then value.filter (!·.isZero) else chosen option earlier
      | _, _ => chosen option earlier

theorem chosen_failed (event : Event) (fault : Fault) (option : LineOption)
    (history : List (Event × Outcome)) :
    chosen option ((event, .set (.error fault)) :: history) = chosen option history := by
  rw [chosen]
  intro _ _ _ hset
  cases hset

-- A line as it is made, whatever the other end has been used for.
structure Unused (side : End) (c : Connection) (duplex : Duplex) : Prop where
  link : c.link = .pipes duplex
  options : (c.line side).options = {}
  closed : (c.line side).closed = false
  readLimit : (duplex.half side).readLimit = none
  writeLimit : (duplex.half side).writeLimit = none

-- What holds of a line after each event.
structure Settled (side : End) (history : List (Event × Outcome)) (hand : InHand)
    (duplex : Duplex) : Prop where
  link : hand.connection.link = .pipes duplex
  options (option : LineOption) :
    (hand.connection.line side).options.get option = chosen option history
  closed : (hand.connection.line side).closed = history.any (·.1.closes)
  idle (hclosed : (hand.connection.line side).closed = true) : hand.writing = none
  receive (hopen : (hand.connection.line side).closed = false) :
    (duplex.half side).readLimit = (hand.connection.line side).options.receiveTimeout
  send (hopen : (hand.connection.line side).closed = false)
      (hnone : (hand.connection.line side).options.sendTimeout = none) :
    (duplex.half side).writeLimit = none

namespace Settled

variable {c : Connection} {duplex after : Duplex} {side : End} {hand next : InHand}
  {history : List (Event × Outcome)} {event : Event} {outcome : Outcome}

theorem of_unused (h : Unused side c duplex) : Settled side [] ⟨c, none⟩ duplex where
  link := h.link
  options option := by
    rw [h.options]
    cases option <;> rfl
  closed := h.closed
  idle _ := rfl
  receive _ := by rw [h.readLimit, h.options]
  send _ _ := h.writeLimit

-- An event that neither sets nor closes.
theorem keep (h : Settled side history hand duplex)
    (hkeeps : Keeps side hand.connection duplex next.connection after)
    (hchosen : ∀ option, chosen option ((event, outcome) :: history) = chosen option history)
    (hcloses : event.closes = false)
    (hidle : (hand.connection.line side).closed = true → next.writing = none) :
    Settled side ((event, outcome) :: history) next after where
  link := hkeeps.link
  options option := by rw [hkeeps.line, h.options, hchosen]
  closed := by rw [hkeeps.line, h.closed, List.any_cons, hcloses, Bool.false_or]
  idle hclosed := hidle (by rwa [hkeeps.line] at hclosed)
  receive hopen := by
    rw [hkeeps.line] at hopen ⊢
    rw [hkeeps.readLimit, h.receive hopen]
  send hopen hnone := by
    rw [hkeeps.line] at hopen hnone
    rw [hkeeps.writeLimit hnone, h.send hopen hnone]

-- A set that goes well is told to the pipes.
theorem set (h : Settled side history hand duplex) {option : LineOption} {value : Option Duration}
    {c : Connection} (hset : hand.connection.setOption side option value = .ok c)
    (hsetting : event.setting = some (option, value)) (hcloses : event.closes = false) :
    ∃ after, Settled side ((event, .set (.ok ())) :: history) ⟨c, none⟩ after := by
  have hchosen (other : LineOption) :
      ((hand.connection.line side).options.set option value).get other =
        chosen other ((event, .set (.ok ())) :: history) := by
    rw [LineOptions.get_set, h.options]
    simp only [chosen, hsetting]
  simp only [setOption, h.link] at hset
  split at hset
  · cases hset
  · next hopen =>
      have hopen : (hand.connection.line side).closed = false := eq_false_of_ne_true hopen
      have hstays : history.any (·.1.closes) = false := h.closed.symm.trans hopen
      let line : Line := { hand.connection.line side with
        options := (hand.connection.line side).options.set option value }
      have hline (after : Duplex)
          (hread : (after.half side).readLimit = line.options.receiveTimeout)
          (hwrite : line.options.sendTimeout = none → (after.half side).writeLimit = none) :
          Settled side ((event, .set (.ok ())) :: history)
            ⟨setLine { hand.connection with link := .pipes after } side line, none⟩ after := by
        refine ⟨link_setLine .., ?_, ?_, fun _ => rfl, ?_, ?_⟩
        all_goals rw [line_setLine]
        · exact hchosen
        · rw [List.any_cons, hcloses, hstays]
          exact hopen
        · exact fun _ => hread
        · exact fun _ => hwrite
      cases hset
      cases option with
      | receiveTimeout =>
          exact ⟨_, hline _ (Duplex.readLimit_setReadLimit ..) fun hnone =>
            (Duplex.writeLimit_setReadLimit ..).trans (h.send hopen hnone)⟩
      | sendTimeout =>
          have hread := h.receive hopen
          exact ⟨_, hline _ ((Duplex.readLimit_setWriteLimit ..).trans hread) fun hnone =>
            (Duplex.writeLimit_setWriteLimit ..).trans hnone⟩

-- The line is open until it is closed for the first time.
theorem close (h : Settled side history hand duplex) :
    ∃ after, Settled side ((.call .close, .closed) :: history)
      ⟨hand.connection.close side, none⟩ after := by
  rw [Connection.close]
  split
  · next hclosed =>
      exact ⟨duplex, h.link, h.options, by rw [hclosed]; rfl, fun _ => rfl, h.receive, h.send⟩
  · rw [h.link]
    refine ⟨duplex.disconnect, link_setLine .., ?_, ?_, fun _ => rfl, ?_, ?_⟩
    all_goals rw [line_setLine]
    · exact h.options
    · rfl
    · exact fun hopen => Bool.noConfusion hopen
    · exact fun hopen => Bool.noConfusion hopen

theorem setTo (h : Settled side history hand duplex) {result : Except Fault Connection}
    {option : LineOption} {value : Option Duration}
    (hresult : result = hand.connection.setOption side option value)
    (hsetting : event.setting = some (option, value)) (hcloses : event.closes = false) :
    ∃ after, Settled side ((event, (hand.connection.setTo result).1) :: history)
      ⟨(hand.connection.setTo result).2, none⟩ after := by
  cases result with
  | error fault =>
      exact ⟨duplex,
        h.keep (.refl h.link) (chosen_failed event fault · history) hcloses fun _ => rfl⟩
  | ok next => exact h.set hresult.symm hsetting hcloses

-- What one event preserves.
theorem step (h : Settled side history hand duplex)
    (hstep : hand.step side event = some (outcome, next)) :
    ∃ after, Settled side ((event, outcome) :: history) next after := by
  cases event with
  | call request =>
      obtain ⟨-, hcall, rfl, rfl⟩ := InHand.step_call hstep
      cases request with
      | read room =>
          obtain ⟨after, hkeeps⟩ := keeps_read h.link side room
          exact ⟨after, h.keep hkeeps (fun _ => rfl) rfl fun _ => rfl⟩
      | write data spent =>
          obtain ⟨after, hkeeps⟩ := keeps_write h.link side data spent
          exact ⟨after, h.keep hkeeps (fun _ => rfl) rfl fun _ => rfl⟩
      | attempt left sending => cases hcall
      | setOption option value => exact h.setTo rfl rfl rfl
      | setOptionRaw id millis =>
          rcases setOptionRaw_cases hand.connection side id millis with
            ⟨option, hid, hraw⟩ | ⟨-, hraw⟩
          · exact h.setTo hraw (by rw [Event.setting, hid]; rfl) rfl
          · simp only [Call.perform, hraw, Connection.setTo]
            exact ⟨duplex, h.keep (.refl h.link) (chosen_failed _ _ · history) rfl fun _ => rfl⟩
      | close => exact h.close
  | begin data =>
      rw [InHand.step] at hstep
      split at hstep
      · cases hstep
      · split at hstep
        · cases hstep
          exact ⟨duplex, h.keep (.refl h.link) (fun _ => rfl) rfl h.idle⟩
        · next sending hbegin =>
            cases hstep
            refine ⟨duplex, h.keep (.refl h.link) (fun _ => rfl) rfl fun hclosed => ?_⟩
            simp only [Connection.begin, hclosed, if_true] at hbegin
            split at hbegin <;> cases hbegin
  | attempt spent =>
      rw [InHand.step, Option.map_eq_some_iff] at hstep
      obtain ⟨sending, hwriting, hattempt⟩ := hstep
      cases hattempt
      obtain ⟨after, hkeeps⟩ :=
        keeps_attempt h.link side (fun _ hnone => left_of_none hnone spent) sending
      refine ⟨after, h.keep hkeeps (fun _ => rfl) rfl fun hclosed => ?_⟩
      cases hwriting.symm.trans (h.idle hclosed)
  | expire =>
      rw [InHand.step] at hstep
      split at hstep
      · obtain ⟨sending, hwriting, hprogress⟩ := Option.map_eq_some_iff.mp hstep
        cases hprogress
        refine ⟨duplex, h.keep (.refl h.link) (fun _ => rfl) rfl fun hclosed => ?_⟩
        cases hwriting.symm.trans (h.idle hclosed)
      · cases hstep
  | other request =>
      cases hstep
      obtain ⟨after, hkeeps⟩ := keeps_other h.link request
      exact ⟨after, h.keep hkeeps (fun _ => rfl) rfl h.idle⟩

-- What a whole run preserves.
theorem run {start : Connection} (hunused : Unused side start duplex)
    (hrun : Run side start history hand) : ∃ after, Settled side history hand after := by
  induction hrun with
  | start => exact ⟨duplex, .of_unused hunused⟩
  | step hrun hstep ih =>
      obtain ⟨before, hsettled⟩ := ih
      exact hsettled.step hstep

end Settled

-- How calls with valid arguments fail.
def Event.failure (fault : Fault) : Event → Option Outcome
  | .call (.read room) => if room = 0 then none else some (.read (some (.error fault)))
  | .call (.write data _) => if data.isEmpty then none else some (.wrote (some (.error fault)))
  | .begin data => if data.isEmpty then none else some (.wrote (some (.error fault)))
  | .call (.setOption ..) => some (.set (.error fault))
  | .call (.setOptionRaw id _) => if id = 1 ∨ id = 2 then some (.set (.error fault)) else none
  | _ => none

-- The options that a line shows, the limits of its end of the pipes and its being closed fit
-- together and fit what has happened.
structure Coherent (side : End) (history : List (Event × Outcome)) (hand : InHand) : Prop where
  options (option : LineOption) :
    (hand.connection.line side).options.get option = chosen option history
  closed : (hand.connection.line side).closed = history.any (·.1.closes)
  receive (hopen : (hand.connection.line side).closed = false) :
    hand.connection.link.readLimit side = (hand.connection.line side).options.receiveTimeout
  -- also where a write under a limit has left the rest of it
  send (hopen : (hand.connection.line side).closed = false)
      (hnone : (hand.connection.line side).options.sendTimeout = none) :
    hand.connection.link.writeLimit side = none
  -- a set on an open line goes well, and one that fails changes nothing at all
  sets (hopen : (hand.connection.line side).closed = false) (hidle : hand.writing = none)
      {event : Event} (hset : event.setting.isSome) :
    ∃ next, hand.step side event = some (.set (.ok ()), next)
  unset {event : Event} {fault : Fault} {next : InHand}
      (hfailed : hand.step side event = some (.set (.error fault), next)) : next = hand
  unknown (hidle : hand.writing = none) {id : Int} (hid : id ≠ 1 ∧ id ≠ 2) (millis : UInt64) :
    hand.step side (.call (.setOptionRaw id millis)) =
      some (.set (.error (Fault.unknownOption id)), hand)
  -- a closed line answers in one way, and closing it again is nothing to either end
  lost (hclosed : (hand.connection.line side).closed = true) {event : Event} {outcome : Outcome}
      (hfailure : event.failure Line.closedFault = some outcome) :
    hand.step side event = some (outcome, hand)
  lostCode : Line.closedFault.code = .connectionLost
  again (hclosed : (hand.connection.line side).closed = true) :
    hand.step side (.call .close) = some (.closed, hand)

section Coherent

variable {side : End} {hand next : InHand} {event : Event}

theorem setTo_error {c : Connection} {result : Except Fault Connection} {fault : Fault}
    (h : (c.setTo result).1 = .set (.error fault)) : (c.setTo result).2 = c := by
  cases result with
  | error _ => rfl
  | ok _ => cases h

theorem perform_unset {c : Connection} {request : Call} {fault : Fault}
    (h : (request.perform side c).1 = .set (.error fault)) : (request.perform side c).2 = c := by
  cases request with
  | setOption option value => exact setTo_error h
  | setOptionRaw id millis => exact setTo_error h
  | _ => cases h

-- Whoever sets an option in vain, nothing has changed.
theorem step_unset {fault : Fault}
    (h : hand.step side event = some (.set (.error fault), next)) : next = hand := by
  cases event with
  | call request =>
      obtain ⟨hidle, -, houtcome, rfl⟩ := InHand.step_call h
      rw [perform_unset houtcome.symm, ← hidle]
  | begin data =>
      rw [InHand.step] at h
      split at h
      · cases h
      · split at h <;> cases h
  | attempt spent =>
      rw [InHand.step, Option.map_eq_some_iff] at h
      obtain ⟨_, -, h⟩ := h
      cases h
  | expire =>
      rw [InHand.step] at h
      split at h
      · obtain ⟨_, -, h⟩ := Option.map_eq_some_iff.mp h
        cases h
      · cases h
  | other request =>
      obtain ⟨houtcome, rfl⟩ := Prod.mk.inj (Option.some.inj h)
      have hsame : (request.perform side.other hand.connection).2 = hand.connection :=
        perform_unset houtcome
      exact congrArg (InHand.mk · hand.writing) hsame

theorem step_idle (hidle : hand.writing = none) {request : Call}
    (hrequest : request.isAttempt = false) :
    hand.step side (.call request) = some ((request.perform side hand.connection).1,
      ⟨(request.perform side hand.connection).2, none⟩) := by
  rw [InHand.step, hrequest, hidle]
  rfl

theorem read_closed {c : Connection} (hclosed : (c.line side).closed = true) {room : Nat}
    (hroom : room ≠ 0) : c.read side room = (some (.error Line.closedFault), c) := by
  simp only [read, read?, hroom, hclosed, if_false, if_true]

theorem begin_closed {c : Connection} (hclosed : (c.line side).closed = true) {data : Bytes}
    (hdata : data.isEmpty = false) : c.begin side data = .error Line.closedFault := by
  simp only [begin, hdata, hclosed, Bool.false_eq_true, if_false, if_true]

theorem setOption_closed {c : Connection} (hclosed : (c.line side).closed = true)
    (option : LineOption) (value : Option Duration) :
    c.setOption side option value = .error Line.closedFault := by
  simp only [setOption, hclosed, if_true]

-- Every valid call on a closed line fails in the same way and changes nothing.
theorem step_closed (hclosed : (hand.connection.line side).closed = true)
    (hidle : hand.writing = none) {outcome : Outcome}
    (hfailure : event.failure Line.closedFault = some outcome) :
    hand.step side event = some (outcome, hand) := by
  have hset {result : Except Fault Connection} (hresult : result = .error Line.closedFault) :
      hand.connection.setTo result = (.set (.error Line.closedFault), hand.connection) := by
    rw [hresult, setTo]
  have hcall {request : Call} (hrequest : request.isAttempt = false)
      (hperform : request.perform side hand.connection = (outcome, hand.connection)) :
      hand.step side (.call request) = some (outcome, hand) := by
    rw [step_idle hidle hrequest, hperform, ← hidle]
  cases event with
  | call request =>
      cases request with
      | read room =>
          rw [Event.failure] at hfailure
          split at hfailure
          · cases hfailure
          · next hroom =>
              cases hfailure
              exact hcall rfl (by rw [Call.perform, read_closed hclosed hroom]; rfl)
      | write data spent =>
          rw [Event.failure] at hfailure
          split at hfailure
          · cases hfailure
          · next hdata =>
              cases hfailure
              have hbegin := begin_closed hclosed (eq_false_of_ne_true hdata)
              exact hcall rfl (by rw [Call.perform, write, hbegin]; rfl)
      | setOption option value =>
          cases hfailure
          exact hcall rfl (hset (setOption_closed hclosed option value))
      | setOptionRaw id millis =>
          rw [Event.failure] at hfailure
          split at hfailure
          · next hid =>
              cases hfailure
              refine hcall rfl (hset ?_)
              rcases setOptionRaw_cases hand.connection side id millis with
                ⟨option, -, hraw⟩ | ⟨hunknown, -⟩
              · exact hraw.trans (setOption_closed hclosed option _)
              · obtain rfl | rfl := hid <;> cases hunknown
          · cases hfailure
      | attempt | close => cases hfailure
  | begin data =>
      rw [Event.failure] at hfailure
      split at hfailure
      · cases hfailure
      · next hdata =>
          cases hfailure
          rw [InHand.step, begin_closed hclosed (eq_false_of_ne_true hdata), hidle]
          rfl
  | attempt | expire | other => cases hfailure

theorem step_set (hopen : (hand.connection.line side).closed = false) (hidle : hand.writing = none)
    (hset : event.setting.isSome) : ∃ next, hand.step side event = some (.set (.ok ()), next) := by
  have hcall {request : Call} (hrequest : request.isAttempt = false)
      {option : LineOption} {value : Option Duration}
      (hperform : request.perform side hand.connection =
        hand.connection.setTo (hand.connection.setOption side option value)) :
      ∃ next, hand.step side (.call request) = some (.set (.ok ()), next) := by
    rw [step_idle hidle hrequest, hperform]
    simp only [setOption, hopen, Bool.false_eq_true, if_false]
    exact ⟨_, rfl⟩
  cases event with
  | call request =>
      cases request with
      | setOption option value => exact hcall rfl rfl
      | setOptionRaw id millis =>
          rcases setOptionRaw_cases hand.connection side id millis with
            ⟨option, -, hraw⟩ | ⟨hunknown, -⟩
          · exact hcall rfl (by rw [Call.perform, hraw])
          · rw [Event.setting, hunknown] at hset
            cases hset
      | read | write | attempt | close => cases hset
  | begin | attempt | expire | other => cases hset

theorem step_unknown (hidle : hand.writing = none) {id : Int} (hid : id ≠ 1 ∧ id ≠ 2)
    (millis : UInt64) :
    hand.step side (.call (.setOptionRaw id millis)) =
      some (.set (.error (Fault.unknownOption id)), hand) := by
  have hraw : hand.connection.setOptionRaw side id millis = .error (Fault.unknownOption id) := by
    rw [setOptionRaw, LineOption.ofId, if_neg hid.1, if_neg hid.2]
    rfl
  rw [step_idle hidle rfl, Call.perform, hraw, setTo, ← hidle]

theorem step_again (hclosed : (hand.connection.line side).closed = true)
    (hidle : hand.writing = none) : hand.step side (.call .close) = some (.closed, hand) := by
  have hclose : hand.connection.close side = hand.connection := by
    rw [close]
    exact if_pos hclosed
  rw [step_idle hidle rfl, Call.perform, hclose, ← hidle]

-- However a line over pipes is used, and whatever happens at the other end, its options, its
-- limits and its being closed agree with each other and with what its holder was told.
theorem line_stays_coherent {start : Connection} {duplex : Duplex}
    {history : List (Event × Outcome)} (hunused : Unused side start duplex)
    (hrun : Run side start history hand) : Coherent side history hand := by
  obtain ⟨after, hsettled⟩ := Settled.run hunused hrun
  exact {
    options := hsettled.options
    closed := hsettled.closed
    receive := fun hopen => by rw [hsettled.link]; exact hsettled.receive hopen
    send := fun hopen hnone => by rw [hsettled.link]; exact hsettled.send hopen hnone
    sets := fun hopen hidle _ hset => step_set hopen hidle hset
    unset := step_unset
    unknown := fun hidle _ hid millis => step_unknown hidle hid millis
    lost := fun hclosed => step_closed hclosed (hsettled.idle hclosed)
    lostCode := rfl
    again := fun hclosed => step_again hclosed (hsettled.idle hclosed) }

theorem unused_pair {capacity : Nat} {duplex : Duplex} (hpair : Duplex.pair capacity = .ok duplex)
    (first second : Endpoint) (side : End) :
    Unused side ⟨.pipes duplex, { endpoint := first }, { endpoint := second }⟩ duplex := by
  unfold Duplex.pair at hpair
  split at hpair
  · cases hpair
    cases side <;> exact ⟨rfl, rfl, rfl, rfl, rfl⟩
  · cases hpair

-- A write under a limit of a second fills the pipe, waits, and gives up with half of the second
-- left as the limit of the pipes. To take the limit back takes that away too.
theorem line_coherent_past_short_write :
    let duplex : Duplex := ⟨{ incoming := { capacity := 4 } }, { incoming := { capacity := 4 } }⟩
    let line : Line := { endpoint := ⟨.inproc, "room"⟩ }
    let start : Connection := ⟨.pipes duplex, line, line⟩
    let history : List (Event × Outcome) :=
      [(.call .close, .closed),
        (.call (.setOption .sendTimeout (some .zero)), .set (.ok ())),
        (.expire, .attempted (some (.ended (.ok ⟨4, 5⟩)))),
        (.attempt 500000000, .attempted none),
        (.attempt 0, .attempted (some (.going ⟨[5], 4⟩))),
        (.begin [1, 2, 3, 4, 5], .wrote none),
        (.call (.setOption .sendTimeout (some ⟨1000000000, by decide⟩)), .set (.ok ()))]
    Unused .first start duplex ∧ ∃ hand, Run .first start history hand ∧
      Coherent .first history hand := by
  intro duplex line start history
  have hpair : Duplex.pair 4 = .ok duplex := rfl
  have hunused : Unused .first start duplex := unused_pair hpair _ _ _
  have hset : Run .first start (history.drop 6) _ := .step .start rfl
  have hbegin : Run .first start (history.drop 5) _ := hset.step rfl
  have htook : Run .first start (history.drop 4) _ := hbegin.step rfl
  have hwaits : Run .first start (history.drop 3) _ := htook.step rfl
  have hgivesUp : Run .first start (history.drop 2) _ := hwaits.step rfl
  have hunset : Run .first start (history.drop 1) _ := hgivesUp.step rfl
  have hclosed : Run .first start history _ := hunset.step rfl
  exact ⟨hunused, _, hclosed, line_stays_coherent hunused hclosed⟩

end Coherent

end Connection

end FramedLines
