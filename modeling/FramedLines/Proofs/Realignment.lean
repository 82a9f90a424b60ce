import FramedLines.Proofs.Lines
import FramedLines.Proofs.Replay
import Mathlib.Data.List.Forall2

-- Draining: a message that is too big for the limits but not for the drain is read past whole,
-- and a reader hears that its line is aligned only when that has been done.

namespace FramedLines

namespace Fault

-- The word of a reader that got no message but is at the start of the next.
def SaysAligned (fault : Fault) : Prop :=
  fault.code = .bufferTooBig ∧ ∃ opening, fault.context = some (opening ++ "line aligned")

theorem SaysAligned.getLast? {fault : Fault} {front : String} (haligned : fault.SaysAligned)
    (last : String) (hcontext : fault.context = some (front ++ last)) (hne : last ≠ "") :
    last.toList.getLast? = some 'd' := by
  obtain ⟨-, opening, hopening⟩ := haligned
  rw [hcontext] at hopening
  injection hopening with hopening
  have hlast := congrArg (fun text : String => text.toList.getLast?) hopening
  simpa [String.toList_append, hne] using hlast

end Fault

-- A reader passes on what it hears from its line, but never adds such a word to it.
theorem Halt.eq_failed_of_saysAligned {halt : Halt} {got want : Nat}
    (haligned : (halt.fault got want).SaysAligned) : halt = .failed (halt.fault got want) := by
  cases halt with
  | ended =>
      obtain ⟨hcode, -⟩ := haligned
      cases hcode
  | failed own =>
      by_cases htime : own.isTimeout = true
      · simp only [fault, htime, if_true] at haligned
        have hcode : own.code = .timeout := by simpa [Fault.isTimeout] using htime
        have htooBig : own.code = .bufferTooBig := haligned.1
        rw [hcode] at htooBig
        cases htooBig
      · simp only [fault, htime]
        rfl

namespace Message

variable (limits : Limits)

theorem abandoned_saysAligned_iff {length : Nat} {aligned : Bool} :
    (abandoned limits length aligned).SaysAligned ↔ aligned = true := by
  cases aligned with
  | true =>
      refine iff_of_true ⟨rfl, s!"frame of {length} bytes exceeds max " ++
        s!"{limits.maxFrameLen.toNat}; message drained, ", ?_⟩ rfl
      simp only [abandoned, Fault.withContext, String.append_assoc, if_true]
      rfl
  | false =>
      refine iff_of_false (fun haligned => ?_) Bool.false_ne_true
      have hlast := haligned.getLast? "framing lost" rfl (by decide)
      exact absurd hlast (by decide)

-- Within the limits, or else frame for frame within the drain.
def Passable (message : Message) : Prop :=
  message.Writable ∧ message.length ≤ limits.maxFrames.toNat ∧
    ((∀ frame ∈ message.frames, frame.length ≤ limits.maxFrameLen.toNat) ∨
      ∀ frame ∈ message.frames, frame.length ≤ limits.drainOversizeUpTo.toNat)

instance (message : Message) : Decidable (Passable limits message) :=
  inferInstanceAs (Decidable (_ ∧ _))

-- What a read of such a message has to come to.
def Told (message : Message) (outcome : Option (Except Fault (Option Message))) : Prop :=
  ((∀ frame ∈ message.frames, frame.length ≤ limits.maxFrameLen.toNat) →
    outcome = some (.ok (some message))) ∧
  ((∃ frame ∈ message.frames, limits.maxFrameLen.toNat < frame.length) →
    ∃ fault, outcome = some (.error fault) ∧ fault.SaysAligned)

variable {limits}

-- The first frame that is too long decides. What is in front of it is read and kept, what is
-- behind it is read past.
theorem feed_receive_drained {front others : List Bytes} {body : Bytes}
    (hw : Writable ⟨front ++ body :: others⟩)
    (hcount : length ⟨front ++ body :: others⟩ ≤ limits.maxFrames.toNat)
    (hfront : ∀ head ∈ front, head.length ≤ limits.maxFrameLen.toNat)
    (hover : limits.maxFrameLen.toNat < body.length)
    (hdrained : ∀ frame ∈ body :: others, limits.drains frame.length)
    (rest : Bytes) (halt : Halt) (later : Supply) :
    Supply.feed (⟨wire ⟨front ++ body :: others⟩ ++ rest, halt⟩ :: later) (receive limits) =
      (some (.error (abandoned limits body.length true)), ⟨rest, halt⟩ :: later) := by
  obtain ⟨hfits, hfrontFits, hbody, hothersFits⟩ := writable_split.mp hw
  rw [length, List.length_append, List.length_cons] at hcount
  have hkept : ∀ head ∈ front, Wire.fits head.length ∧ head.length ≤ limits.maxFrameLen.toNat :=
    fun head hhead => ⟨hfrontFits head hhead, hfront head hhead⟩
  have hskipped : ∀ head ∈ others, Wire.fits head.length ∧ limits.drains head.length :=
    fun head hhead => ⟨hothersFits head hhead, hdrained head (List.mem_cons_of_mem body hhead)⟩
  have habandon := feed_abandon_of_drains (hdrained body List.mem_cons_self)
    (feed_discard halt later body (others.flatMap Wire.frame ++ rest))
    (feed_skipFrames_all limits halt later hskipped rest)
  rw [wire_split]
  exact feed_receive_oversize limits halt later hfits hcount hkept hbody hover habandon

variable (limits) in
-- What a read of a message comes to that is taken off the line whole.
def verdict (message : Message) : Except Fault (Option Message) :=
  match message.frames.find? fun frame => limits.maxFrameLen.toNat < frame.length with
  | none => .ok (some message)
  | some body => .error (abandoned limits body.length true)

variable (limits) in
theorem told_verdict (message : Message) : Told limits message (some (verdict limits message)) := by
  rw [verdict]
  cases hfind : message.frames.find? fun frame => limits.maxFrameLen.toNat < frame.length with
  | none =>
      have hkept : ∀ frame ∈ message.frames, frame.length ≤ limits.maxFrameLen.toNat := by
        simpa using hfind
      refine ⟨fun _ => rfl, ?_⟩
      rintro ⟨frame, hframe, hover⟩
      exact absurd (hkept frame hframe) (Nat.not_le.mpr hover)
  | some body =>
      have hbody := List.mem_of_find?_eq_some hfind
      have hover := List.find?_some hfind
      simp only [decide_eq_true_eq] at hover
      exact ⟨fun hall => absurd (hall body hbody) (Nat.not_le.mpr hover),
        fun _ => ⟨_, rfl, (abandoned_saysAligned_iff limits).mpr rfl⟩⟩

-- A message that fits the drain is taken off the line whole, kept or not.
theorem feed_receive_passable {message : Message} (hpassable : Passable limits message)
    (rest : Bytes) (halt : Halt) (later : Supply) :
    Supply.feed (⟨message.wire ++ rest, halt⟩ :: later) (receive limits) =
      (some (verdict limits message), ⟨rest, halt⟩ :: later) := by
  obtain ⟨hw, hcount, hframes⟩ := hpassable
  rw [verdict]
  cases hfind : message.frames.find? fun frame => limits.maxFrameLen.toNat < frame.length with
  | none =>
      have hkept : ∀ frame ∈ message.frames, frame.length ≤ limits.maxFrameLen.toNat := by
        simpa using hfind
      exact feed_receive_whole limits halt later hw ⟨hcount, hkept⟩ rest
  | some body =>
      obtain ⟨hover, front, others, hsplit, hfront⟩ := List.find?_eq_some_iff_append.mp hfind
      simp only [decide_eq_true_eq] at hover
      simp only [Bool.not_eq_true', decide_eq_false_iff_not, Nat.not_lt] at hfront
      have hbody : body ∈ message.frames := by simp [hsplit]
      have hnotAll : ¬∀ frame ∈ message.frames, frame.length ≤ limits.maxFrameLen.toNat :=
        fun hall => absurd (hall body hbody) (Nat.not_le.mpr hover)
      have hall := hframes.resolve_left hnotAll
      have hdrain : limits.drainOversizeUpTo ≠ 0 := by
        intro hzero
        have hempty := hall body hbody
        rw [hzero, UInt64.toNat_zero] at hempty
        omega
      have hdrained : ∀ frame ∈ body :: others, limits.drains frame.length := by
        intro frame hframe
        refine (drains_iff hdrain).mpr (hall frame ?_)
        rw [hsplit]
        exact List.mem_append_right front hframe
      obtain ⟨frames⟩ := message
      simp only at hsplit
      subst hsplit
      exact feed_receive_drained hw hcount hfront hover hdrained rest halt later

variable (limits)

-- The other way round: where the reader says so, the octets open with a message, and what is
-- left begins behind it.
theorem feed_receive_saysAligned (octets : Bytes) (halt : Halt) (later : Supply) :
    ∃ outcome left, Supply.feed (⟨octets, halt⟩ :: later) (receive limits) =
      (some outcome, left) ∧
      ∀ fault, outcome = .error fault → fault.SaysAligned → halt ≠ .failed fault →
        ∃ (message : Message) (rest : Bytes), message.Writable ∧ octets = message.wire ++ rest ∧
          left = ⟨rest, halt⟩ :: later := by
  have hquiet {p : Prop} {got want : Nat} {fault : Fault}
      (hfault : (.error (halt.fault got want) : Except Fault (Option Message)) = .error fault)
      (haligned : fault.SaysAligned) (hown : halt ≠ .failed fault) : p := by
    cases hfault
    exact absurd (Halt.eq_failed_of_saysAligned haligned) hown
  cases opening limits octets with
  | noCount hshort =>
      refine ⟨_, _, feed_receive_noCount limits halt later hshort,
        fun fault hfault haligned hown => ?_⟩
      by_cases hempty : octets.isEmpty = true
      · rw [hempty] at hfault
        cases halt with
        | ended => cases hfault
        | failed own =>
            cases hfault
            exact absurd rfl hown
      · rw [Bool.not_eq_true] at hempty
        rw [hempty] at hfault
        exact hquiet hfault haligned hown
  | @tooMany count rest hfits hcount =>
      refine ⟨_, _, feed_receive_tooMany limits halt later hfits hcount rest,
        fun fault hfault haligned _ => ?_⟩
      cases hfault
      have hlast := haligned.getLast? " frames" rfl (by decide)
      exact absurd hlast (by decide)
  | @whole message rest hw hadmits =>
      refine ⟨_, _, feed_receive_whole limits halt later hw hadmits rest, fun fault hfault => ?_⟩
      cases hfault
  | @blocked front remaining tail hfits hcount hfront htail =>
      cases htail with
      | noWord hshort =>
          exact ⟨_, _, feed_receive_front limits halt later hfits hcount hfront
            (feed_readFrames_noWord limits halt later hshort remaining _), fun _ => hquiet⟩
      | noFrame hlength hlimit hshort =>
          exact ⟨_, _, feed_receive_front limits halt later hfits hcount hfront
            (feed_readFrames_noFrame limits halt later hlength hlimit hshort remaining _),
            fun _ => hquiet⟩
      | @oversize length rest hlength hlimit =>
          rcases abandon_cases limits halt later length remaining rest with
            ⟨body, others, behind, rfl, rfl, rfl, hothers, habandon⟩ | ⟨behind, habandon⟩ |
            ⟨-, got, want, habandon⟩
          all_goals
            have hread := feed_receive_oversize limits halt later hfits hcount hfront hlength
              hlimit habandon
          · have hw : Writable ⟨front ++ body :: others⟩ := writable_split.mpr
              ⟨hfits, fun head hhead => (hfront head hhead).1, hlength, hothers⟩
            exact ⟨_, _, hread, fun _ _ _ _ =>
              ⟨_, behind, hw, (wire_split front others body behind).symm, rfl⟩⟩
          · refine ⟨_, _, hread, fun fault hfault haligned _ => ?_⟩
            cases hfault
            exact absurd ((abandoned_saysAligned_iff limits).mp haligned) Bool.false_ne_true
          · exact ⟨_, _, hread, fun _ => hquiet⟩

-- So many reads take so many messages off the line, whatever comes behind them.
theorem runTimes_passable {line : ByteLine σ} {messages : List Message}
    (hpassable : ∀ message ∈ messages, Passable limits message) {state : σ} {rest : Bytes}
    {halt : Halt} {later : Supply}
    (hcarries : line.Carries state (⟨messages.flatMap wire ++ rest, halt⟩ :: later)) :
    ∃ last, Dialogue.runTimes line (receive limits) messages.length state =
        (messages.map fun message => some (verdict limits message), last) ∧
      line.Carries last (⟨rest, halt⟩ :: later) := by
  induction messages generalizing state with
  | nil => exact ⟨state, rfl, hcarries⟩
  | cons message messages ih =>
      rw [List.flatMap_cons, List.append_assoc] at hcarries
      have hfeed := feed_receive_passable (hpassable message List.mem_cons_self)
        (messages.flatMap wire ++ rest) halt later
      obtain ⟨middle, hrun, hmiddle⟩ := hcarries.run (seamless_receive limits) hfeed
      obtain ⟨last, hruns, hlast⟩ :=
        ih (fun other hother => hpassable other (List.mem_cons_of_mem message hother)) hmiddle
      refine ⟨last, ?_, hlast⟩
      simp only [List.length_cons, Dialogue.runTimes, hrun, hruns, List.map_cons]

theorem forall₂_told (messages : List Message) :
    List.Forall₂ (Told limits) messages
      (messages.map fun message => some (verdict limits message)) := by
  rw [List.forall₂_map_right_iff, List.forall₂_same]
  exact fun message _ => told_verdict limits message

-- On any line at all, a reader that claims to be aligned has taken one whole message and nothing
-- else, unless it only repeats what it heard from the line.
theorem taken_of_saysAligned {line : ByteLine σ} (hline : line.Bounded) {state next : σ}
    {fault : Fault} (hrun : (receive limits).run line state = (some (.error fault), next))
    (haligned : fault.SaysAligned) (hown : .error fault ∉ (receive limits).answers line state) :
    ∃ message : Message, message.Writable ∧
      (receive limits).taken line state = message.wire := by
  obtain ⟨pieces, halt?, -, hanswers, hscript⟩ := receive_replay limits hline hrun
  obtain ⟨later, hsupply⟩ := Script.exists_supply_replayed pieces halt?
  have hhalt : halt?.getD .ended ≠ .failed fault := by
    cases halt? with
    | none => simp
    | some halt =>
        rintro ⟨⟩
        exact hown (by simp [hanswers, Halt.answer])
  obtain ⟨outcome, behind, hfeed, hall⟩ :=
    feed_receive_saysAligned limits pieces.flatten (halt?.getD .ended) later
  rw [← hsupply] at hfeed
  obtain ⟨last, hrun', hlast⟩ :=
    seamless_receive limits hfeed Script.line_faithful (Script.holds_supply (by simp))
  rw [hscript] at hrun'
  cases hrun'
  obtain ⟨message, rest, hw, htaken, rfl⟩ := hall fault rfl haligned hhalt
  obtain ⟨rfl, -⟩ := hlast.of_spent
  exact ⟨message, hw, by rw [Dialogue.taken_eq_flatten _ hanswers, htaken, List.append_nil]⟩

-- The line of a connection has no such words of its own.
theorem taken_of_saysAligned_connection {side : End} {spent : Nat} {c next : Connection}
    {fault : Fault}
    (hrun : (receive limits).run (Connection.byteLine side spent) c = (some (.error fault), next))
    (haligned : fault.SaysAligned) :
    ∃ message : Message, message.Writable ∧
      (receive limits).taken (Connection.byteLine side spent) c = message.wire := by
  refine taken_of_saysAligned limits (Connection.byteLine_bounded side spent) hrun haligned
    fun hown => ?_
  obtain ⟨room, before, after, hread⟩ := Dialogue.exists_read_of_mem_answers hown
  rcases Connection.read_cases hread with ⟨octets, link, hfault, -⟩ | ⟨own, hfault, hcode, -⟩
  · cases hfault
  · cases hfault
    exact hcode haligned.1

-- Messages that are too big leave no trace among those that are not: with a drain, every message
-- has a read of its own. And who is told that the line is aligned can rely on it.
theorem draining_realigns {σ : Type} (line : ByteLine σ) :
    (limits.drainOversizeUpTo ≠ 0 → ∀ (state : σ) (messages : List Message) (later : Supply),
      (∀ message ∈ messages, Passable limits message) →
      line.Carries state (⟨messages.flatMap wire, .ended⟩ :: later) →
      ∃ outcomes last,
        Dialogue.runTimes line (receive limits) (messages.length + 1) state =
          (outcomes ++ [some (.ok none)], last) ∧
        List.Forall₂ (Told limits) messages outcomes) ∧
    (line.Bounded → ∀ (state next : σ) (fault : Fault),
      (receive limits).run line state = (some (.error fault), next) → fault.SaysAligned →
      .error fault ∉ (receive limits).answers line state →
      ∃ message : Message, message.Writable ∧
        (receive limits).taken line state = message.wire) := by
  refine ⟨fun _ state messages later hpassable hcarries => ?_,
    fun hline _ _ _ hrun haligned hown => taken_of_saysAligned limits hline hrun haligned hown⟩
  rw [← List.append_nil (messages.flatMap wire)] at hcarries
  obtain ⟨middle, hruns, hmiddle⟩ := runTimes_passable limits hpassable hcarries
  obtain ⟨last, hend, -⟩ := hmiddle.run (seamless_receive limits)
    (feed_receive_noCount limits .ended later (show ([] : Bytes).length < Wire.wordLen by decide))
  refine ⟨_, last, ?_, forall₂_told limits messages⟩
  rw [Dialogue.runTimes_add, hruns]
  simp only [Dialogue.runTimes, hend]
  rfl

-- Three messages come in pieces of at most five octets. The second has a frame of three octets,
-- which is more than may be kept, between two that may.
theorem draining_realigns_three_messages :
    let limits : Limits := { maxFrames := 3, maxFrameLen := 1, drainOversizeUpTo := 4 }
    let messages : List Message := [⟨[[1], []]⟩, ⟨[[2], [3, 4, 5], [6]]⟩, ⟨[]⟩]
    let script : Script := { events := [.data (messages.flatMap wire)], chunk := some 5 }
    let skewed : Script := { events := [.data ((messages.drop 1).flatMap wire)], chunk := some 5 }
    (∃ outcomes last,
      Dialogue.runTimes Script.line (receive limits) 4 script =
        (outcomes ++ [some (.ok none)], last) ∧
      List.Forall₂ (Told limits) messages outcomes) ∧
    ∃ message : Message, message.Writable ∧
      (receive limits).taken Script.line skewed = message.wire := by
  intro limits messages script skewed
  obtain ⟨hforward, hback⟩ := draining_realigns limits Script.line
  refine ⟨hforward (by decide) script messages [] (by decide) (Script.carries (by decide) 0), ?_⟩
  have hrun : (receive limits).run Script.line skewed =
      (some (.error (abandoned limits 3 true)), ((receive limits).run Script.line skewed).2) :=
    Prod.ext (by decide +kernel) rfl
  exact hback Script.line_bounded skewed _ _ hrun ((abandoned_saysAligned_iff limits).mpr rfl)
    (by decide +kernel)

end Message

end FramedLines
