import FramedLines.Proofs.Dispatch
import FramedLines.Proofs.Keeping
import FramedLines.Proofs.Lines
import FramedLines.Proofs.Sendings

-- What messages ask of their line: every read is for some octets, for no more than are missing of
-- the section it is for and for no more than the limits have it ask for, and every write offers
-- some. So no line has cause to object.

namespace FramedLines

namespace Wire

-- All that has come of a message is its count and some of its frames, and `remaining` are to come.
inductive Underway (remaining : Nat) : Bytes → Prop where
  | intro {front : List Bytes} (hfits : fits (front.length + remaining))
      (hfront : ∀ head ∈ front, fits head.length) :
      Underway remaining (word (front.length + remaining) ++ front.flatMap frame)

theorem Underway.of_count {count : Nat} (hfits : fits count) : Underway count (word count) := by
  have hfits' : fits (([] : List Bytes).length + count) := by rwa [List.length_nil, Nat.zero_add]
  have h := Underway.intro hfits' (List.forall_mem_nil _)
  rwa [List.length_nil, Nat.zero_add, List.flatMap_nil, List.append_nil] at h

section Underway

variable {remaining : Nat} {before : Bytes}

theorem Underway.frame (h : Underway (remaining + 1) before) {body : Bytes}
    (hbody : fits body.length) : Underway remaining (before ++ Wire.frame body) := by
  cases h with
  | @intro front hfits hfront =>
      have hall : ∀ head ∈ front ++ [body], fits head.length :=
        List.forall_mem_append.mpr ⟨hfront, List.forall_mem_singleton.mpr hbody⟩
      have hcount : (front ++ [body]).length + remaining = front.length + (remaining + 1) := by
        rw [List.length_append, List.length_singleton, Nat.add_assoc, Nat.add_comm 1]
      have hnext := Underway.intro (hcount ▸ hfits) hall
      rwa [hcount, List.flatMap_append, List.flatMap_singleton, ← List.append_assoc] at hnext

theorem Underway.missing_word (h : Underway (remaining + 1) before) {got : Bytes}
    (hgot : got.length < wordLen) : missing (before ++ got) = wordLen - got.length := by
  cases h with
  | intro hfits hfront =>
      rw [List.append_assoc, missing_front hfits hfront, missingOfFrames_noWord hgot]

theorem Underway.missing_frame (h : Underway (remaining + 1) before) {length : Nat}
    (hlength : fits length) {got : Bytes} (hgot : got.length < length) :
    missing (before ++ word length ++ got) = length - got.length := by
  cases h with
  | intro hfits hfront =>
      rw [List.append_assoc, List.append_assoc, missing_front hfits hfront,
        missingOfFrames_noFrame hlength hgot]

end Underway

end Wire

-- One request to a line, and the answer unless it waits for ever.
inductive Exchange where
  | read (room : Nat) (answer? : Option (Except Fault Bytes))
  | write (data : Bytes) (answer? : Option (Except Fault WriteOutcome))
deriving DecidableEq

namespace Exchange

-- The octets that it brings.
def octets : Exchange → Bytes
  | read _ (some (.ok piece)) => piece
  | _ => []

def fault? : Exchange → Option Fault
  | read _ (some (.error fault)) | write _ (some (.error fault)) => some fault
  | _ => none

end Exchange

namespace Dialogue

-- What passes between a dialogue and a line.
def exchanges (line : ByteLine σ) : Dialogue α → σ → List Exchange
  | done _, _ => []
  | read room next, state =>
      match line.read room state with
      | (none, _) => [.read room none]
      | (some answer, state) => .read room (some answer) :: (next answer).exchanges line state
  | write data next, state =>
      match line.write data state with
      | (none, _) => [.write data none]
      | (some answer, state) => .write data (some answer) :: (next answer).exchanges line state

theorem exists_of_mem_exchanges {line : ByteLine σ} {d : Dialogue α} {state : σ}
    {exchange : Exchange} (hexchange : exchange ∈ d.exchanges line state) :
    ∃ before, (∃ room, exchange = .read room (line.read room before).1) ∨
      ∃ data, exchange = .write data (line.write data before).1 := by
  induction d generalizing state with
  | done result => cases hexchange
  | read room next ih =>
      rcases hread : line.read room state with ⟨_ | answer, after⟩
      all_goals
        simp only [exchanges, hread] at hexchange
        rcases List.mem_cons.mp hexchange with rfl | hexchange
        · exact ⟨state, .inl ⟨room, by rw [hread]⟩⟩
      · cases hexchange
      · exact ih answer hexchange
  | write data next ih =>
      rcases hwrite : line.write data state with ⟨_ | answer, after⟩
      all_goals
        simp only [exchanges, hwrite] at hexchange
        rcases List.mem_cons.mp hexchange with rfl | hexchange
        · exact ⟨state, .inr ⟨data, by rw [hwrite]⟩⟩
      · cases hexchange
      · exact ih answer hexchange

-- Whatever it is answered, a dialogue that goes on from these octets asks for none but fair
-- numbers of octets and offers none. Where it ends, `post` holds of its result and of what has
-- come by then.
def Asks (fair : Bytes → Nat → Prop) (post : α → Bytes → Prop) : Dialogue α → Bytes → Prop
  | done result, taken => post result taken
  | read room next, taken => fair taken room ∧
      (∀ fault, (next (.error fault)).Asks fair post taken) ∧
      ∀ piece : Bytes, piece.length ≤ room → (next (.ok piece)).Asks fair post (taken ++ piece)
  | write _ _, _ => False

section Asks

variable {fair : Bytes → Nat → Prop}

theorem Asks.bind {first : α → Bytes → Prop} {post : β → Bytes → Prop} {d : Dialogue α}
    {f : α → Dialogue β} {taken : Bytes} (hd : d.Asks fair first taken)
    (hf : ∀ result taken, first result taken → (f result).Asks fair post taken) :
    (d.bind f).Asks fair post taken := by
  induction d generalizing taken with
  | done result => exact hf result taken hd
  | read room next ih =>
      obtain ⟨hfair, hfault, hpiece⟩ := hd
      exact ⟨hfair, fun fault => ih _ (hfault fault), fun piece hroom => ih _ (hpiece piece hroom)⟩
  | write data next ih => exact hd.elim

theorem Asks.mono {first post : α → Bytes → Prop} {d : Dialogue α} {taken : Bytes}
    (hd : d.Asks fair first taken)
    (hpost : ∀ result taken, first result taken → post result taken) :
    d.Asks fair post taken := by
  induction d generalizing taken with
  | done result => exact hpost result taken hd
  | read room next ih =>
      obtain ⟨hfair, hfault, hpiece⟩ := hd
      exact ⟨hfair, fun fault => ih _ (hfault fault), fun piece hroom => ih _ (hpiece piece hroom)⟩
  | write data next ih => exact hd.elim

-- On a line that keeps to what it is asked for this is how every exchange is.
theorem Asks.of_exchanges {post : α → Bytes → Prop} {d : Dialogue α} {taken : Bytes}
    (h : d.Asks fair post taken) {line : ByteLine σ} (hline : line.Bounded) {state : σ}
    {earlier later : List Exchange} {exchange : Exchange}
    (hsplit : d.exchanges line state = earlier ++ exchange :: later) :
    ∃ room answer?, exchange = .read room answer? ∧
      fair (taken ++ earlier.flatMap Exchange.octets) room := by
  induction d generalizing taken state earlier with
  | done result => cases earlier <;> cases hsplit
  | write data next ih => exact h.elim
  | read room next ih =>
      obtain ⟨hfair, hfault, hpiece⟩ := h
      rcases hread : line.read room state with ⟨_ | answer, after⟩
      all_goals
        simp only [exchanges, hread] at hsplit
        rcases List.cons_eq_append_iff.mp hsplit with ⟨rfl, hhead⟩ | ⟨others, rfl, hothers⟩
      · cases hhead
        exact ⟨room, none, rfl, by rwa [List.flatMap_nil, List.append_nil]⟩
      · cases others <;> cases hothers
      · cases hhead
        exact ⟨room, some answer, rfl, by rwa [List.flatMap_nil, List.append_nil]⟩
      · rw [List.flatMap_cons, ← List.append_assoc]
        cases answer with
        | error fault =>
            have hnothing : (Exchange.read room (some (.error fault))).octets = [] := rfl
            rw [hnothing, List.append_nil]
            exact ih _ (hfault fault) hothers
        | ok piece => exact ih _ (hpiece piece (hline hread)) hothers

end Asks

end Dialogue

-- What a read for a message may ask for when so much of it has come.
structure Limits.Permits (limits : Limits) (taken : Bytes) (room : Nat) : Prop where
  some : 0 < room
  limited : room ≤ max (max Wire.wordLen limits.maxFrameLen.toNat) Message.drainChunk
  missing : room ≤ Wire.missing taken

namespace Message

-- The same of a reading that may stop short, with `post` of the values that it comes to.
def Asks (fair : Bytes → Nat → Prop) (post : α → Bytes → Prop) (x : Reading α) (taken : Bytes) :
    Prop :=
  Dialogue.Asks fair (fun outcome taken => ∀ value, outcome = .ok value → post value taken) x taken

section Rules

variable {fair : Bytes → Nat → Prop} {taken : Bytes}

theorem asks_pure {post : α → Bytes → Prop} {value : α} (h : post value taken) :
    Asks fair post (pure value) taken := by
  rintro _ ⟨⟩
  exact h

theorem asks_throw {post : α → Bytes → Prop} (stop : Stop) :
    Asks fair post (throw stop) taken := nofun

theorem asks_bind {first : α → Bytes → Prop} {post : β → Bytes → Prop} {x : Reading α}
    {f : α → Reading β} (hx : Asks fair first x taken)
    (hf : ∀ value taken, first value taken → Asks fair post (f value) taken) :
    Asks fair post (x >>= f) taken := by
  refine Dialogue.Asks.bind hx fun outcome taken hfirst => ?_
  cases outcome with
  | ok value => exact hf value taken (hfirst value rfl)
  | error stop => exact asks_throw stop

theorem asks_mono {first post : α → Bytes → Prop} {x : Reading α} (hx : Asks fair first x taken)
    (hpost : ∀ value taken, first value taken → post value taken) : Asks fair post x taken :=
  Dialogue.Asks.mono hx fun _ taken hfirst value hvalue => hpost value taken (hfirst value hvalue)

theorem asks_collect (untouched : Bool) (want missing : Nat) (done : Bytes)
    (hfair : ∀ got : Bytes, got.length < missing → fair (taken ++ got) (missing - got.length)) :
    Asks fair (fun octets after => ∃ got : Bytes, got.length = missing ∧
      octets = done.reverse ++ got ∧ after = taken ++ got)
      (collect untouched want missing done) taken := by
  induction missing using Nat.strongRecOn generalizing untouched done taken with
  | _ missing ih =>
      unfold collect
      by_cases hzero : missing = 0
      · rw [if_pos hzero]
        exact asks_pure ⟨[], hzero.symm, by rw [List.append_nil], by rw [List.append_nil]⟩
      · rw [if_neg hzero]
        refine ⟨?_, fun fault => ?_, fun piece hroom => ?_⟩
        · have hnow := hfair [] (Nat.pos_of_ne_zero hzero)
          rwa [List.append_nil] at hnow
        · simp only
          split <;> exact asks_throw _
        · cases piece with
          | nil =>
              simp only
              split <;> exact asks_throw _
          | cons octet piece =>
              rw [List.length_cons] at hroom
              have hlater (got : Bytes) (hgot : got.length < missing - (piece.length + 1)) :
                  fair (taken ++ octet :: piece ++ got)
                    (missing - (piece.length + 1) - got.length) := by
                have hlength : (octet :: piece ++ got).length = piece.length + 1 + got.length := by
                  rw [List.length_append, List.length_cons]
                have hgoes := hfair (octet :: piece ++ got) (by omega)
                rwa [hlength, ← Nat.sub_sub, ← List.append_assoc] at hgoes
              refine asks_mono (ih (missing - (piece.length + 1)) (by omega) false
                (piece.reverseAux (octet :: done)) hlater) ?_
              rintro _ _ ⟨got, hgot, rfl, rfl⟩
              refine ⟨octet :: piece ++ got, ?_, ?_, List.append_assoc _ _ _⟩
              · rw [List.length_append, List.length_cons]
                omega
              · rw [List.reverseAux_eq]
                simp

theorem asks_fill (untouched : Bool) {want : Nat}
    (hfair : ∀ got : Bytes, got.length < want → fair (taken ++ got) (want - got.length)) :
    Asks fair (fun octets after => octets.length = want ∧ after = taken ++ octets)
      (fill untouched want) taken := by
  refine asks_mono (asks_collect untouched want want [] hfair) ?_
  rintro _ _ ⟨got, hgot, rfl, rfl⟩
  exact ⟨hgot, rfl⟩

theorem asks_readWord (untouched : Bool)
    (hfair : ∀ got : Bytes, got.length < Wire.wordLen →
      fair (taken ++ got) (Wire.wordLen - got.length)) :
    Asks fair (fun value after => Wire.fits value ∧ after = taken ++ Wire.word value)
      (readWord untouched) taken := by
  refine asks_bind (asks_fill untouched hfair) ?_
  rintro octets _ ⟨hlength, rfl⟩
  exact asks_pure ⟨Wire.fits_toNat hlength, by rw [Wire.word_toNat hlength]⟩

-- Piece by piece, and for no more of them than are left.
theorem asks_discard (length : Nat)
    (hfair : ∀ (got : Bytes) (room : Nat), 0 < room → room ≤ drainChunk →
      got.length + room ≤ length → fair (taken ++ got) room) :
    Asks fair (fun _ after => ∃ octets : Bytes, octets.length = length ∧ after = taken ++ octets)
      (discard length) taken := by
  induction length using Nat.strongRecOn generalizing taken with
  | _ length ih =>
      unfold discard
      by_cases hzero : length = 0
      · rw [if_pos hzero]
        exact asks_pure ⟨[], hzero.symm, by rw [List.append_nil]⟩
      · rw [if_neg hzero]
        refine asks_bind (asks_fill false fun got hgot => ?_) ?_
        · exact hfair got _ (by omega) (by omega) (by omega)
        rintro octets _ ⟨hlength, rfl⟩
        have hchunk : 0 < drainChunk := by decide
        refine asks_mono (ih (length - drainChunk) (by omega)
          fun got room hsome hroom hgot => ?_) ?_
        · rw [List.append_assoc]
          refine hfair (octets ++ got) room hsome hroom ?_
          rw [List.length_append]
          omega
        · rintro _ _ ⟨others, hothers, rfl⟩
          refine ⟨octets ++ others, ?_, List.append_assoc _ _ _⟩
          rw [List.length_append]
          omega

end Rules

section Whole

variable (limits : Limits) {before : Bytes}

theorem permits_word {got : Bytes} (hgot : got.length < Wire.wordLen)
    (hmissing : Wire.missing before = Wire.wordLen - got.length) :
    limits.Permits before (Wire.wordLen - got.length) where
  some := by omega
  limited := by omega
  missing := by omega

theorem asks_word {remaining : Nat} (h : Wire.Underway (remaining + 1) before) :
    Asks limits.Permits (fun value after => Wire.fits value ∧ after = before ++ Wire.word value)
      (readWord false) before :=
  asks_readWord false fun _ hgot => permits_word limits hgot (h.missing_word hgot)

-- A frame that is read past, and is then there all the same.
theorem asks_discard_frame {remaining length : Nat} (h : Wire.Underway (remaining + 1) before)
    (hfits : Wire.fits length) :
    Asks limits.Permits (fun _ after => Wire.Underway remaining after) (discard length)
      (before ++ Wire.word length) := by
  refine asks_mono (asks_discard length fun got room hsome hroom hgot => ⟨hsome, by omega, ?_⟩) ?_
  · rw [h.missing_frame hfits (by omega)]
    omega
  · rintro _ _ ⟨octets, rfl, rfl⟩
    rw [List.append_assoc]
    exact h.frame hfits

theorem asks_skipFrames {count : Nat} (h : Wire.Underway count before) :
    Asks limits.Permits (fun _ _ => True) (skipFrames limits count) before := by
  induction count generalizing before with
  | zero => exact asks_pure trivial
  | succ count ih =>
      rw [skipFrames]
      refine asks_bind (asks_word limits h) ?_
      rintro length _ ⟨hfits, rfl⟩
      split
      · exact asks_bind (asks_discard_frame limits h hfits) fun _ _ hnext => ih hnext
      · exact asks_pure trivial

theorem asks_abandon {length remaining : Nat} (h : Wire.Underway (remaining + 1) before)
    (hfits : Wire.fits length) :
    Asks limits.Permits (fun _ _ => True) (abandon limits length remaining)
      (before ++ Wire.word length) := by
  rw [abandon]
  split
  · refine asks_bind (asks_discard_frame limits h hfits) fun _ _ hnext => ?_
    exact asks_bind (asks_skipFrames limits hnext) fun _ _ _ => asks_throw _
  · exact asks_throw _

theorem asks_frame {remaining length : Nat} (h : Wire.Underway (remaining + 1) before)
    (hfits : Wire.fits length) (hlimit : length ≤ limits.maxFrameLen.toNat) :
    Asks limits.Permits (fun _ after => Wire.Underway remaining after) (fill false length)
      (before ++ Wire.word length) := by
  refine asks_mono (asks_fill false fun got hgot => ⟨by omega, by omega, ?_⟩) ?_
  · rw [h.missing_frame hfits hgot]
  · rintro octets _ ⟨rfl, rfl⟩
    rw [List.append_assoc]
    exact h.frame hfits

theorem asks_readFrames {count : Nat} (h : Wire.Underway count before) (done : List Bytes) :
    Asks limits.Permits (fun _ _ => True) (readFrames limits count done) before := by
  induction count generalizing before done with
  | zero => exact asks_pure trivial
  | succ count ih =>
      rw [readFrames]
      refine asks_bind (asks_word limits h) ?_
      rintro length _ ⟨hfits, rfl⟩
      split
      · exact asks_abandon limits h hfits
      · next hlimit =>
          exact asks_bind (asks_frame limits h hfits (Nat.le_of_not_lt hlimit)) fun frame _ hnext =>
            ih hnext (frame :: done)

theorem asks_readMessage : Asks limits.Permits (fun _ _ => True) (readMessage limits) [] := by
  refine asks_bind (asks_readWord true fun got hgot =>
    permits_word limits hgot (Wire.missing_noCount hgot)) ?_
  rintro count _ ⟨hfits, rfl⟩
  split
  · exact asks_throw _
  · exact asks_readFrames limits (.of_count hfits) []

theorem asks_receive : (receive limits).Asks limits.Permits (fun _ _ => True) [] := by
  refine Dialogue.Asks.bind (asks_readMessage limits) fun outcome _ _ => ?_
  rcases outcome with (_ | fault) | message <;> trivial

theorem asks_receiveInto (held : Message) :
    (receiveInto limits held).Asks limits.Permits (fun _ _ => True) [] := by
  rw [receiveInto_eq]
  exact (asks_receive limits).bind fun _ _ _ => trivial

end Whole

theorem exchange_of_send {limits : Limits} {message : Message} {line : ByteLine σ} {state : σ}
    {exchange : Exchange} (hexchange : exchange ∈ (message.send limits).exchanges line state) :
    exchange = .write message.wire (line.write message.wire state).1 := by
  rcases send_cases limits message with ⟨fault, hsend, -⟩ | ⟨-, -, hsend⟩
  · rw [hsend] at hexchange
    cases hexchange
  · rw [hsend] at hexchange
    rcases hwrite : line.write message.wire state with ⟨_ | answer, after⟩
    all_goals
      simp only [Dialogue.exchanges, hwrite] at hexchange
      exact List.mem_singleton.mp hexchange

end Message

namespace Connection

theorem code_of_write {side : End} {data : Bytes} {spent : Nat} {c next : Connection}
    {fault : Fault} (hdata : data ≠ [])
    (hwrite : c.write side data spent = (some (.error fault), next)) :
    fault.code ≠ .invalidArgument := by
  cases hclosed : (c.line side).closed with
  | true =>
      have hbegin : c.begin side data = .error Line.closedFault := by simp [begin, hdata, hclosed]
      simp only [write, hbegin] at hwrite
      cases hwrite
      decide
  | false =>
      obtain ⟨attempts, accepted, progress, link, hruns, heq, -⟩ := write_runs hclosed hdata spent
      rw [heq] at hwrite
      cases progress with
      | going sending => cases hwrite
      | ended result =>
          cases hwrite
          obtain ⟨last, -, hends⟩ := Sending.ends_of_runs hdata hruns
          have herror := hends.of_error
          split at herror
          · next htime =>
              have hcode : fault.code = .timeout := by simpa [Fault.isTimeout] using htime
              rw [hcode]
              decide
          · cases herror with
            | nothing => decide
            | failed => exact (Fault.code_ofIo _).2

-- What a line objects to is that there is no room for octets, or that there are none.
theorem fault_of_read {side : End} {room : Nat} {c : Connection} {fault : Fault} (hroom : 0 < room)
    (hfault : (Exchange.read room (c.read side room).1).fault? = some fault) :
    fault.code ≠ .invalidArgument := by
  rcases hread : c.read side room with ⟨_ | answer, next⟩
  all_goals
    rw [hread] at hfault
  · cases hfault
  · rcases read_cases hread with ⟨octets, link, rfl, -⟩ | ⟨own, rfl, -, hcode⟩
    · cases hfault
    · cases hfault
      exact hcode (Nat.pos_iff_ne_zero.mp hroom)

theorem fault_of_write {side : End} {data : Bytes} {spent : Nat} {c : Connection} {fault : Fault}
    (hdata : data ≠ [])
    (hfault : (Exchange.write data (c.write side data spent).1).fault? = some fault) :
    fault.code ≠ .invalidArgument := by
  rcases hwrite : c.write side data spent with ⟨_ | answer, next⟩
  all_goals
    rw [hwrite] at hfault
  · cases hfault
  · cases answer with
    | error own =>
        cases hfault
        exact code_of_write hdata hwrite
    | ok outcome => cases hfault

end Connection

namespace Message

-- Reading a message asks for octets that there is room for, only for octets that its section has
-- yet to get, and never for many at once, whatever the peer has announced. Sending one offers
-- octets. So neither is ever told by a line of a connection that it has asked for nothing.
theorem line_is_never_misused (limits : Limits) :
    (∀ (held : Message) {σ : Type} {line : ByteLine σ}, line.Bounded → ∀ (state : σ)
      {earlier later : List Exchange} {exchange : Exchange},
      (receiveInto limits held).exchanges line state = earlier ++ exchange :: later →
      ∃ room answer?, exchange = .read room answer? ∧
        limits.Permits (earlier.flatMap Exchange.octets) room) ∧
    (∀ (message : Message) {σ : Type} (line : ByteLine σ) (state : σ),
      ∀ exchange ∈ (message.send limits).exchanges line state,
      ∃ data answer?, exchange = .write data answer? ∧ data ≠ []) ∧
    ∀ (side : End) (spent : Nat) (c : Connection),
      (∀ held : Message,
        ∀ exchange ∈ (receiveInto limits held).exchanges (Connection.byteLine side spent) c,
        ∀ fault ∈ exchange.fault?, fault.code ≠ .invalidArgument) ∧
      ∀ message : Message,
        ∀ exchange ∈ (message.send limits).exchanges (Connection.byteLine side spent) c,
        ∀ fault ∈ exchange.fault?, fault.code ≠ .invalidArgument := by
  refine ⟨fun held σ line hline state earlier later exchange hsplit => ?_,
    fun message σ line state exchange hexchange => ?_, fun side spent c =>
    ⟨fun held exchange hexchange fault hfault => ?_,
      fun message exchange hexchange fault hfault => ?_⟩⟩
  · obtain ⟨room, answer?, hread, hpermits⟩ :=
      (asks_receiveInto limits held).of_exchanges hline hsplit
    exact ⟨room, answer?, hread, hpermits⟩
  · exact ⟨_, _, exchange_of_send hexchange, wire_ne_nil message⟩
  · obtain ⟨earlier, later, hsplit⟩ := List.append_of_mem hexchange
    obtain ⟨room, answer?, rfl, hpermits⟩ :=
      (asks_receiveInto limits held).of_exchanges (Connection.byteLine_bounded side spent) hsplit
    obtain ⟨before, ⟨_, hread⟩ | ⟨_, hwrite⟩⟩ := Dialogue.exists_of_mem_exchanges hexchange
    · cases hread
      exact Connection.fault_of_read hpermits.some hfault
    · cases hwrite
  · rw [exchange_of_send hexchange] at hfault
    exact Connection.fault_of_write (wire_ne_nil message) hfault

-- A frame that is too long is read past with an empty one behind it, three octets at a time. Then
-- a message of no frames is sent, and a read is tried on a line that is closed.
theorem line_is_never_misused_draining :
    let limits : Limits := { maxFrameLen := 2, drainOversizeUpTo := 4 }
    let octets : Bytes := [2, 0, 0, 0, 4, 0, 0, 0, 7, 7, 7, 7, 0, 0, 0, 0]
    let script : Script := { events := [.data octets], chunk := some 3 }
    let line : Line := { endpoint := { scheme := .inproc, address := "a" }, closed := true }
    let c : Connection := ⟨.sockets { family := .tcp }, line, line⟩
    ((receiveInto limits empty).exchanges Script.line script =
        [.read 4 (some (.ok [2, 0, 0])), .read 1 (some (.ok [0])),
          .read 4 (some (.ok [4, 0, 0])), .read 1 (some (.ok [0])),
          .read 4 (some (.ok [7, 7, 7])), .read 1 (some (.ok [7])),
          .read 4 (some (.ok [0, 0, 0])), .read 1 (some (.ok [0]))] ∧
      limits.Permits (octets.take 11) 1) ∧
    (∃ exchange ∈ (empty.send limits).exchanges Script.line script,
      ∃ data answer?, exchange = .write data answer? ∧ data ≠ []) ∧
    ∃ exchange ∈ (receiveInto limits empty).exchanges (Connection.byteLine .first 0) c,
      ∃ fault ∈ exchange.fault?, fault.code ≠ .invalidArgument := by
  intro limits octets script line c
  have hexchanges : (receiveInto limits empty).exchanges Script.line script =
      [.read 4 (some (.ok [2, 0, 0])), .read 1 (some (.ok [0])),
        .read 4 (some (.ok [4, 0, 0])), .read 1 (some (.ok [0])),
        .read 4 (some (.ok [7, 7, 7]))] ++ .read 1 (some (.ok [7])) ::
        [.read 4 (some (.ok [0, 0, 0])), .read 1 (some (.ok [0]))] := by decide +kernel
  have hsent : Exchange.write [0, 0, 0, 0] (some (.ok ⟨4, 4⟩)) ∈
      (empty.send limits).exchanges Script.line script := by decide +kernel
  have hclosed : Exchange.read 4 (some (.error Line.closedFault)) ∈
      (receiveInto limits empty).exchanges (Connection.byteLine .first 0) c := by decide +kernel
  obtain ⟨hreads, hwrites, hconnection⟩ := line_is_never_misused limits
  refine ⟨⟨hexchanges, ?_⟩, ⟨_, hsent, hwrites empty Script.line script _ hsent⟩,
    _, hclosed, _, rfl, (hconnection .first 0 c).1 empty _ hclosed _ rfl⟩
  obtain ⟨room, answer?, hread, hpermits⟩ := hreads empty Script.line_bounded script hexchanges
  cases hread
  exact hpermits

end Message

end FramedLines
