import FramedLines.Proofs.Conservation

-- What is left of a connection once either end has let go of it: whoever still reads gets what was
-- under way and then the end of the stream, and nobody writes any more.

namespace FramedLines

namespace Duplex

variable {duplex before : Duplex} {side : End}

def Act.letsGo (act : Act) : Bool :=
  match act.op with
  | .disconnect | .drop => true
  | _ => false

-- How much a reader at this end has room for.
def Act.room? (side : End) (act : Act) : Option Nat :=
  match act.op with
  | .read room => if act.side = side then some room else none
  | _ => none

-- What readers are given of some octets one after another, each as much as it has room for.
def handOut : (rooms : List Nat) → (octets : Bytes) → List Bytes
  | [], _ => []
  | room :: rooms, octets => octets.take room :: handOut rooms (octets.drop room)

-- Both ends hold on to both pipes.
def Joined (duplex : Duplex) : Prop := ∀ side, (duplex.incoming side).connected = true

def Severed (duplex : Duplex) : Prop := ∀ side, (duplex.incoming side).connected = false

theorem read_severed (h : (duplex.incoming side).connected = false) (room : Nat) :
    duplex.read side room = (some (.ok ((duplex.incoming side).buffer.take room)),
      duplex.setIncoming side
        { duplex.incoming side with buffer := (duplex.incoming side).buffer.drop room }) := by
  by_cases hempty : (duplex.incoming side).buffer = []
  · have hread : (duplex.incoming side).read? room = some ([], duplex.incoming side) := by
      simp [Pipe.read?, hempty, h]
    have hself : { duplex.incoming side with
        buffer := (duplex.incoming side).buffer.drop room } = duplex.incoming side := by
      rw [hempty, List.drop_nil, ← hempty]
    rw [hself, hempty, setIncoming_incoming]
    simp [read, read?, hread]
  · simp [read, read?, Pipe.read?, hempty]

theorem write_severed (h : (duplex.outgoing side).connected = false) {data : Bytes}
    (hdata : data ≠ []) :
    duplex.write side data = (some (.error (.bare .brokenPipe)), duplex) := by
  simp [write, write?, Pipe.write?, hdata, h]

theorem write_nil (duplex : Duplex) (side : End) :
    duplex.write side [] = (some (.ok 0), duplex) := by
  simp [write, write?, Pipe.write?]

theorem read_joined (h : (duplex.incoming side).connected = true) {room : Nat}
    (hroom : 0 < room) : (duplex.read side room).1 ≠ some (.ok []) := by
  have hzero : room ≠ 0 := Nat.ne_of_gt hroom
  by_cases hempty : (duplex.incoming side).buffer = []
  · cases hends : Duration.endsWait (duplex.half side).readLimit <;>
      simp [read, read?, Pipe.read?, hempty, h, overdue, hends]
  · simp [read, read?, Pipe.read?, hempty, hzero]

theorem connected_setIncoming_of_eq {pipe : Pipe} (viewer : End)
    (hpipe : pipe.connected = (duplex.incoming side).connected) :
    ((duplex.setIncoming side pipe).incoming viewer).connected =
      (duplex.incoming viewer).connected := by
  by_cases hside : side = viewer
  · subst hside
    rw [incoming_setIncoming, hpipe]
  · rw [setIncoming, incoming_setHalf, if_neg hside]

-- Nothing but letting go disconnects a pipe, and nothing connects it again.
theorem connected_perform (act : Act) (before : Duplex) (viewer : End) :
    ((act.perform before).2.incoming viewer).connected =
      ((before.incoming viewer).connected && !act.letsGo) := by
  obtain ⟨side, op⟩ := act
  cases op with
  | read room =>
      rcases read_cases before side room with ⟨octets, rest, -, hread⟩ | ⟨fault?, hread⟩
      · simp only [Act.perform, Act.letsGo, hread, Prod.map_snd, Bool.not_false, Bool.and_true]
        exact connected_setIncoming_of_eq viewer rfl
      · simp [Act.perform, Act.letsGo, hread]
  | write data =>
      rcases write_cases before side data with ⟨count, -, hwrite⟩ | ⟨fault?, hwrite⟩
      · simp only [Act.perform, Act.letsGo, hwrite, Prod.map_snd, Bool.not_false, Bool.and_true]
        exact connected_setIncoming_of_eq viewer rfl
      · simp [Act.perform, Act.letsGo, hwrite]
  | setReadLimit limit => simp [Act.perform, Act.letsGo]
  | setWriteLimit limit => simp [Act.perform, Act.letsGo]
  | disconnect => simp [Act.perform, Act.letsGo, Pipe.disconnect]
  | drop => simp [Act.perform, Act.letsGo, Pipe.disconnect]

theorem Joined.perform (h : before.Joined) {act : Act} (hact : act.letsGo = false) :
    (act.perform before).2.Joined := fun viewer => by
  rw [connected_perform, h viewer, hact]
  rfl

theorem Severed.perform (h : before.Severed) (act : Act) : (act.perform before).2.Severed :=
  fun viewer => by rw [connected_perform, h viewer, Bool.false_and]

theorem severed_of_letsGo {act : Act} (hact : act.letsGo = true) (before : Duplex) :
    (act.perform before).2.Severed := fun viewer => by
  rw [connected_perform, hact, Bool.not_true, Bool.and_false]

theorem buffer_of_letsGo {act : Act} (hact : act.letsGo = true) (before : Duplex) (viewer : End) :
    ((act.perform before).2.incoming viewer).buffer = (before.incoming viewer).buffer := by
  obtain ⟨side, op⟩ := act
  cases op with
  | disconnect => simp [Act.perform, Pipe.disconnect]
  | drop => simp [Act.perform, Pipe.disconnect]
  | _ => cases hact

-- While the pipes are connected, no reader with any room is told that the stream has ended.
theorem joined_reads (acts : List Act) (h : before.Joined)
    (hacts : ∀ act ∈ acts, act.letsGo = false) :
    ∀ step ∈ (performAll acts before).1, ∀ room, step.act.op = .read room → 0 < room →
      step.outcome ≠ .read (some (.ok [])) := by
  induction acts generalizing before with
  | nil => simp [performAll]
  | cons act acts ih =>
      rw [List.forall_mem_cons] at hacts
      rw [performAll, List.forall_mem_cons]
      refine ⟨fun room hop hroom houtcome => ?_, ih (h.perform hacts.1) hacts.2⟩
      obtain ⟨side, op⟩ := act
      obtain rfl : op = .read room := hop
      exact read_joined (h side) hroom (Outcome.read.inj houtcome)

-- What one act comes to when nobody holds on to the pipes.
structure Step.Orphaned (step : Step) : Prop where
  -- a write of anything fails and puts nothing in
  writes : ∀ data, step.act.op = .write data → data ≠ [] →
    step.outcome = .wrote (some (.error (.bare .brokenPipe))) ∧ step.after = step.before
  untimed : step.outcome.fault? ≠ some timedOut

theorem Severed.orphaned (h : before.Severed) (act : Act) :
    Step.Orphaned ⟨before, act, (act.perform before).1, (act.perform before).2⟩ := by
  obtain ⟨side, op⟩ := act
  cases op with
  | read room =>
      refine ⟨by simp, ?_⟩
      simp [Act.perform, read_severed (h side), Outcome.fault?]
  | write data =>
      by_cases hdata : data = []
      · subst hdata
        refine ⟨fun data hop hne => absurd (Op.write.inj hop).symm hne, ?_⟩
        simp [Act.perform, write_nil, Outcome.fault?]
      · have hwrite : before.write side data = _ := write_severed (h side.other) hdata
        refine ⟨fun other hop hne => ?_, ?_⟩
        · simp [Act.perform, hwrite]
        · simp [Act.perform, hwrite, Outcome.fault?, timedOut]
  | _ => exact ⟨by simp, by simp [Act.perform, Outcome.fault?]⟩

-- A reader is given the octets in front of it, and leaves the others to the next.
theorem Severed.answer_of_room (h : before.Severed) {act : Act} {room : Nat}
    (hroom : act.room? side = some room) :
    Step.answer? side ⟨before, act, (act.perform before).1, (act.perform before).2⟩ =
        some (some (.ok ((before.incoming side).buffer.take room))) ∧
      ((act.perform before).2.incoming side).buffer = (before.incoming side).buffer.drop room := by
  obtain ⟨actor, op⟩ := act
  cases op with
  | read size =>
      obtain ⟨rfl, rfl⟩ : actor = side ∧ size = room := by simpa [Act.room?] using hroom
      simp [Act.perform, Step.answer?, read_severed (h actor)]
  | _ => cases hroom

theorem Severed.answer_of_no_room (h : before.Severed) {act : Act}
    (hroom : act.room? side = none) :
    Step.answer? side ⟨before, act, (act.perform before).1, (act.perform before).2⟩ = none ∧
      ((act.perform before).2.incoming side).buffer = (before.incoming side).buffer := by
  obtain ⟨actor, op⟩ := act
  cases op with
  | read size =>
      have hactor : actor ≠ side := by simpa [Act.room?] using hroom
      simp [Act.perform, Step.answer?, read_severed (h actor), hactor, setIncoming,
        incoming_setHalf]
  | write data =>
      by_cases hdata : data = []
      · simp [Act.perform, Step.answer?, hdata, write_nil]
      · have hwrite : before.write actor data = _ := write_severed (h actor.other) hdata
        simp [Act.perform, Step.answer?, hwrite]
  | setReadLimit limit => simp [Act.perform, Step.answer?]
  | setWriteLimit limit => simp [Act.perform, Step.answer?]
  | disconnect => simp [Act.perform, Step.answer?, Pipe.disconnect]
  | drop => simp [Act.perform, Step.answer?, Pipe.disconnect]

theorem Severed.performAll_orphaned (h : before.Severed) (acts : List Act) :
    ∀ step ∈ (performAll acts before).1, step.Orphaned := by
  induction acts generalizing before with
  | nil => simp [performAll]
  | cons act acts ih =>
      rw [performAll, List.forall_mem_cons]
      exact ⟨h.orphaned act, ih (h.perform act)⟩

theorem Severed.answers (h : before.Severed) (acts : List Act) (side : End) :
    (performAll acts before).1.filterMap (Step.answer? side) =
      (handOut (acts.filterMap (Act.room? side)) (before.incoming side).buffer).map
        fun octets => some (.ok octets) := by
  induction acts generalizing before with
  | nil => rfl
  | cons act acts ih =>
      have hrest := ih (h.perform act)
      cases hroom : act.room? side with
      | none =>
          obtain ⟨hanswer, hbuffer⟩ := h.answer_of_no_room hroom
          rw [hbuffer] at hrest
          rw [performAll, List.filterMap_cons_none hanswer, List.filterMap_cons_none hroom]
          exact hrest
      | some room =>
          obtain ⟨hanswer, hbuffer⟩ := h.answer_of_room hroom
          rw [hbuffer] at hrest
          rw [performAll, List.filterMap_cons_some hanswer, List.filterMap_cons_some hroom,
            handOut, List.map_cons]
          exact congrArg _ hrest

-- What can still be done once an act has let go of the connection as it was `before`.
structure Parted (before : Duplex) (act : Act) (later : List Act) : Prop where
  orphaned : ∀ step ∈ (performAll later (act.perform before).2).1, step.Orphaned
  -- the octets under way come in order, as each reader has room for them, and then none
  reads : ∀ side, (performAll later (act.perform before).2).1.filterMap (Step.answer? side) =
    (handOut (later.filterMap (Act.room? side)) (before.incoming side).buffer).map
      fun octets => some (.ok octets)

theorem parting_is_final {capacity : Nat} {start : Duplex} (hstart : pair capacity = .ok start)
    (earlier : List Act) :
    ((∀ act ∈ earlier, act.letsGo = false) →
      ∀ step ∈ (performAll earlier start).1, ∀ room, step.act.op = .read room → 0 < room →
        step.outcome ≠ .read (some (.ok []))) ∧
    ∀ act : Act, act.letsGo = true → ∀ later,
      Parted (performAll earlier start).2 act later := by
  have hjoined : start.Joined := by
    unfold pair at hstart
    split at hstart
    · cases hstart
      exact fun side => by cases side <;> rfl
    · cases hstart
  refine ⟨joined_reads earlier hjoined, fun act hact later => ⟨?_, fun side => ?_⟩⟩
  · exact (severed_of_letsGo hact _).performAll_orphaned later
  · rw [(severed_of_letsGo hact _).answers later side, buffer_of_letsGo hact]

-- One end goes with an octet of its own unread and two of three under way. The other end drains
-- them and meets the end of the stream, and writes in vain.
theorem parting_is_final_half_read :
    let earlier : List Act := [⟨.first, .write [1, 2, 3]⟩, ⟨.second, .write [9]⟩,
      ⟨.second, .setReadLimit (some .zero)⟩, ⟨.second, .read 1⟩]
    let later : List Act := [⟨.second, .write [8]⟩, ⟨.second, .read 1⟩, ⟨.second, .read 5⟩,
      ⟨.second, .read 1⟩]
    ∃ start, pair 4 = .ok start ∧
      (∀ step ∈ (performAll earlier start).1, ∀ room, step.act.op = .read room → 0 < room →
        step.outcome ≠ .read (some (.ok []))) ∧
      Parted (performAll earlier start).2 ⟨.first, .drop⟩ later ∧
      (performAll later (Act.perform ⟨.first, .drop⟩ (performAll earlier start).2).2).1.filterMap
        (Step.answer? .second) = [some (.ok [2]), some (.ok [3]), some (.ok [])] := by
  intro earlier later
  have hstart : pair 4 = .ok _ := rfl
  obtain ⟨hreads, hparted⟩ := parting_is_final hstart earlier
  exact ⟨_, hstart, hreads (by decide), hparted ⟨.first, .drop⟩ rfl later, by rfl⟩

end Duplex

end FramedLines
