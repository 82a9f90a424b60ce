import FramedLines.Dialogue.Calls
import FramedLines.Proofs.Dispatch
import FramedLines.Proofs.Likeness

-- What holders of lines do and what it comes to, without words: on connections that look alike
-- from an end the same things are done there, and when the other end has gone in peace, the rest
-- can be read.

namespace FramedLines

namespace Connection

-- What the holder of a line does with it. A message goes out or comes in under limits of its own,
-- and whatever goes out does so with some nanoseconds spent before it gets to the link.
inductive Act where
  | read (room : Nat)
  | write (data : Bytes) (spent : Nat)
  | writeAll (data : Bytes) (spent : Nat)
  | setOption (option : LineOption) (value : Option Duration)
  | setOptionRaw (id : Int) (millis : UInt64)
  | send (limits : Limits) (message : Message) (spent : Nat)
  | receive (limits : Limits)
  | close
deriving DecidableEq

-- What an act comes to, without words. A call without an answer has not returned.
inductive Report where
  | octets (answer? : Option (Except Code Bytes))
  | written (answer? : Option (Except Code WriteOutcome))
  | done (answer? : Option (Except Code Unit))
  | message (answer? : Option (Except Code (Option Message)))
  | closed
deriving DecidableEq

-- Acts that put octets under way.
def Act.writes : Act → Bool
  | write .. | writeAll .. | send .. => true
  | _ => false

def report (form : Option (Except Code α) → Report) (call : Option (Except Fault α) × Connection) :
    Report × Connection :=
  (form (call.1.map unworded), call.2)

def reportSet (c : Connection) : Except Fault Connection → Report × Connection
  | .ok next => (.done (some (.ok ())), next)
  | .error fault => (.done (some (.error fault.code)), c)

def Act.perform (side : End) (c : Connection) : Act → Report × Connection
  | read room => report .octets (c.read side room)
  | write data spent => report .written (c.write side data spent)
  | writeAll data spent => report .done ((Dialogue.writeAll data).run (byteLine side spent) c)
  | setOption option value => c.reportSet (c.setOption side option value)
  | setOptionRaw id millis => c.reportSet (c.setOptionRaw side id millis)
  | send limits message spent => report .done ((message.send limits).run (byteLine side spent) c)
  | receive limits => report .message ((Message.receive limits).run (byteLine side 0) c)
  | close => (.closed, c.close side)

-- What acts at either end come to, one after another.
def reports : List (End × Act) → Connection → List Report
  | [], _ => []
  | (side, act) :: acts, c =>
      let (report, next) := act.perform side c
      report :: reports acts next

-- How they leave the connection.
def after (acts : List (End × Act)) (c : Connection) : Connection :=
  acts.foldl (fun c (side, act) => (act.perform side c).2) c

-- What acts at one end come to, apart from those that put octets under way.
def readings (side : End) : List Act → Connection → List Report
  | [], _ => []
  | act :: acts, c =>
      let (report, next) := act.perform side c
      if act.writes then readings side acts next else report :: readings side acts next

-- What reads with so much room each get of these octets.
def drain : List Nat → Bytes → List Bytes
  | [], _ => []
  | room :: rooms, octets => octets.take room :: drain rooms (octets.drop room)

variable {c one other : Connection} {side viewer : End} {act : Act}

section Writes

-- A dialogue of one write makes of its answer what it likes.
theorem run_offer (data : Bytes) (result : Except Fault WriteOutcome → α) (side : End)
    (spent : Nat) (c : Connection) :
    (Dialogue.write data fun answer => .done (result answer)).run (byteLine side spent) c =
      Prod.map (Option.map result) id (c.write side data spent) := by
  simp only [Dialogue.run, byteLine]
  rcases c.write side data spent with ⟨_ | answer, next⟩ <;> rfl

-- What the answer to the one write is to a caller who wants everything out.
def writeAllResult : Except Fault WriteOutcome → Except Fault Unit
  | .error fault => .error fault
  | .ok outcome =>
      if outcome.isShort then
        .error (Fault.timeout.withContext s!"sent {outcome.written} of {outcome.requested} bytes")
      else .ok ()

theorem writeAll_eq (data : Bytes) :
    Dialogue.writeAll data = .write data fun answer => .done (writeAllResult answer) := by
  simp only [Dialogue.writeAll]
  congr 1
  funext answer
  cases answer with
  | error fault => rfl
  | ok outcome =>
      simp only [writeAllResult]
      split <;> rfl

-- What a writer is told depends on the answer to one write at most.
theorem Act.perform_of_writes (hwrites : act.writes = true) :
    (∃ report, ∀ side c, act.perform side c = (report, c)) ∨
    ∃ data spent tell, ∀ side c,
      act.perform side c = Prod.map tell id (c.write side data spent) := by
  cases act with
  | write data spent =>
      exact .inr ⟨data, spent, fun answer? => .written (answer?.map unworded), fun _ _ => rfl⟩
  | writeAll data spent =>
      refine .inr ⟨data, spent,
        fun answer? => .done ((answer?.map writeAllResult).map unworded), fun side c => ?_⟩
      simp only [perform, writeAll_eq, run_offer]
      rfl
  | send limits message spent =>
      rcases Message.send_cases limits message with ⟨fault, hfault, -⟩ | ⟨-, -, hsend⟩
      · refine .inl ⟨.done (some (.error fault.code)), fun side c => ?_⟩
        simp only [perform, hfault]
        rfl
      · refine .inr ⟨message.wire, spent,
          fun answer? => .done ((answer?.map Message.sendResult).map unworded), fun side c => ?_⟩
        simp only [perform, hsend, run_offer]
        rfl
  | read | setOption | setOptionRaw | receive | close => cases hwrites

end Writes

section Options

-- The connection with an option set for the calls to come at `side`.
def configured (side : End) (option : LineOption) (value : Option Duration) (c : Connection) :
    Connection :=
  let options := (c.line side).options.set option value
  { c with link := c.link.configured side option options }.setLine side
    { c.line side with options }

theorem line_configured (option : LineOption) (value : Option Duration) :
    (c.configured side option value).line viewer =
      if viewer = side then
        { c.line side with options := (c.line side).options.set option value }
      else c.line viewer := by
  cases side <;> cases viewer <;> rfl

@[simp] theorem link_configured (option : LineOption) (value : Option Duration) :
    (c.configured side option value).link =
      c.link.configured side option ((c.line side).options.set option value) :=
  link_setLine ..

theorem reportSet_setOption (side : End) (option : LineOption) (value : Option Duration)
    (c : Connection) :
    c.reportSet (c.setOption side option value) =
      if (c.line side).closed then (.done (some (.error .connectionLost)), c)
      else (.done (some (.ok ())), c.configured side option value) := by
  simp only [setOption]
  split
  · rfl
  · cases option <;> rfl

-- What is set by number is set by name, unless there is no such number.
theorem Act.perform_setOptionRaw (id : Int) (millis : UInt64) :
    (∃ report, ∀ side c, (setOptionRaw id millis).perform side c = (report, c)) ∨
    ∃ option value, ∀ side c,
      (setOptionRaw id millis).perform side c = (setOption option value).perform side c := by
  cases hoption : LineOption.ofId id with
  | error fault =>
      refine .inl ⟨.done (some (.error fault.code)), fun side c => ?_⟩
      simp only [perform, Connection.setOptionRaw, hoption]
      rfl
  | ok option =>
      refine .inr ⟨option, some (Duration.ofMillis millis), fun side c => ?_⟩
      simp only [perform, Connection.setOptionRaw, hoption]
      rfl

theorem Alike.configured (h : Alike viewer one other)
    (hoptions : (one.line side).options = (other.line side).options) (option : LineOption)
    (value : Option Duration) :
    Alike viewer (one.configured side option value) (other.configured side option value) := by
  constructor
  · simp only [line_configured]
    split
    · simp only [hoptions]
    · exact h.options
  · simp only [line_configured]
    split
    · next hsame =>
        subst hsame
        exact h.closed
    · exact h.closed
  · simpa only [link_configured, Link.octets_configured] using h.octets
  · simp only [link_configured, hoptions]
    exact Link.readLimit_configured_congr h.readLimit

end Options

-- What acts at `side` do that put nothing under way, to connections that look alike from there.
inductive Shift (side : End) (one other : Connection) :
    Report × Connection → Report × Connection → Prop where
  | idle (report : Report) : Shift side one other (report, one) (report, other)
  | took (report : Report) (rest : Bytes) :
      Shift side one other (report, one.withOctets side rest) (report, other.withOctets side rest)
  | set (report : Report) (option : LineOption) (value : Option Duration) :
      Shift side one other (report, one.configured side option value)
        (report, other.configured side option value)

theorem Shift.report_eq {mine yours : Report × Connection} (h : Shift side one other mine yours) :
    mine.1 = yours.1 := by
  cases h <;> rfl

theorem Tally.shift {mine yours : Option (Except Fault α) × Connection}
    (h : Tally side unworded one other mine yours) (form : Option (Except Code α) → Report) :
    Shift side one other (report form mine) (report form yours) := by
  obtain ⟨rest, hmine, hyours, hsame⟩ := h
  rw [report, report, hmine, hyours, hsame]
  exact .took _ rest

theorem Alike.shift {gone : Bool} (h : Alike side one other) (hone : one.link.Clear side gone)
    (hother : other.link.Clear side gone) (hact : act ≠ .close) (hwrites : act.writes = false) :
    Shift side one other (act.perform side one) (act.perform side other) := by
  have hset (option : LineOption) (value : Option Duration) :
      Shift side one other ((Act.setOption option value).perform side one)
        ((Act.setOption option value).perform side other) := by
    simp only [Act.perform, reportSet_setOption, h.closed]
    split
    · exact .idle _
    · exact .set _ option value
  cases act with
  | read room => exact (h.read hone hother room).shift _
  | receive limits => exact (h.run hone hother (Message.matches_receive limits) 0).shift _
  | setOption option value => exact hset option value
  | setOptionRaw id millis =>
      rcases Act.perform_setOptionRaw id millis with ⟨report, hperform⟩ | ⟨option, value, hperform⟩
      · rw [hperform, hperform]
        exact .idle report
      · rw [hperform, hperform]
        exact hset option value
  | close => exact absurd rfl hact
  | write | writeAll | send => cases hwrites

-- Connections that look alike from an end whose other end has gone in peace.
structure Bereft (side : End) (one other : Connection) : Prop where
  alike : Alike side one other
  mine : one.link.Clear side true
  yours : other.link.Clear side true

namespace Bereft

theorem relink (h : Bereft side one other) {mine yours : Link} (hmine : one.link.Spares side mine)
    (hyours : other.link.Spares side yours) :
    Bereft side { one with link := mine } { other with link := yours } := by
  refine ⟨?_, hmine.clear true h.mine, hyours.clear true h.yours⟩
  constructor
  · simpa only [line_link] using h.alike.options
  · simpa only [line_link] using h.alike.closed
  · rw [hmine.octets, hyours.octets]
    exact h.alike.octets
  · rw [hmine.readLimit, hyours.readLimit]
    exact h.alike.readLimit

theorem withOctets (h : Bereft side one other) (octets : Bytes) :
    Bereft side (one.withOctets side octets) (other.withOctets side octets) :=
  ⟨h.alike.withOctets octets, clear_withOctets h.mine, clear_withOctets h.yours⟩

theorem configured (h : Bereft side one other) (option : LineOption) (value : Option Duration) :
    Bereft side (one.configured side option value) (other.configured side option value) := by
  refine ⟨h.alike.configured h.alike.options option value, ?_, ?_⟩
  · rw [link_configured]
    exact (Link.kin_configured side option _ one.link).clear side true h.mine
  · rw [link_configured]
    exact (Link.kin_configured side option _ other.link).clear side true h.yours

-- What one act at that end preserves. Only writes tell.
theorem perform (h : Bereft side one other) (hact : act ≠ .close) :
    (act.writes = false → (act.perform side one).1 = (act.perform side other).1) ∧
      Bereft side (act.perform side one).2 (act.perform side other).2 := by
  cases hwrites : act.writes with
  | true =>
      refine ⟨nofun, ?_⟩
      rcases Act.perform_of_writes hwrites with ⟨report, hperform⟩ | ⟨data, spent, tell, hperform⟩
      · rw [hperform, hperform]
        exact h
      · obtain ⟨mine, hmine, hspares⟩ := spares_write side data spent one
        obtain ⟨yours, hyours, hspares'⟩ := spares_write side data spent other
        simp only [hperform, Prod.map_snd, id_eq, hmine, hyours]
        exact h.relink hspares hspares'
  | false =>
      have hshift := h.alike.shift h.mine h.yours hact hwrites
      refine ⟨fun _ => hshift.report_eq, ?_⟩
      generalize act.perform side one = mine at hshift
      generalize act.perform side other = yours at hshift
      cases hshift with
      | idle => exact h
      | took _ rest => exact h.withOctets rest
      | set _ option value => exact h.configured option value

-- What a run of acts there preserves.
theorem readings_eq (h : Bereft side one other) {acts : List Act}
    (hacts : ∀ act ∈ acts, act ≠ .close) :
    readings side acts one = readings side acts other := by
  induction acts generalizing one other with
  | nil => rfl
  | cons act acts ih =>
      obtain ⟨hsame, hbereft⟩ := h.perform (hacts act List.mem_cons_self)
      have hrest := ih hbereft fun act hmem => hacts act (List.mem_cons_of_mem _ hmem)
      simp only [readings, hrest]
      cases hwrites : act.writes with
      | true => rfl
      | false => simp only [hsame hwrites, Bool.false_eq_true, if_false]

end Bereft

theorem close_eq (hopen : (c.line side).closed = false) :
    c.close side = setLine { c with link := c.link.release side } side
      { c.line side with closed := true } := by
  rw [close, hopen]
  rfl

-- Reads take what is left piece by piece, and then meet the end again and again.
theorem reports_drain (hclear : c.link.Clear side true) (hopen : (c.line side).closed = false)
    {rooms : List Nat} (hrooms : ∀ room ∈ rooms, room ≠ 0) :
    reports (rooms.map fun room => (side, .read room)) c =
      (drain rooms (c.link.octets side)).map fun octets => .octets (some (.ok octets)) := by
  induction rooms generalizing c with
  | nil => rfl
  | cons room rooms ih =>
      have hroom : room ≠ 0 := hrooms room List.mem_cons_self
      have hread : c.read side room = (some (.ok ((c.link.octets side).take room)),
          c.withOctets side ((c.link.octets side).drop room)) := by
        rw [read_of_clear hclear, if_neg hroom, hopen]
        by_cases hempty : c.link.octets side = []
        · have hself : c.withOctets side [] = c := by
            rw [← hempty]
            exact withOctets_octets c side
          simp [hempty, hself]
        · simp [hempty]
      have hrest := ih (c := c.withOctets side ((c.link.octets side).drop room))
        (clear_withOctets hclear) (by rwa [line_withOctets])
        fun room hmem => hrooms room (List.mem_cons_of_mem _ hmem)
      simp only [List.map_cons, reports, Act.perform, hread, report, hrest, drain]
      simp only [Connection.withOctets, Link.octets_setOctets]
      rfl

end Connection

end FramedLines
