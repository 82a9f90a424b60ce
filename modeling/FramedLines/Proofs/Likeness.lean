import FramedLines.Proofs.Carriage
import FramedLines.Proofs.Wording

-- Connections that look alike from an end, whatever carries their octets: reads there differ in
-- words at most, and so does everything that is made of reads.

namespace FramedLines

-- Why a line turns a write down before its link is asked, if so, with so many nanoseconds spent by
-- then.
def Line.refusal? (line : Line) (data : Bytes) (spent : Nat) : Option Fault :=
  if data.isEmpty then some (Fault.invalidArgument "write of an empty buffer")
  else if line.closed then some Line.closedFault
  else if (line.sendLimit.map (·.after spent)).any Duration.isZero then
    some (Fault.timeout.withContext "no bytes accepted before send timeout")
  else none

theorem Line.refusal?_eq_none_iff {line : Line} {data : Bytes} {spent : Nat} :
    line.refusal? data spent = none ↔ data ≠ [] ∧ line.closed = false ∧
      (line.sendLimit.map (·.after spent)).any Duration.isZero = false := by
  simp only [refusal?]
  cases data with
  | nil => simp
  | cons octet data => cases line.closed <;> simp

theorem Sending.advance_whole {data : Bytes} (hdata : data ≠ []) :
    Sending.advance ⟨data, 0⟩ (.took data.length) = .ended (.ok ⟨data.length, data.length⟩) := by
  have hlength : data.length ≠ 0 := Nat.ne_of_gt (List.length_pos_iff.mpr hdata)
  simp [advance_took hlength, outcome, hlength]

namespace Link

variable {side viewer : End} {left : Option Duration} {link : Link}

-- A link that has been told how long a writer at `side` waits, when that is limited.
def told (side : End) (left : Option Duration) (link : Link) : Link :=
  if left.isSome then link.setWriteLimit side left else link

theorem kin_told (side : End) (left : Option Duration) (link : Link) :
    link.Kin (link.told side left) := by
  cases left with
  | none => exact .refl link
  | some left => exact kin_setWriteLimit side (some left) link

@[simp] theorem octets_told : (link.told side left).octets viewer = link.octets viewer := by
  cases left with
  | none => rfl
  | some left => exact octets_setWriteLimit

@[simp] theorem readLimit_told :
    (link.told side left).readLimit viewer = link.readLimit viewer := by
  cases left with
  | none => rfl
  | some left => exact readLimit_setWriteLimit

theorem spares_told (side : End) (left : Option Duration) (link : Link) :
    link.Spares side (link.told side left) :=
  (kin_told side left link).spares octets_told readLimit_told

end Link

namespace Connection

variable {c one other : Connection} {side viewer : End} {gone : Bool} {rest : Bytes}

-- The connection with these octets under way to `side`.
def withOctets (side : End) (octets : Bytes) (c : Connection) : Connection :=
  { c with link := c.link.setOctets side octets }

@[simp] theorem line_withOctets : (c.withOctets side rest).line viewer = c.line viewer := by
  cases viewer <;> rfl

@[simp] theorem withOctets_octets (c : Connection) (side : End) :
    c.withOctets side (c.link.octets side) = c := by
  rw [withOctets, Link.setOctets_octets]

@[simp] theorem withOctets_withOctets (more : Bytes) :
    (c.withOctets side rest).withOctets side more = c.withOctets side more := by
  simp only [withOctets, Link.setOctets_setOctets]

-- The connection as a writer at `side` leaves it before the link is asked.
def told (side : End) (spent : Nat) (c : Connection) : Connection :=
  { c with link := c.link.told side (c.left side spent) }

@[simp] theorem line_told (spent : Nat) : (c.told side spent).line viewer = c.line viewer := by
  cases viewer <;> rfl

-- What `side` sees of a connection: its line and what it has to read.
structure Alike (side : End) (one other : Connection) : Prop where
  options : (one.line side).options = (other.line side).options
  closed : (one.line side).closed = (other.line side).closed
  octets : one.link.octets side = other.link.octets side
  readLimit : one.link.readLimit side = other.link.readLimit side

theorem Alike.withOctets (h : Alike side one other) (rest : Bytes) :
    Alike side (one.withOctets side rest) (other.withOctets side rest) := by
  constructor
  · simpa only [line_withOctets] using h.options
  · simpa only [line_withOctets] using h.closed
  · simp only [Connection.withOctets, Link.octets_setOctets]
  · simpa only [Connection.withOctets, Link.readLimit_setOctets] using h.readLimit

theorem clear_withOctets (h : c.link.Clear side gone) :
    (c.withOctets side rest).link.Clear side gone :=
  (Link.kin_setOctets side rest c.link).clear side gone h

-- A timeout is one for callers whatever it was to the link.
theorem code_timedOut (c : Connection) : c.timedOut.code = .timeout := by
  rw [timedOut]
  cases c.link <;> rfl

theorem read_of_clear (h : c.link.Clear side gone) (room : Nat) :
    c.read side room =
      if room = 0 then (some (.error (Fault.invalidArgument "read into an empty buffer")), c)
      else if (c.line side).closed then (some (.error Line.closedFault), c)
      else if c.link.octets side = [] then
        if gone then (some (.ok []), c)
        else if Duration.endsWait (c.link.readLimit side) then (some (.error c.timedOut), c)
        else (none, c)
      else (some (.ok ((c.link.octets side).take room)),
        c.withOctets side ((c.link.octets side).drop room)) := by
  by_cases hzero : room = 0
  · simp [read, read?, hzero]
  · cases hclosed : (c.line side).closed with
    | true => simp [read, read?, hzero, hclosed]
    | false =>
        simp only [read, read?, hzero, hclosed, Link.read?_of_clear h]
        by_cases hempty : c.link.octets side = []
        · cases gone <;> simp [hempty, mapError_ok]
        · simp [hempty, withOctets, mapError_ok]

-- Calls at `side` of two connections whose results have the same sense, and that leave the same
-- octets there and everything else as it was.
def Tally (side : End) (sense : α → κ) (one other : Connection)
    (mine yours : Option α × Connection) : Prop :=
  ∃ rest, mine.2 = one.withOctets side rest ∧ yours.2 = other.withOctets side rest ∧
    mine.1.map sense = yours.1.map sense

theorem Alike.idle (h : Alike side one other) {sense : α → κ} {mine yours : Option α}
    (hsame : mine.map sense = yours.map sense) :
    Tally side sense one other (mine, one) (yours, other) :=
  ⟨one.link.octets side, by simp, by rw [h.octets]; simp, hsame⟩

theorem Alike.read (h : Alike side one other) (hone : one.link.Clear side gone)
    (hother : other.link.Clear side gone) (room : Nat) :
    Tally side unworded one other (one.read side room) (other.read side room) := by
  rw [read_of_clear hone, read_of_clear hother, h.closed, h.octets, h.readLimit]
  split
  · exact h.idle rfl
  · split
    · exact h.idle rfl
    · split
      · split
        · exact h.idle rfl
        · split
          · apply h.idle
            simp [code_timedOut]
          · exact h.idle rfl
      · exact ⟨_, rfl, rfl, rfl⟩

-- A dialogue of reads that pays no heed to words.
theorem Alike.run (h : Alike side one other) (hone : one.link.Clear side gone)
    (hother : other.link.Clear side gone) {sense : α → κ} {d e : Dialogue α}
    (hmatches : d.Matches sense e) (spent : Nat) :
    Tally side sense one other (d.run (byteLine side spent) one)
      (e.run (byteLine side spent) other) := by
  induction hmatches generalizing one other with
  | done hsense => exact h.idle (congrArg some hsense)
  | @read room mine yours hnext ih =>
      obtain ⟨rest, hmine, hyours, hsame⟩ := h.read hone hother room
      rcases hreadone : one.read side room with ⟨answer?, next⟩
      rcases hreadother : other.read side room with ⟨another?, following⟩
      rw [hreadone] at hmine hsame
      rw [hreadother] at hyours hsame
      obtain rfl : next = one.withOctets side rest := hmine
      obtain rfl : following = other.withOctets side rest := hyours
      simp only [Dialogue.run, byteLine, hreadone, hreadother]
      cases answer? with
      | none =>
          cases another? with
          | none => exact ⟨rest, rfl, rfl, rfl⟩
          | some another => cases hsame
      | some answer =>
          cases another? with
          | none => cases hsame
          | some another =>
              obtain ⟨last, hmine, hyours, hsense⟩ := ih answer another (Option.some.inj hsame)
                (h.withOctets rest) (clear_withOctets hone) (clear_withOctets hother)
              rw [withOctets_withOctets] at hmine hyours
              exact ⟨last, hmine, hyours, hsense⟩

section Write

variable {data : Bytes} {spent : Nat}

theorem write_of_refusal {fault : Fault}
    (hrefusal : (c.line side).refusal? data spent = some fault) :
    c.write side data spent = (some (.error fault), c) := by
  cases data with
  | nil =>
      cases hrefusal
      rfl
  | cons octet data =>
      cases hclosed : (c.line side).closed with
      | true =>
          simp only [Line.refusal?, hclosed, List.isEmpty_cons] at hrefusal
          cases hrefusal
          simp [write, begin, hclosed]
      | false =>
          simp only [Line.refusal?, hclosed, List.isEmpty_cons, Bool.false_eq_true, if_false,
            Option.ite_none_right_eq_some, Option.some.injEq] at hrefusal
          obtain ⟨hlate, rfl⟩ := hrefusal
          simp only [write, begin, hclosed, finish, attempt, left, hlate, List.isEmpty_cons,
            List.length_cons]
          rfl

-- An attempt that is not late is what the link makes of it.
theorem attempt_of_time {left : Option Duration} (htime : left.any Duration.isZero = false)
    (sending : Sending) (c : Connection) :
    c.attempt side left sending =
      match (c.link.told side left).write? side sending.pending with
      | some (.ok count, link) => (some (sending.advance (.took count)), { c with link })
      | some (.error error, link) => (some (sending.advance (.failed error)), { c with link })
      | none => (none, { c with link := c.link.told side left }) := by
  simp only [attempt, htime]
  rfl

-- Between ends that are there, a write comes to its end in one go when everything fits.
theorem write_of_live (h : c.link.Live) (haccepts : (c.line side).refusal? data spent = none)
    (hholds : c.link.Holds side.other (c.link.octets side.other ++ data).length) :
    c.write side data spent = (some (.ok ⟨data.length, data.length⟩),
      (c.told side spent).withOctets side.other (c.link.octets side.other ++ data)) := by
  obtain ⟨hdata, hopen, hlate⟩ := Line.refusal?_eq_none_iff.mp haccepts
  have htime : (c.left side spent).any Duration.isZero = false := hlate
  have hkin := Link.kin_told side (c.left side spent) c.link
  have hfits : (c.link.told side (c.left side spent)).Holds side.other
      (c.link.octets side.other ++ data).length := by
    intro capacity hcapacity
    rw [hkin.capacity?] at hcapacity
    exact hholds capacity hcapacity
  have hwrite := Link.write?_of_live (hkin.live h) hdata (by rwa [Link.octets_told])
  have hbegin : c.begin side data = .ok ⟨data, 0⟩ := by simp [begin, hdata, hopen]
  have hattempt : c.attempt side (c.left side spent) ⟨data, 0⟩ =
      (some (.ended (.ok ⟨data.length, data.length⟩)),
        (c.told side spent).withOctets side.other (c.link.octets side.other ++ data)) := by
    rw [Link.octets_told] at hwrite
    rw [attempt_of_time htime, hwrite]
    simp only [Sending.advance_whole hdata]
    rfl
  simp only [write, hbegin, finish, hattempt]

-- A writer leaves its own reads undisturbed, whatever it meets.
theorem spares_attempt (side : End) (left : Option Duration) (sending : Sending) (c : Connection) :
    ∃ link, (c.attempt side left sending).2 = { c with link } ∧ c.link.Spares side link := by
  cases hlate : left.any Duration.isZero with
  | true =>
      refine ⟨c.link, ?_, .refl side c.link⟩
      rw [attempt, if_pos hlate]
  | false =>
      have htold := Link.spares_told side left c.link
      rw [attempt_of_time hlate]
      rcases hwrite : (c.link.told side left).write? side sending.pending with
        _ | ⟨error | count, link⟩
      · exact ⟨c.link.told side left, rfl, htold⟩
      · exact ⟨link, rfl, htold.trans (Link.spares_write? hwrite)⟩
      · exact ⟨link, rfl, htold.trans (Link.spares_write? hwrite)⟩

theorem spares_finish (side : End) (left : Option Duration) (fuel : Nat) (sending : Sending)
    (c : Connection) :
    ∃ link, (c.finish side left fuel sending).2 = { c with link } ∧ c.link.Spares side link := by
  induction fuel generalizing sending c with
  | zero => exact ⟨c.link, rfl, .refl side c.link⟩
  | succ fuel ih =>
      obtain ⟨link, hnext, hspares⟩ := spares_attempt side left sending c
      rcases hattempt : c.attempt side left sending with ⟨_ | sending | result, next⟩
      all_goals
        rw [hattempt] at hnext
        obtain rfl : next = { c with link } := hnext
        simp only [finish, hattempt]
      · refine ⟨link, ?_, hspares⟩
        split
        · split <;> rfl
        · rfl
      · obtain ⟨last, hlast, hmore⟩ := ih sending { c with link }
        exact ⟨last, hlast, hspares.trans hmore⟩
      · exact ⟨link, rfl, hspares⟩

theorem spares_write (side : End) (data : Bytes) (spent : Nat) (c : Connection) :
    ∃ link, (c.write side data spent).2 = { c with link } ∧ c.link.Spares side link := by
  unfold write
  cases c.begin side data with
  | error fault => exact ⟨c.link, rfl, .refl side c.link⟩
  | ok sending => exact spares_finish side _ _ sending c

end Write

end Connection

end FramedLines
