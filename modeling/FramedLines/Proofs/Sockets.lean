import FramedLines.Proofs.Calls

-- Connections over sockets. Bad news comes to an end of one only when the other end lets go.

namespace FramedLines

namespace SocketPair

variable {before middle after pair : SocketPair} {side : End} {half : SocketHalf}

@[simp] theorem half_setHalf (pair : SocketPair) (side : End) (half : SocketHalf) :
    (pair.setHalf side half).half side = half := by
  cases side <;> rfl

@[simp] theorem half_setHalf_other (pair : SocketPair) (side : End) (half : SocketHalf) :
    (pair.setHalf side half).half side.other = pair.half side.other := by
  cases side <;> rfl

@[simp] theorem setHalf_half (pair : SocketPair) (side : End) :
    pair.setHalf side (pair.half side) = pair := by
  cases side <;> rfl

-- An end whose other end is still there has heard nothing, and what it writes arrives.
def Sound (pair : SocketPair) : Prop :=
  ∀ side, (pair.half side.other).released = false →
    (pair.half side).severed = false ∧ (pair.half side).news = none

-- The same ends are there as before, and none has heard anything it had not to hear.
structure Keeps (before after : SocketPair) : Prop where
  released : ∀ side, (after.half side).released = (before.half side).released
  sound : before.Sound → after.Sound

theorem Keeps.refl (pair : SocketPair) : pair.Keeps pair := ⟨fun _ => rfl, id⟩

theorem Keeps.trans (h : before.Keeps middle) (hmore : middle.Keeps after) : before.Keeps after :=
  ⟨fun side => (hmore.released side).trans (h.released side), fun hsound =>
    hmore.sound (h.sound hsound)⟩

theorem keeps_setHalf (hreleased : half.released = (pair.half side).released)
    (hsound : (pair.half side.other).released = false → (pair.half side).severed = false →
      (pair.half side).news = none → half.severed = false ∧ half.news = none) :
    pair.Keeps (pair.setHalf side half) := by
  refine ⟨fun viewer => ?_, fun h viewer hviewer => ?_⟩
  · rcases End.eq_or_eq_other viewer side with rfl | rfl
    · rw [half_setHalf, hreleased]
    · rw [half_setHalf_other]
  · rcases End.eq_or_eq_other viewer side with rfl | rfl
    · rw [half_setHalf_other] at hviewer
      obtain ⟨hsevered, hnews⟩ := h viewer hviewer
      rw [half_setHalf]
      exact hsound hviewer hsevered hnews
    · rw [End.other_other, half_setHalf, hreleased] at hviewer
      rw [half_setHalf_other]
      exact h side.other (by rwa [End.other_other])

theorem keeps_of_same (hreleased : half.released = (pair.half side).released)
    (hsevered : half.severed = (pair.half side).severed)
    (hnews : half.news = (pair.half side).news) : pair.Keeps (pair.setHalf side half) :=
  keeps_setHalf hreleased fun _ hold hquiet => ⟨hsevered.trans hold, hnews.trans hquiet⟩

theorem keeps_read? {room : Nat} {result : Except IoError Bytes}
    (hread : before.read? side room = some (result, after)) : before.Keeps after := by
  unfold read? at hread
  simp only at hread
  split at hread
  · cases hread
    exact keeps_of_same rfl rfl rfl
  · split at hread
    · cases hread
      exact keeps_setHalf rfl fun _ hsevered _ => ⟨hsevered, rfl⟩
    · split at hread <;> cases hread
      exact .refl before

theorem keeps_write (side : End) (data : Bytes) (pair : SocketPair) :
    pair.Keeps (pair.write side data).2 := by
  unfold write
  simp only
  split
  · exact .refl pair
  · split
    · exact .refl pair
    · split
      · exact keeps_setHalf rfl fun _ hsevered _ => ⟨hsevered, rfl⟩
      · split
        -- what comes too late is only taken when the other end has let go
        · next hgone =>
            refine keeps_setHalf rfl fun hthere _ _ => ?_
            rw [hgone] at hthere
            cases hthere
        · exact keeps_of_same rfl rfl rfl

@[simp] theorem released_release (pair : SocketPair) (side : End) :
    ((pair.release side).half side).released = true := by
  cases side <;> rfl

@[simp] theorem released_release_other (pair : SocketPair) (side : End) :
    ((pair.release side).half side.other).released = (pair.half side.other).released := by
  simp only [release, half_setHalf]
  split <;> rfl

@[simp] theorem released_refuse (pair : SocketPair) (side : End) :
    ((pair.refuse side).half side).released = true := by
  cases side <;> rfl

@[simp] theorem released_refuse_other (pair : SocketPair) (side : End) :
    ((pair.refuse side).half side.other).released = (pair.half side.other).released := by
  cases side <;> rfl

-- Who lets go has heard nothing by that, and the other end may hear anything from then on.
theorem sound_of_gone (h : before.Sound) (hgone : (after.half side).released = true)
    (hother : (after.half side.other).released = (before.half side.other).released)
    (hsevered : (after.half side).severed = (before.half side).severed)
    (hnews : (after.half side).news = (before.half side).news) : after.Sound := by
  intro viewer hviewer
  rcases End.eq_or_eq_other viewer side with rfl | rfl
  · rw [hother] at hviewer
    rw [hsevered, hnews]
    exact h viewer hviewer
  · rw [End.other_other, hgone] at hviewer
    cases hviewer

theorem sound_release (h : pair.Sound) (side : End) : (pair.release side).Sound := by
  refine sound_of_gone h (released_release pair side) (released_release_other pair side) ?_ ?_ <;>
    cases side <;> rfl

theorem sound_refuse (h : pair.Sound) (side : End) : (pair.refuse side).Sound := by
  refine sound_of_gone h (released_refuse pair side) (released_refuse_other pair side) ?_ ?_ <;>
    cases side <;> rfl

end SocketPair

namespace Connection

-- A connection over these sockets, which nobody has let go of behind the back of the lines.
structure Socketed (c : Connection) (pair : SocketPair) : Prop where
  link : c.link = .sockets pair
  released : ∀ side, (pair.half side).released = (c.line side).closed
  sound : pair.Sound

namespace Socketed

variable {c : Connection} {pair after : SocketPair} {side : End}

theorem relink (h : c.Socketed pair) (hkeeps : pair.Keeps after) :
    Socketed { c with link := .sockets after } after :=
  ⟨rfl, fun viewer => by rw [hkeeps.released, h.released, line_link c (.sockets after)],
    hkeeps.sound h.sound⟩

theorem read (h : c.Socketed pair) (side : End) (room : Nat) :
    ∃ after, (c.read side room).2.Socketed after := by
  simp only [Connection.read, read?]
  by_cases hzero : room = 0
  · rw [if_pos hzero]
    exact ⟨pair, h⟩
  · rw [if_neg hzero]
    cases hclosed : (c.line side).closed with
    | true => exact ⟨pair, h⟩
    | false =>
        simp only [Bool.false_eq_true, if_false, h.link, Link.read?]
        rcases hread : pair.read? side room with _ | ⟨result, after⟩
        · simp only [Option.map_none]
          split <;> exact ⟨pair, h⟩
        · exact ⟨after, h.relink (SocketPair.keeps_read? hread)⟩

-- The link is told how long to wait, when that is limited.
theorem told (h : c.Socketed pair) (side : End) (left : Option Duration) :
    ∃ told, pair.Keeps told ∧
      (if left.isSome then c.link.setWriteLimit side left else c.link) = .sockets told := by
  cases left with
  | none => exact ⟨pair, .refl pair, h.link⟩
  | some left =>
      refine ⟨_, ?_, by rw [h.link]; rfl⟩
      exact SocketPair.keeps_of_same rfl rfl rfl

theorem attempt (h : c.Socketed pair) (side : End) (left : Option Duration) (sending : Sending) :
    ∃ after, (c.attempt side left sending).2.Socketed after := by
  by_cases hlate : left.any Duration.isZero = true
  · rw [Connection.attempt, if_pos hlate]
    exact ⟨pair, h⟩
  · obtain ⟨told, hkeeps, htold⟩ := h.told side left
    simp only [Connection.attempt, if_neg hlate, htold, Link.write?]
    have hwritten := hkeeps.trans (SocketPair.keeps_write side sending.pending told)
    rcases hwrite : told.write side sending.pending with ⟨error | count, after⟩
    all_goals
      rw [hwrite] at hwritten
      exact ⟨after, h.relink hwritten⟩

theorem finish (h : c.Socketed pair) (side : End) (left : Option Duration) (fuel : Nat)
    (sending : Sending) : ∃ after, (c.finish side left fuel sending).2.Socketed after := by
  induction fuel generalizing c pair sending with
  | zero => exact ⟨pair, h⟩
  | succ fuel ih =>
      obtain ⟨after, hafter⟩ := h.attempt side left sending
      rcases hattempt : c.attempt side left sending with ⟨_ | sending | result, next⟩
      all_goals
        rw [hattempt] at hafter
        simp only [Connection.finish, hattempt]
      · split
        · split <;> exact ⟨after, hafter⟩
        · exact ⟨after, hafter⟩
      · exact ih hafter sending
      · exact ⟨after, hafter⟩

theorem setOption (h : c.Socketed pair) {option : LineOption} {value : Option Duration}
    {next : Connection} (hset : c.setOption side option value = .ok next) :
    ∃ after, next.Socketed after := by
  have hline {after : SocketPair} (options : LineOptions) (hkeeps : pair.Keeps after) :
      Socketed (setLine { c with link := .sockets after } side { c.line side with options })
        after := by
    refine ⟨link_setLine .., fun viewer => ?_, hkeeps.sound h.sound⟩
    rw [hkeeps.released, h.released]
    rcases End.eq_or_eq_other viewer side with rfl | rfl
    · rw [line_setLine]
    · rw [line_setLine_other, line_link c (.sockets after)]
  simp only [Connection.setOption, h.link] at hset
  split at hset
  · cases hset
  · cases hset
    cases option with
    | receiveTimeout => exact ⟨_, hline _ (SocketPair.keeps_of_same rfl rfl rfl)⟩
    | sendTimeout => exact ⟨_, hline _ (SocketPair.keeps_of_same rfl rfl rfl)⟩

-- One end is gone and its line is closed.
theorem letGo (h : c.Socketed pair) (hgone : (after.half side).released = true)
    (hother : (after.half side.other).released = (pair.half side.other).released)
    (hsound : after.Sound) :
    Socketed (setLine { c with link := .sockets after } side { c.line side with closed := true })
      after := by
  refine ⟨link_setLine .., fun viewer => ?_, hsound⟩
  rcases End.eq_or_eq_other viewer side with rfl | rfl
  · rw [line_setLine, hgone]
  · rw [line_setLine_other, line_link, hother, h.released]

theorem close_eq (h : c.Socketed pair) (hopen : (c.line side).closed = false) :
    c.close side = setLine { c with link := .sockets (pair.release side) } side
      { c.line side with closed := true } := by
  rw [Connection.close, hopen, h.link]
  rfl

theorem close (h : c.Socketed pair) (side : End) : ∃ after, (c.close side).Socketed after := by
  cases hopen : (c.line side).closed with
  | true =>
      rw [Connection.close, hopen]
      exact ⟨pair, h⟩
  | false =>
      rw [h.close_eq hopen]
      exact ⟨_, h.letGo (SocketPair.released_release pair side)
        (SocketPair.released_release_other pair side) (SocketPair.sound_release h.sound side)⟩

theorem refuse (h : c.Socketed pair) (side : End) : ∃ after, (c.refuse side).Socketed after := by
  rw [Connection.refuse, h.link]
  exact ⟨_, h.letGo (SocketPair.released_refuse pair side)
    (SocketPair.released_refuse_other pair side) (SocketPair.sound_refuse h.sound side)⟩

-- What one call preserves.
theorem call (h : c.Socketed pair) (side : End) (request : Call) :
    ∃ after, (request.perform side c).2.Socketed after := by
  have hset (option : LineOption) (value : Option Duration) :
      ∃ after, (c.setTo (c.setOption side option value)).2.Socketed after := by
    cases hset : c.setOption side option value with
    | error fault => exact ⟨pair, h⟩
    | ok next => exact h.setOption hset
  cases request with
  | read room => exact h.read side room
  | write data =>
      simp only [Call.perform, Prod.map_snd, id_eq, Connection.write]
      cases c.begin side data with
      | error fault => exact ⟨pair, h⟩
      | ok sending => exact h.finish side _ _ sending
  | attempt left sending => exact h.attempt side left sending
  | setOption option value => exact hset option value
  | setOptionRaw id millis =>
      simp only [Call.perform, setOptionRaw]
      cases LineOption.ofId id with
      | error fault => exact ⟨pair, h⟩
      | ok option => exact hset option _
  | close => exact h.close side

-- A new pair of sockets between two open lines.
theorem of_family (family : SocketFamily) (first second : Endpoint) :
    Socketed ⟨.sockets { family }, { endpoint := first }, { endpoint := second }⟩ { family } := by
  refine ⟨rfl, fun side => ?_, fun side _ => ?_⟩
  · cases side <;> rfl
  · cases side <;> exact ⟨rfl, rfl⟩

end Socketed

end Connection

end FramedLines
