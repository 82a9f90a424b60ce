import FramedLines.Proofs.Calls

-- One end of the pipes: its line and its time limits, and what calls at either end leave of them.

namespace FramedLines

namespace Duplex

variable (duplex : Duplex) (side : End)

theorem half_setWriteLimit_other (limit : Option Duration) :
    (duplex.setWriteLimit side.other limit).half side = duplex.half side := by
  cases side <;> rfl

theorem half_setReadLimit_other (limit : Option Duration) :
    (duplex.setReadLimit side.other limit).half side = duplex.half side := by
  cases side <;> rfl

theorem readLimit_setReadLimit (limit : Option Duration) :
    ((duplex.setReadLimit side limit).half side).readLimit = limit := by
  cases side <;> rfl

theorem writeLimit_setReadLimit (limit : Option Duration) :
    ((duplex.setReadLimit side limit).half side).writeLimit = (duplex.half side).writeLimit := by
  cases side <;> rfl

theorem writeLimit_setIncoming (actor : End) (pipe : Pipe) :
    ((duplex.setIncoming actor pipe).half side).writeLimit = (duplex.half side).writeLimit := by
  cases actor <;> cases side <;> rfl

theorem writeLimit_disconnect :
    (duplex.disconnect.half side).writeLimit = (duplex.half side).writeLimit := by
  rw [half_disconnect]

end Duplex

namespace Connection

-- What nobody but the holder changes, and the holder only by setting an option or closing: the
-- line and its limits. A write may leave another limit for writes, but not where there is none.
structure Keeps (side : End) (c : Connection) (before : Duplex) (next : Connection)
    (after : Duplex) : Prop where
  link : next.link = .pipes after
  line : next.line side = c.line side
  readLimit : (after.half side).readLimit = (before.half side).readLimit
  writeLimit (hnone : (c.line side).options.sendTimeout = none) :
    (after.half side).writeLimit = (before.half side).writeLimit

section Keeps

variable {c next : Connection} {duplex after : Duplex} {side : End}

theorem Keeps.refl (hlink : c.link = .pipes duplex) : Keeps side c duplex c duplex :=
  ⟨hlink, rfl, rfl, fun _ => rfl⟩

theorem Keeps.trans {last : Connection} {final : Duplex} (h : Keeps side c duplex next after)
    (hmore : Keeps side next after last final) : Keeps side c duplex last final :=
  ⟨hmore.link, hmore.line.trans h.line, hmore.readLimit.trans h.readLimit, fun hnone =>
    (hmore.writeLimit (by rw [h.line, hnone])).trans (h.writeLimit hnone)⟩

theorem keeps_relink (hread : (after.half side).readLimit = (duplex.half side).readLimit)
    (hwrite : (c.line side).options.sendTimeout = none →
      (after.half side).writeLimit = (duplex.half side).writeLimit) :
    Keeps side c duplex { c with link := .pipes after } after :=
  ⟨rfl, line_link c _ side, hread, hwrite⟩

theorem keeps_setIncoming (viewer : End) (pipe : Pipe) :
    Keeps side c duplex { c with link := .pipes (duplex.setIncoming viewer pipe) }
      (duplex.setIncoming viewer pipe) :=
  keeps_relink (by simp) fun _ => Duplex.writeLimit_setIncoming ..

theorem keeps_read (hlink : c.link = .pipes duplex) (actor : End) (room : Nat) :
    ∃ after, Keeps side c duplex (c.read actor room).2 after := by
  obtain ⟨rest, -, hnext⟩ := read_takes hlink actor room
  rw [hnext]
  exact ⟨_, keeps_setIncoming ..⟩

-- An attempt overwrites the limit for writes only where the write has one.
theorem keeps_attempt (hlink : c.link = .pipes duplex) (actor : End) {left : Option Duration}
    (hleft : actor = side → (c.line side).options.sendTimeout = none → left = none)
    (sending : Sending) : ∃ after, Keeps side c duplex (c.attempt actor left sending).2 after := by
  rw [attempt]
  split
  · exact ⟨duplex, .refl hlink⟩
  · obtain ⟨told, hlinked, htold⟩ : ∃ told,
        (if left.isSome then c.link.setWriteLimit actor left else c.link) = .pipes told ∧
        Keeps side c duplex { c with link := .pipes told } told := by
      cases left with
      | none => exact ⟨duplex, hlink, keeps_relink rfl fun _ => rfl⟩
      | some limit =>
          refine ⟨duplex.setWriteLimit actor (some limit), by rw [hlink]; rfl,
            keeps_relink (by simp) fun hnone => ?_⟩
          rcases End.eq_or_eq_other actor side with rfl | rfl
          · cases hleft rfl hnone
          · rw [Duplex.half_setWriteLimit_other]
    simp only [hlinked, Link.write?, Duplex.write?]
    rcases (told.outgoing actor).write? sending.pending with _ | ⟨_ | _, pipe⟩
    · exact ⟨told, htold⟩
    · exact ⟨_, htold.trans (keeps_setIncoming ..)⟩
    · exact ⟨_, htold.trans (keeps_setIncoming ..)⟩

theorem keeps_finish (hlink : c.link = .pipes duplex) (actor : End) {left : Option Duration}
    (hleft : actor = side → (c.line side).options.sendTimeout = none → left = none) (fuel : Nat)
    (sending : Sending) :
    ∃ after, Keeps side c duplex (c.finish actor left fuel sending).2 after := by
  induction fuel generalizing c duplex sending with
  | zero => exact ⟨duplex, .refl hlink⟩
  | succ fuel ih =>
      obtain ⟨after, hkeeps⟩ := keeps_attempt hlink actor hleft sending
      rcases hattempt : c.attempt actor left sending with ⟨_ | sending | result, next⟩
      all_goals
        rw [hattempt] at hkeeps
        simp only [finish, hattempt]
      · split
        · split <;> exact ⟨after, hkeeps⟩
        · exact ⟨after, hkeeps⟩
      · obtain ⟨last, hmore⟩ := ih hkeeps.link (by rwa [hkeeps.line]) sending
        exact ⟨last, hkeeps.trans hmore⟩
      · exact ⟨after, hkeeps⟩

theorem sendLimit_of_none {line : Line} (hnone : line.options.sendTimeout = none) :
    line.sendLimit = none := by
  rw [Line.sendLimit, hnone, Option.filter_none]

theorem left_of_none (hnone : (c.line side).options.sendTimeout = none) (spent : Nat) :
    c.left side spent = none := by
  rw [left, sendLimit_of_none hnone, Option.map_none]

theorem keeps_write (hlink : c.link = .pipes duplex) (actor : End) (data : Bytes) (spent : Nat) :
    ∃ after, Keeps side c duplex (c.write actor data spent).2 after := by
  rw [write]
  split
  · exact ⟨duplex, .refl hlink⟩
  · refine keeps_finish hlink actor ?_ _ _
    rintro rfl hnone
    exact left_of_none hnone spent

theorem keeps_setOption_other (hlink : c.link = .pipes duplex) {option : LineOption}
    {value : Option Duration} (hset : c.setOption side.other option value = .ok next) :
    ∃ after, Keeps side c duplex next after := by
  have hline (line : Line) (after : Duplex) (hsame : after.half side = duplex.half side) :
      Keeps side c duplex (setLine { c with link := .pipes after } side.other line) after :=
    ⟨link_setLine .., by cases side <;> rfl, by rw [hsame], fun _ => by rw [hsame]⟩
  simp only [setOption, hlink] at hset
  split at hset
  · cases hset
  · cases hset
    cases option with
    | receiveTimeout => exact ⟨_, hline _ _ (Duplex.half_setReadLimit_other ..)⟩
    | sendTimeout => exact ⟨_, hline _ _ (Duplex.half_setWriteLimit_other ..)⟩

theorem keeps_close_other (hlink : c.link = .pipes duplex) :
    ∃ after, Keeps side c duplex (c.close side.other) after := by
  rw [close]
  split
  · exact ⟨duplex, .refl hlink⟩
  · rw [hlink]
    exact ⟨duplex.disconnect, link_setLine .., by cases side <;> rfl,
      Duplex.readLimit_disconnect .., fun _ => Duplex.writeLimit_disconnect ..⟩

-- A set that comes to anything is a set of an option that there is.
theorem setOptionRaw_cases (c : Connection) (side : End) (id : Int) (millis : UInt64) :
    (∃ option, LineOption.ofId id = .ok option ∧ c.setOptionRaw side id millis =
      c.setOption side option (some (Duration.ofMillis millis))) ∨
    LineOption.ofId id = .error (Fault.unknownOption id) ∧
      c.setOptionRaw side id millis = .error (Fault.unknownOption id) := by
  by_cases hreceive : id = 1
  · subst hreceive
    exact .inl ⟨.receiveTimeout, rfl, rfl⟩
  · by_cases hsend : id = 2
    · subst hsend
      exact .inl ⟨.sendTimeout, rfl, rfl⟩
    · have hunknown : LineOption.ofId id = .error (Fault.unknownOption id) := by
        rw [LineOption.ofId, if_neg hreceive, if_neg hsend]
      exact .inr ⟨hunknown, by rw [setOptionRaw, hunknown]; rfl⟩

theorem keeps_setTo {result : Except Fault Connection} (hlink : c.link = .pipes duplex)
    (hset : ∀ next, result = .ok next → ∃ after, Keeps side c duplex next after) :
    ∃ after, Keeps side c duplex (c.setTo result).2 after := by
  cases result with
  | error fault => exact ⟨duplex, .refl hlink⟩
  | ok next => exact hset next rfl

-- Nothing the other holder does is seen here.
theorem keeps_other (hlink : c.link = .pipes duplex) (request : Call) :
    ∃ after, Keeps side c duplex (request.perform side.other c).2 after := by
  cases request with
  | read room => exact keeps_read hlink side.other room
  | write data spent => exact keeps_write hlink side.other data spent
  | attempt left sending =>
      exact keeps_attempt hlink side.other (fun h => absurd h (End.other_ne side)) sending
  | setOption option value => exact keeps_setTo hlink fun _ hset => keeps_setOption_other hlink hset
  | setOptionRaw id millis =>
      refine keeps_setTo hlink fun next hset => ?_
      rcases setOptionRaw_cases c side.other id millis with ⟨option, -, hraw⟩ | ⟨-, hraw⟩
      · exact keeps_setOption_other hlink (hraw.symm.trans hset)
      · cases hraw.symm.trans hset
  | close => exact keeps_close_other hlink

end Keeps

end Connection

end FramedLines
