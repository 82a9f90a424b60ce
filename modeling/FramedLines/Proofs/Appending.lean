import FramedLines.Proofs.Wire

-- A message put behind what a buffer holds: all of it, or nothing, or else its count and the frames
-- in front of the first one that is too long for its length word.

namespace FramedLines.Message

-- What writing a message can come to, and what it leaves in the buffer.
inductive Encodes (message : Message) (buffer : Bytes) : Except Fault Unit → Bytes → Prop where
  | whole (hw : message.Writable) : Encodes message buffer (.ok ()) (buffer ++ message.wire)
  -- there are too many frames to count
  | uncounted (hcount : ¬ Wire.fits message.length) :
      Encodes message buffer (.error (Wire.tooLong message.length)) buffer
  -- a frame is too long, and the ones in front of it are written by then
  | stuck {front others : List Bytes} {body : Bytes} (hcount : Wire.fits message.length)
      (hframes : message.frames = front ++ body :: others)
      (hfront : ∀ frame ∈ front, Wire.fits frame.length) (hbody : ¬ Wire.fits body.length) :
      Encodes message buffer (.error (Wire.tooLong body.length))
        (buffer ++ (Wire.word message.length ++ front.flatMap Wire.frame))

-- The whole message is behind what the buffer held, or the message has no wire form and nothing has
-- happened to the buffer.
def AllOrNothing (message : Message) (buffer : Bytes) : Prop :=
  (∃ form, message.encodeInto buffer = (.ok (), buffer ++ form) ∧
    form.length = message.encodedLen) ∨
  ¬ message.Writable ∧
    ∃ fault, message.encodeInto buffer = (.error fault, buffer) ∧ fault.code = .bufferTooBig

section Cases

variable {message : Message} {front others : List Bytes} {body : Bytes}

theorem encodeInto_uncounted (hcount : ¬ Wire.fits message.length) (buffer : Bytes) :
    message.encodeInto buffer = (.error (Wire.tooLong message.length), buffer) := by
  rw [encodeInto, if_neg hcount]

theorem encodeInto_stuck (hcount : Wire.fits message.length)
    (hframes : message.frames = front ++ body :: others)
    (hfront : ∀ frame ∈ front, Wire.fits frame.length) (hbody : ¬ Wire.fits body.length)
    (buffer : Bytes) :
    message.encodeInto buffer = (.error (Wire.tooLong body.length),
      buffer ++ (Wire.word message.length ++ front.flatMap Wire.frame)) := by
  have hsound : message.frames.takeWhile (fun frame => Wire.fits frame.length) = front := by
    rw [hframes, List.takeWhile_append_of_pos hfront]
    simp [hbody]
  have hrest : message.frames.drop front.length = body :: others := by
    rw [hframes, List.drop_left]
  simp only [encodeInto, if_pos hcount, hsound, hrest]

-- The first frame that is too long, if there is one.
theorem exists_long_frame {frames : List Bytes}
    (hlong : ¬ ∀ frame ∈ frames, Wire.fits frame.length) :
    ∃ front body others, frames = front ++ body :: others ∧
      (∀ frame ∈ front, Wire.fits frame.length) ∧ ¬ Wire.fits body.length := by
  induction frames with
  | nil => exact absurd (by simp) hlong
  | cons frame frames ih =>
      by_cases hframe : Wire.fits frame.length
      · have hrest : ¬ ∀ other ∈ frames, Wire.fits other.length := fun hall =>
          hlong (List.forall_mem_cons.mpr ⟨hframe, hall⟩)
        obtain ⟨front, body, others, rfl, hfront, hbody⟩ := ih hrest
        exact ⟨frame :: front, body, others, rfl, List.forall_mem_cons.mpr ⟨hframe, hfront⟩, hbody⟩
      · exact ⟨[], frame, frames, rfl, by simp, hframe⟩

theorem encodeInto_encodes (message : Message) (buffer : Bytes) :
    message.Encodes buffer (message.encodeInto buffer).1 (message.encodeInto buffer).2 := by
  by_cases hcount : Wire.fits message.length
  · by_cases hframes : ∀ frame ∈ message.frames, Wire.fits frame.length
    · have hw : message.Writable := ⟨hcount, hframes⟩
      rw [encodeInto_of_writable hw]
      exact .whole hw
    · obtain ⟨front, body, others, hsplit, hfront, hbody⟩ := exists_long_frame hframes
      rw [encodeInto_stuck hcount hsplit hfront hbody]
      exact .stuck hcount hsplit hfront hbody
  · rw [encodeInto_uncounted hcount]
    exact .uncounted hcount

-- A frame in the way always leaves something behind, be it only the count.
theorem not_allOrNothing_of_stuck (hcount : Wire.fits message.length)
    (hframes : message.frames = front ++ body :: others)
    (hfront : ∀ frame ∈ front, Wire.fits frame.length) (hbody : ¬ Wire.fits body.length)
    (buffer : Bytes) : ¬ message.AllOrNothing buffer := by
  rw [AllOrNothing, encodeInto_stuck hcount hframes hfront hbody]
  rintro (⟨form, hencoded, -⟩ | ⟨-, fault, hencoded, -⟩)
  · cases hencoded
  · have hnothing := List.append_right_eq_self.mp (congrArg Prod.snd hencoded)
    exact Wire.word_append_ne_nil message.length _ hnothing

end Cases

-- What is left in the buffer is what there was, and behind it the whole message, or nothing, or the
-- front of a message that cannot be written. It is never the front when all frames are short enough
-- for their length words, or when there are too many of them.
theorem long_frames_leave_their_front (message : Message) (buffer : Bytes) :
    message.Encodes buffer (message.encodeInto buffer).1 (message.encodeInto buffer).2 ∧
    (message.AllOrNothing buffer ↔
      message.Writable ∨ ¬ Wire.fits message.length) := by
  refine ⟨encodeInto_encodes message buffer, fun hall => ?_, ?_⟩
  · by_contra hneither
    obtain ⟨hlong, hcount⟩ := not_or.mp hneither
    rw [not_not] at hcount
    obtain ⟨front, body, others, hsplit, hfront, hbody⟩ :=
      exists_long_frame fun hframes => hlong ⟨hcount, hframes⟩
    exact not_allOrNothing_of_stuck hcount hsplit hfront hbody buffer hall
  · rintro (hw | hcount)
    · exact .inl ⟨message.wire, encodeInto_of_writable hw buffer, (encodedLen_eq message).symm⟩
    · exact .inr ⟨fun hw => hcount hw.1, _, encodeInto_uncounted hcount buffer, rfl⟩

-- One octet too many for a length word, behind a frame that is fine.
theorem long_frame_leaves_count_and_octet :
    let message : Message := ⟨[[1], List.replicate UInt32.size 0]⟩
    message.encodeInto [7] =
      (.error (Wire.tooLong UInt32.size), [7, 2, 0, 0, 0, 1, 0, 0, 0, 1]) ∧
    ¬ message.AllOrNothing [7] := by
  intro message
  have htwo : message.length = 2 := rfl
  have hcount : Wire.fits message.length := by
    rw [htwo]
    decide
  have hfront : ∀ frame ∈ [[(1 : UInt8)]], Wire.fits frame.length := by decide
  have hlength : (List.replicate UInt32.size (0 : UInt8)).length = UInt32.size :=
    List.length_replicate
  have hbody : ¬ Wire.fits (List.replicate UInt32.size (0 : UInt8)).length := by
    rw [hlength, Wire.fits_iff]
    exact Nat.lt_irrefl _
  have hframes : message.frames = [[1]] ++ List.replicate UInt32.size 0 :: [] := rfl
  refine ⟨?_, not_allOrNothing_of_stuck hcount hframes hfront hbody [7]⟩
  rw [encodeInto_stuck hcount hframes hfront hbody, hlength, htwo]
  rfl

end FramedLines.Message
