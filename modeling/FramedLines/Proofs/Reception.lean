import FramedLines.Proofs.Abandonment
import FramedLines.Proofs.Decoding

-- Reading a message off a supply: what it comes to for each way in which octets can open, and
-- where it leaves off. Nothing in it depends on how a line cuts the octets.

namespace FramedLines.Message

open Dialogue (Seamless)

variable (limits : Limits) (halt : Halt) (later : Supply)

section Frames

theorem feed_readFrames_front {front : List Bytes}
    (hfront : ∀ head ∈ front, Wire.fits head.length ∧ head.length ≤ limits.maxFrameLen.toNat)
    (remaining : Nat) (done : List Bytes) (tail : Bytes) :
    Supply.feed (⟨front.flatMap Wire.frame ++ tail, halt⟩ :: later)
        (readFrames limits (front.length + remaining) done) =
      Supply.feed (⟨tail, halt⟩ :: later)
        (readFrames limits remaining (front.reverse ++ done)) := by
  induction front generalizing done with
  | nil => simp
  | cons head front ih =>
      obtain ⟨hfits, hlimit⟩ := hfront head (by simp)
      have hword := feed_readWord halt later false hfits
        (head ++ (front.flatMap Wire.frame ++ tail))
      have hfill := feed_fill false head (front.flatMap Wire.frame ++ tail) halt later
      have hrest := ih (fun other hother => hfront other (by simp [hother])) (head :: done)
      rw [List.length_cons, Nat.add_right_comm, List.flatMap_cons, Wire.frame, List.append_assoc,
        List.append_assoc, readFrames, feed_bind_of_ok hword, if_neg (by omega),
        feed_bind_of_ok hfill, hrest, List.reverse_cons, List.append_assoc, List.singleton_append]

theorem feed_readFrames_all {frames : List Bytes}
    (hframes : ∀ head ∈ frames, Wire.fits head.length ∧ head.length ≤ limits.maxFrameLen.toNat)
    (rest : Bytes) :
    Supply.feed (⟨frames.flatMap Wire.frame ++ rest, halt⟩ :: later)
        (readFrames limits frames.length []) =
      (some (.ok ⟨frames⟩), ⟨rest, halt⟩ :: later) := by
  have hfront := feed_readFrames_front limits halt later hframes 0 [] rest
  rw [Nat.add_zero] at hfront
  rw [hfront, readFrames, List.append_nil, List.reverse_reverse, feed_pure]

theorem feed_readFrames_noWord {tail : Bytes} (hshort : tail.length < Wire.wordLen)
    (remaining : Nat) (done : List Bytes) :
    Supply.feed (⟨tail, halt⟩ :: later) (readFrames limits (remaining + 1) done) =
      (some (.error (.fault (halt.fault tail.length Wire.wordLen))), later) :=
  feed_bind_of_error (feed_readWord_halted halt later false hshort)

theorem feed_readFrames_noFrame {length : Nat} {rest : Bytes} (hfits : Wire.fits length)
    (hlimit : length ≤ limits.maxFrameLen.toNat) (hshort : rest.length < length)
    (remaining : Nat) (done : List Bytes) :
    Supply.feed (⟨Wire.word length ++ rest, halt⟩ :: later)
        (readFrames limits (remaining + 1) done) =
      (some (.error (.fault (halt.fault rest.length length))), later) := by
  have hword := feed_readWord halt later false hfits rest
  have hfill := feed_fill_halted false halt later hshort
  rw [readFrames, feed_bind_of_ok hword, if_neg (by omega), feed_bind_of_error hfill]
  rfl

theorem feed_readFrames_oversize {length : Nat} (rest : Bytes) (hfits : Wire.fits length)
    (hlimit : limits.maxFrameLen.toNat < length) (remaining : Nat) (done : List Bytes) :
    Supply.feed (⟨Wire.word length ++ rest, halt⟩ :: later)
        (readFrames limits (remaining + 1) done) =
      Supply.feed (⟨rest, halt⟩ :: later) (abandon limits length remaining) := by
  have hword := feed_readWord halt later false hfits rest
  rw [readFrames, feed_bind_of_ok hword, if_pos hlimit]

theorem sectional_readFrames (count : Nat) (done : List Bytes) :
    Sectional (readFrames limits count done) := by
  induction count generalizing done with
  | zero => exact .pure _
  | succ count ih =>
      apply Sectional.bind (sectional_readWord false)
      intro length
      by_cases hlimit : limits.maxFrameLen.toNat < length
      · rw [if_pos hlimit]
        exact sectional_abandon limits length count
      · rw [if_neg hlimit]
        exact .bind (.fill false length) fun frame => ih (frame :: done)

end Frames

section Whole

-- The reader's account of what came of a message.
def account : Except Stop Message → Except Fault (Option Message)
  | .ok message => .ok (some message)
  | .error .ended => .ok none
  | .error (.fault fault) => .error fault

theorem run_receive (line : ByteLine σ) (state : σ) :
    (receive limits).run line state =
      Prod.map (Option.map account) id (Dialogue.run line (readMessage limits) state) := by
  rw [receive, Dialogue.run_bind]
  split
  · next result next hread =>
      rw [hread]
      rcases result with (_ | fault) | message <;> rfl
  · next next hread => rw [hread]; rfl

variable {limits} in
theorem feed_receive {supply rest : Supply} {result : Except Stop Message}
    (hread : supply.feed (readMessage limits) = (some result, rest)) :
    supply.feed (receive limits) = (some (account result), rest) := by
  rw [Supply.feed, run_receive, show Dialogue.run Supply.line (readMessage limits) supply = _ from
    hread]
  rfl

theorem sectional_readMessage : Sectional (readMessage limits) := by
  apply Sectional.bind (sectional_readWord true)
  intro count
  by_cases hcount : limits.maxFrames.toNat < count
  · rw [if_pos hcount]
    exact .throw _
  · rw [if_neg hcount]
    exact sectional_readFrames limits count []

theorem seamless_receive : Seamless (receive limits) := by
  apply Seamless.bind (sectional_readMessage limits).seamless
  rintro ((_ | fault) | message) <;> exact Seamless.done _

theorem feed_receive_noCount {octets : Bytes} (hshort : octets.length < Wire.wordLen) :
    Supply.feed (⟨octets, halt⟩ :: later) (receive limits) =
      (some (account (.error (halt.stop octets.isEmpty octets.length Wire.wordLen))), later) :=
  feed_receive (feed_bind_of_error (feed_readWord_halted halt later true hshort))

theorem feed_receive_tooMany {count : Nat} (hfits : Wire.fits count)
    (hcount : limits.maxFrames.toNat < count) (rest : Bytes) :
    Supply.feed (⟨Wire.word count ++ rest, halt⟩ :: later) (receive limits) =
      (some (.error ((Fault.bufferTooBig count limits.maxFrames.toNat).withContext
        s!"peer declared {count} frames")), ⟨rest, halt⟩ :: later) := by
  refine @feed_receive limits _ _ (.error (.fault _)) ?_
  rw [readMessage, feed_bind_of_ok (feed_readWord halt later true hfits rest), if_pos hcount,
    feed_throw]
  rfl

-- Behind a count within the limit it is all a matter of the frames.
theorem feed_receive_count {count : Nat} (hfits : Wire.fits count)
    (hcount : count ≤ limits.maxFrames.toNat) {octets : Bytes} {result : Except Stop Message}
    {rest : Supply}
    (hframes : Supply.feed (⟨octets, halt⟩ :: later) (readFrames limits count []) =
      (some result, rest)) :
    Supply.feed (⟨Wire.word count ++ octets, halt⟩ :: later) (receive limits) =
      (some (account result), rest) := by
  apply feed_receive
  rw [readMessage, feed_bind_of_ok (feed_readWord halt later true hfits octets),
    if_neg (Nat.not_lt.mpr hcount), hframes]

theorem feed_receive_whole {message : Message} (hw : message.Writable)
    (hadmits : limits.Admits message) (rest : Bytes) :
    Supply.feed (⟨message.wire ++ rest, halt⟩ :: later) (receive limits) =
      (some (.ok (some message)), ⟨rest, halt⟩ :: later) := by
  rw [wire, List.append_assoc]
  exact feed_receive_count limits halt later hw.1 hadmits.1 (feed_readFrames_all limits halt later
    (fun head hhead => ⟨hw.2 head hhead, hadmits.2 head hhead⟩) rest)

theorem feed_receive_front {front : List Bytes} {remaining : Nat} {tail : Bytes}
    {result : Except Stop Message} {rest : Supply}
    (hfits : Wire.fits (front.length + (remaining + 1)))
    (hcount : front.length + (remaining + 1) ≤ limits.maxFrames.toNat)
    (hfront : ∀ head ∈ front, Wire.fits head.length ∧ head.length ≤ limits.maxFrameLen.toNat)
    (htail : Supply.feed (⟨tail, halt⟩ :: later)
      (readFrames limits (remaining + 1) (front.reverse ++ [])) = (some result, rest)) :
    Supply.feed (⟨Wire.word (front.length + (remaining + 1)) ++
        (front.flatMap Wire.frame ++ tail), halt⟩ :: later) (receive limits) =
      (some (account result), rest) := by
  apply feed_receive_count limits halt later hfits hcount
  rw [feed_readFrames_front limits halt later hfront, htail]

-- From the first frame that is too long on it is a matter of giving up the message.
theorem feed_receive_oversize {front : List Bytes} {length remaining : Nat} {octets : Bytes}
    {result : Except Stop Message} {rest : Supply}
    (hfits : Wire.fits (front.length + (remaining + 1)))
    (hcount : front.length + (remaining + 1) ≤ limits.maxFrames.toNat)
    (hfront : ∀ head ∈ front, Wire.fits head.length ∧ head.length ≤ limits.maxFrameLen.toNat)
    (hlength : Wire.fits length) (hlimit : limits.maxFrameLen.toNat < length)
    (habandon : Supply.feed (⟨octets, halt⟩ :: later) (abandon limits length remaining) =
      (some result, rest)) :
    Supply.feed (⟨Wire.word (front.length + (remaining + 1)) ++
        (front.flatMap Wire.frame ++ (Wire.word length ++ octets)), halt⟩ :: later)
        (receive limits) =
      (some (account result), rest) := by
  apply feed_receive_front limits halt later hfits hcount hfront
  rw [feed_readFrames_oversize limits halt later octets hlength hlimit, habandon]

end Whole

end FramedLines.Message
