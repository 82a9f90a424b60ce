import FramedLines.Message
import FramedLines.Options

-- Messages on the wire: a count of frames, then each frame behind its length. Counts and
-- lengths are 32-bit little-endian words.

namespace FramedLines

namespace Wire

-- How many octets a count or a length takes.
def wordLen : Nat := 4

-- Whether a count or a length can be written at all.
def fits (value : Nat) : Bool := value < UInt32.size

def word (value : Nat) : Bytes := Bytes.ofNat wordLen value

def frame (frame : Bytes) : Bytes := word frame.length ++ frame

def tooLong (length : Nat) : Fault := Fault.bufferTooBig length (UInt32.size - 1)

end Wire

namespace Message

-- The whole form, when every word in it fits.
def wire (message : Message) : Bytes :=
  Wire.word message.length ++ message.frames.flatMap Wire.frame

-- What `wire` measures: a word for the count and one for each frame.
def encodedLen (message : Message) : Nat :=
  message.frames.foldr (fun frame total => Wire.wordLen + frame.length + total) Wire.wordLen

-- Appends the wire form to `buffer`. A frame too long for its length word ends the work there:
-- the count and the frames before it have been written by then.
def encodeInto (message : Message) (buffer : Bytes) : Except Fault Unit × Bytes :=
  if Wire.fits message.length then
    let sound := message.frames.takeWhile fun frame => Wire.fits frame.length
    let result := match message.frames.drop sound.length with
      | [] => .ok ()
      | frame :: _ => .error (Wire.tooLong frame.length)
    (result, buffer ++ (Wire.word message.length ++ sound.flatMap Wire.frame))
  else (.error (Wire.tooLong message.length), buffer)

-- The word in front, where `read` of `total` octets have been taken.
def takeWord (total read : Nat) (bytes : Bytes) : Except Fault (Nat × Bytes) :=
  match Bytes.split? Wire.wordLen bytes with
  | some (head, rest) => .ok (Bytes.toNat head, rest)
  | none => .error (Fault.truncated total (read + Wire.wordLen))

-- The next `count` frames. The ones in `done` came before, the last one first.
def decodeFrames (limits : Limits) (total : Nat) :
    (count read : Nat) → (done : List Bytes) → Bytes → Except Fault Message
  | 0, _, done, _ => .ok ⟨done.reverse⟩
  | count + 1, read, done, bytes =>
      match takeWord total read bytes with
      | .error fault => .error fault
      | .ok (length, bytes) =>
          if limits.maxFrameLen.toNat < length then
            .error (Fault.bufferTooBig length limits.maxFrameLen.toNat)
          else
            match Bytes.split? length bytes with
            | none => .error (Fault.truncated total (read + Wire.wordLen + length))
            | some (frame, bytes) =>
                decodeFrames limits total count (read + Wire.wordLen + length) (frame :: done) bytes

-- The message at the front of `bytes`. What follows it does not matter.
def decode (limits : Limits) (bytes : Bytes) : Except Fault Message :=
  match takeWord bytes.length 0 bytes with
  | .error fault => .error fault
  | .ok (count, rest) =>
      if limits.maxFrames.toNat < count then
        .error ((Fault.bufferTooBig count limits.maxFrames.toNat).withContext s!"{count} frames")
      else decodeFrames limits bytes.length count Wire.wordLen [] rest

end Message

end FramedLines
