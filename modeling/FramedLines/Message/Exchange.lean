import FramedLines.Dialogue
import FramedLines.Message.Wire

-- Whole messages over a line. A message goes out in one write, and comes in section by section:
-- its count, then the length and the octets of every frame. Nothing beyond it is asked for.

namespace FramedLines

namespace Limits

-- Whether a frame of this length is read past when it cannot be kept.
def drains (limits : Limits) (length : Nat) : Bool :=
  limits.drainOversizeUpTo != 0 && length ≤ limits.drainOversizeUpTo.toNat

end Limits

namespace Message

-- Judges the frames against the limits, before anything is written.
def judge (limits : Limits) (message : Message) : Except Fault Unit :=
  if limits.maxFrames.toNat < message.length then
    .error ((Fault.bufferTooBig message.length limits.maxFrames.toNat).withContext
      s!"{message.length} frames exceeds max {limits.maxFrames.toNat}")
  else
    match message.frames.find? fun frame => limits.maxFrameLen.toNat < frame.length with
    | some frame => .error (Fault.bufferTooBig frame.length limits.maxFrameLen.toNat)
    | none => .ok ()

-- A message that went out in part is a failure, whatever the line makes of it.
def send (limits : Limits) (message : Message) : Dialogue (Except Fault Unit) :=
  match message.judge limits with
  | .error fault => .done (.error fault)
  | .ok () =>
      match message.encodeInto [] with
      | (.error fault, _) => .done (.error fault)
      | (.ok (), wire) => .write wire fun
          | .error fault => .done (.error fault)
          | .ok outcome =>
              if outcome.isShort then
                .done (.error (Fault.timeout.withContext
                  s!"message cut after {outcome.written} of {outcome.requested} bytes"))
              else .done (.ok ())

-- Why a read yields no message.
inductive Stop where
  -- the stream ended between messages
  | ended
  | fault (fault : Fault)
deriving DecidableEq

abbrev Reading (α : Type) := ExceptT Stop Dialogue α

-- Goes on with a section of `want` octets: `missing` of them are still to come and the others
-- are in `done`, the last one first. While the message is `untouched`, an end of the stream is
-- no fault and a timeout does no harm.
def collect (untouched : Bool) (want missing : Nat) (done : Bytes) : Reading Bytes :=
  if missing = 0 then .done (.ok done.reverse)
  else .read missing fun
    | .error fault =>
        if fault.isTimeout && !untouched then
          .done (.error (.fault (fault.withContext "timed out mid-message; framing lost")))
        else .done (.error (.fault fault))
    | .ok [] =>
        if untouched then .done (.error .ended)
        else .done (.error (.fault (Fault.truncated (want - missing) want)))
    | .ok (octet :: piece) =>
        collect false want (missing - (piece.length + 1)) (piece.reverseAux (octet :: done))
termination_by missing

-- Reads a section of `want` octets, in as many pieces as it takes.
def fill (untouched : Bool) (want : Nat) : Reading Bytes := collect untouched want want []

def readWord (untouched : Bool) : Reading Nat := do
  let octets ← fill untouched Wire.wordLen
  return Bytes.toNat octets

-- What is not kept is read in pieces of at most this many octets.
def drainChunk : Nat := 8192

def discard (length : Nat) : Reading Unit :=
  if length = 0 then pure ()
  else do
    let _ ← fill false (min length drainChunk)
    discard (length - drainChunk)
termination_by length
decreasing_by simp only [drainChunk]; omega

-- Reads past `count` frames, unless one is too long even for that.
def skipFrames (limits : Limits) : (count : Nat) → Reading Bool
  | 0 => return true
  | count + 1 => do
      let length ← readWord false
      if limits.drains length then
        discard length
        skipFrames limits count
      else return false

-- Gives up a message at a frame that is too long, with `remaining` frames behind it. The line
-- stays aligned when everything up to the next message could be read past.
def abandon (limits : Limits) (length remaining : Nat) : Reading Message := do
  let aligned ←
    if limits.drains length then do
      discard length
      skipFrames limits remaining
    else pure false
  let fate := if aligned then "message drained, line aligned" else "framing lost"
  let limit := limits.maxFrameLen.toNat
  throw (.fault ((Fault.bufferTooBig length limit).withContext
    s!"frame of {length} bytes exceeds max {limit}; {fate}"))

-- The next `count` frames. The ones in `done` came before, the last one first.
def readFrames (limits : Limits) : (count : Nat) → (done : List Bytes) → Reading Message
  | 0, done => return ⟨done.reverse⟩
  | count + 1, done => do
      let length ← readWord false
      if limits.maxFrameLen.toNat < length then abandon limits length count
      else
        let frame ← fill false length
        readFrames limits count (frame :: done)

def tooMany (limits : Limits) (count : Nat) : Fault :=
  (Fault.bufferTooBig count limits.maxFrames.toNat).withContext s!"peer declared {count} frames"

def readMessage (limits : Limits) : Reading Message := do
  let count ← readWord true
  if limits.maxFrames.toNat < count then throw (.fault (tooMany limits count))
  else readFrames limits count []

-- Reads exactly one message. There is none when the stream ends before it begins.
def receive (limits : Limits) : Dialogue (Except Fault (Option Message)) :=
  Dialogue.bind (readMessage limits) fun
    | .ok message => .done (.ok (some message))
    | .error .ended => .done (.ok none)
    | .error (.fault fault) => .done (.error fault)

-- What a reader holds after a read: the message that came, else nothing.
def afterRead : Except Fault (Option Message) → Message
  | .ok (some message) => message
  | _ => empty

-- A reading that puts frames into somebody's message as they come. Those that came before it
-- failed are still there.
abbrev Filling (α : Type) := ExceptT Stop (StateT Message Dialogue) α

-- A reading that leaves the message alone.
def aside (reading : Reading α) : Filling α := fun held =>
  Dialogue.bind reading fun result => .done (result, held)

def keep (frame : Bytes) : Filling Unit := fun held => .done (.ok (), held.add frame)

def keepFrames (limits : Limits) : (count : Nat) → Filling Unit
  | 0 => return ()
  | count + 1 => do
      let length ← aside (readWord false)
      if limits.maxFrameLen.toNat < length then
        let _ ← aside (abandon limits length count)
      else
        let frame ← aside (fill false length)
        keep frame
        keepFrames limits count

def keepMessage (limits : Limits) : Filling Unit := do
  let count ← aside (readWord true)
  if limits.maxFrames.toNat < count then throw (.fault (tooMany limits count))
  else keepFrames limits count

-- What the owner of the message is told, and what is left to it. Without a message that is nothing.
def settle : Except Stop Unit × Message → Except Fault Bool × Message
  | (.ok (), held) => (.ok true, held)
  | (.error .ended, held) => (.ok false, held.clear)
  | (.error (.fault fault), held) => (.error fault, held.clear)

-- Reads exactly one message into `held`, whatever that was before.
def receiveInto (limits : Limits) (held : Message) : Dialogue (Except Fault Bool × Message) :=
  Dialogue.bind (keepMessage limits held.clear) fun outcome => .done (settle outcome)

end Message

end FramedLines
