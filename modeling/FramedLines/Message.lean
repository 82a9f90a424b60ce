import FramedLines.Bytes
import FramedLines.Fault
import FramedLines.Text.Utf8

-- Messages: ordered frames of octets, with accessors for numbers and text.

namespace FramedLines

-- The order of the frames is their order on the wire.
structure Message where
  frames : List Bytes := []
deriving DecidableEq

namespace Message

def empty : Message := {}

def ofFrames (frames : List Bytes) : Message := ⟨frames⟩

def add (message : Message) (frame : Bytes) : Message := ⟨message.frames ++ [frame]⟩

def clear (message : Message) : Message := { message with frames := [] }

def length (message : Message) : Nat := message.frames.length

def isEmpty (message : Message) : Bool := message.frames.isEmpty

def frame? (message : Message) (index : Nat) : Option Bytes := message.frames[index]?

-- An index past the end is the caller's mistake and stops the program.
def frame! (message : Message) (index : Nat) : Except Crash Bytes :=
  match message.frame? index with
  | some frame => .ok frame
  | none =>
      .error ⟨s!"frame index {index} out of range for message of {message.length} frames"⟩

-- The frame at `index`, or the fault that there is none.
def frameAt (message : Message) (index : Nat) : Except Fault Bytes :=
  match message.frame? index with
  | some frame => .ok frame
  | none => .error (Fault.invalidArgument s!"no frame at index {index}")

-- The little-endian number that fills the frame at `index`, which must be `width` octets long.
def number (message : Message) (width index : Nat) : Except Fault Nat := do
  let frame ← message.frameAt index
  if frame.length = width then return Bytes.toNat frame
  else throw (Fault.invalidArgument s!"frame {index} is {frame.length} bytes, expected {width}")

def addU8 (message : Message) (value : UInt8) : Message := message.add (Bytes.ofNat 1 value.toNat)

def addU16 (message : Message) (value : UInt16) : Message := message.add (Bytes.ofNat 2 value.toNat)

def addU32 (message : Message) (value : UInt32) : Message := message.add (Bytes.ofNat 4 value.toNat)

def addText (message : Message) (text : String) : Message := message.add (Utf8.encode text.toList)

def getU8 (message : Message) (index : Nat) : Except Fault UInt8 :=
  (message.number 1 index).map Nat.toUInt8

def getU16 (message : Message) (index : Nat) : Except Fault UInt16 :=
  (message.number 2 index).map Nat.toUInt16

def getU32 (message : Message) (index : Nat) : Except Fault UInt32 :=
  (message.number 4 index).map Nat.toUInt32

def getText (message : Message) (index : Nat) : Except Fault String := do
  let frame ← message.frameAt index
  match Utf8.decode frame with
  | .ok text => return String.ofList text
  | .error breach => throw (Fault.invalidArgument s!"frame {index} is not UTF-8: {breach.text}")

end Message

end FramedLines
