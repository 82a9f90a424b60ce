import FramedLines.Cbor
import FramedLines.Message
import FramedLines.Postcard

-- Frames that hold one value each, in one of the two formats for values.

namespace FramedLines.Message

def addPostcard (message : Message) {kind : Kind} (value : kind.Carrier) : Message :=
  message.add (Postcard.encode value)

def getPostcard (message : Message) (kind : Kind) (index : Nat) : Except Fault kind.Carrier := do
  let frame ← message.frameAt index
  match Postcard.decode kind frame with
  | .ok value => return value
  | .error problem => throw (Fault.ofCodec .postcardDecode problem.text)

def addCbor (message : Message) {kind : Kind} (value : kind.Carrier) : Message :=
  message.add (Cbor.encode value)

def getCbor (message : Message) (kind : Kind) (index : Nat) : Except Fault kind.Carrier := do
  let frame ← message.frameAt index
  match Cbor.decode? kind frame with
  | some value => return value
  | none => throw { code := .cborDecode }

end FramedLines.Message
