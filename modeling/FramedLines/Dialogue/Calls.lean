import FramedLines.Dialogue

-- Calls that take more than one exchange with a line, and the calls of plain byte streams, whose
-- failures are platform errors and whose empty buffers are no mistake.

namespace FramedLines.Dialogue

-- One write of all of `data`. A short one is a timeout.
def writeAll (data : Bytes) : Dialogue (Except Fault Unit) :=
  .write data fun
    | .error fault => .done (.error fault)
    | .ok outcome =>
        if outcome.isShort then
          .done (.error (Fault.timeout.withContext
            s!"sent {outcome.written} of {outcome.requested} bytes"))
        else .done (.ok ())

-- One after another, up to the first failure.
def writeEach : List Bytes → Dialogue (Except Fault Unit)
  | [] => .done (.ok ())
  | piece :: pieces =>
      (writeAll piece).bind fun
        | .ok () => writeEach pieces
        | .error fault => .done (.error fault)

-- What stopped a reader.
inductive Ending (ε : Type) where
  | full
  | ended
  | failed (error : ε)

-- Reads at most `room` octets at a time until `missing` of them have come. The ones that have
-- are in `got`, the last one first.
def readFrom (room missing : Nat) (got : Bytes) : Dialogue (Bytes × Ending Fault) :=
  if missing = 0 then .done (got.reverse, .full)
  else .read (min room missing) fun
    | .error fault => .done (got.reverse, .failed fault)
    | .ok [] => .done (got.reverse, .ended)
    | .ok (octet :: piece) =>
        readFrom room (missing - (piece.length + 1)) (piece.reverseAux (octet :: got))
termination_by missing

-- Reads until `count` octets have come.
def readFull (count : Nat) : Dialogue (Bytes × Ending Fault) := readFrom count count []

def streamRead (room : Nat) : Dialogue (Except IoError Bytes) :=
  if room = 0 then .done (.ok [])
  else .read room fun answer => .done (answer.mapError Fault.toIo)

def streamReadExact (count : Nat) : Dialogue (Except IoError Bytes) :=
  (readFull count).bind fun
    | (bytes, .full) => .done (.ok bytes)
    | (_, .ended) => .done (.error (.worded .unexpectedEof "failed to fill whole buffer"))
    | (_, .failed fault) => .done (.error fault.toIo)

-- How much a reader asks for that wants everything.
def streamChunk : Nat := 8192

-- Reads to the end of the stream, which has to come within so many reads. The octets that have
-- come are in `got`, the last one first.
def streamReadToEnd : (reads : Nat) → (got : Bytes) → Dialogue (Bytes × Ending IoError)
  | 0, got => .done (got.reverse, .full)
  | reads + 1, got => .read streamChunk fun
      | .error fault => .done (got.reverse, .failed fault.toIo)
      | .ok [] => .done (got.reverse, .ended)
      | .ok (octet :: piece) => streamReadToEnd reads (piece.reverseAux (octet :: got))

def streamWrite (data : Bytes) : Dialogue (Except IoError Nat) :=
  if data.isEmpty then .done (.ok 0)
  else .write data fun answer => .done (match answer with
    | .ok outcome => .ok outcome.written
    | .error fault => .error fault.toIo)

-- Writes again and again until everything is out. Every write but the last takes something.
def streamWriteFrom : (writes : Nat) → Bytes → Dialogue (Except IoError Unit)
  | 0, _ => .done (.ok ())
  | writes + 1, data =>
      if data.isEmpty then .done (.ok ())
      else .write data fun
        | .error fault => .done (.error fault.toIo)
        | .ok outcome =>
            if outcome.written = 0 then
              .done (.error (.worded .writeZero "failed to write whole buffer"))
            else streamWriteFrom writes (data.drop outcome.written)

def streamWriteAll (data : Bytes) : Dialogue (Except IoError Unit) :=
  streamWriteFrom (data.length + 1) data

end FramedLines.Dialogue
