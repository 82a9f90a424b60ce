import FramedLines.Fault
import FramedLines.Bytes
import FramedLines.Options

-- A write under way. It goes on until everything has been taken or the time is up, and says
-- how much went out.

namespace FramedLines

structure Sending where
  -- octets still to go out
  pending : Bytes
  written : Nat := 0
deriving DecidableEq

-- What handing the pending octets to the stream came to.
inductive Attempt where
  | took (count : Nat)
  | failed (error : IoError)
  -- the time was up before the stream was asked
  | late
deriving DecidableEq

inductive Progress where
  | going (sending : Sending)
  | ended (result : Except Fault WriteOutcome)

namespace Sending

-- What there is to report when the write goes no further.
def outcome (sending : Sending) : Except Fault WriteOutcome :=
  if sending.written = 0 then
    .error (Fault.timeout.withContext "no bytes accepted before send timeout")
  else .ok ⟨sending.written, sending.written + sending.pending.length⟩

-- A stream that takes nothing has lost its other end. An interrupted attempt is made again, and
-- one that ran out of time ends the write without spoiling it.
def advance (sending : Sending) : Attempt → Progress
  | .took 0 => .ended (.error (Fault.connectionLost.withContext "peer stopped accepting bytes"))
  | .took (count + 1) =>
      let next : Sending := ⟨sending.pending.drop (count + 1), sending.written + (count + 1)⟩
      if next.pending.isEmpty then .ended next.outcome else .going next
  | .failed error =>
      if error.kind = .interrupted then .going sending
      else if (Fault.ofIo error).isTimeout then .ended sending.outcome
      else .ended (.error (Fault.ofIo error))
  | .late => .ended sending.outcome

-- Goes through attempts until the write ends.
def run (sending : Sending) : List Attempt → Progress
  | [] => .going sending
  | attempt :: attempts =>
      match sending.advance attempt with
      | .going sending => sending.run attempts
      | .ended result => .ended result

end Sending

end FramedLines
