import FramedLines.Duration
import FramedLines.Fault

-- What callers can set: per-line timeouts, message limits, and a manager's sizes.

namespace FramedLines

inductive LineOption where
  | receiveTimeout | sendTimeout
deriving DecidableEq

namespace LineOption

def id : LineOption → Int
  | receiveTimeout => 1
  | sendTimeout => 2

def ofId (id : Int) : Except Fault LineOption :=
  if id = 1 then .ok receiveTimeout
  else if id = 2 then .ok sendTimeout
  else .error (Fault.unknownOption id)

end LineOption

-- Without a timeout a line waits for as long as it takes.
structure LineOptions where
  receiveTimeout : Option Duration := none
  sendTimeout : Option Duration := none
deriving DecidableEq

namespace LineOptions

-- A timeout of zero means none.
def set (options : LineOptions) (option : LineOption) (value : Option Duration) : LineOptions :=
  let value := value.filter (!·.isZero)
  match option with
  | .receiveTimeout => { options with receiveTimeout := value }
  | .sendTimeout => { options with sendTimeout := value }

def get (options : LineOptions) : LineOption → Option Duration
  | .receiveTimeout => options.receiveTimeout
  | .sendTimeout => options.sendTimeout

end LineOptions

-- What a message may measure on its way in or out. The defaults are 16 MiB a frame,
-- 65536 frames, and no draining.
structure Limits where
  -- the largest frame, in octets
  maxFrameLen : UInt64 := 16777216
  -- the most frames in one message
  maxFrames : UInt64 := 65536
  -- an oversize message is read past when each of its frames is at most this long; 0 never does
  drainOversizeUpTo : UInt64 := 0
deriving DecidableEq

structure ManagerConfig where
  -- how much each direction of an in-process connection holds
  inprocBufferSize : UInt64 := 65536
  -- how often a waiting acceptor looks for a connection
  acceptPollInterval : Duration := Duration.ofMillis 5
deriving DecidableEq

-- How much of a write went out. A short one ran into its timeout after some octets.
structure WriteOutcome where
  written : Nat
  requested : Nat
deriving DecidableEq

namespace WriteOutcome

def isShort (outcome : WriteOutcome) : Bool := outcome.written < outcome.requested

-- More cannot have been written than was asked for.
def remaining (outcome : WriteOutcome) : Except Crash Nat :=
  if outcome.requested < outcome.written then .error ⟨"attempt to subtract with overflow"⟩
  else .ok (outcome.requested - outcome.written)

end WriteOutcome

end FramedLines
