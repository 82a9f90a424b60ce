import FramedLines.Json.Parser
import FramedLines.Json.Printer
import FramedLines.Options

-- Options and limits as JSON: what is missing takes its default, and an array gives the
-- fields in the order in which they are written.

namespace FramedLines

namespace Json

def word? (json : Json) : Option UInt64 := (json.below? UInt64.size).map Nat.toUInt64

def ofWord (value : UInt64) : Json := .ofNat value.toNat

-- The value in a slot, or the default of an empty one.
def slotOr? (read : Json → Option α) (default : α) : Option Json → Option α
  | none => some default
  | some json => read json

def named (name : String) (value : Json) : Option (List Char) × Json :=
  (some name.toList, value)

end Json

open Json

namespace Duration

-- Both parts are needed, and nothing else may stand beside them.
def ofJson? (json : Json) : Option Duration :=
  match json.slots? ["secs", "nanos"] true with
  | some [some secs, some nanos] => do
      let secs ← secs.below? UInt64.size
      let nanos ← nanos.below? UInt32.size
      ofParts? secs nanos
  | _ => none

def toJson (d : Duration) : Json :=
  .object [named "secs" (.ofNat d.wholeSeconds), named "nanos" (.ofNat d.subsecNanos)]

end Duration

-- A timeout or `null`.
def Json.timeout? : Json → Option (Option Duration)
  | .null => some none
  | json => (Duration.ofJson? json).map some

def Json.ofTimeout : Option Duration → Json
  | none => .null
  | some d => d.toJson

namespace LineOptions

-- A zero timeout stays as it was written.
def ofJson? (json : Json) : Option LineOptions :=
  match json.slots? ["receive_timeout", "send_timeout"] false with
  | some [receive, send] => do
      let receiveTimeout ← slotOr? timeout? none receive
      let sendTimeout ← slotOr? timeout? none send
      return { receiveTimeout, sendTimeout }
  | _ => none

def toJson (options : LineOptions) : Json :=
  .object [named "receive_timeout" (ofTimeout options.receiveTimeout),
    named "send_timeout" (ofTimeout options.sendTimeout)]

def ofText? (text : String) : Option LineOptions := (Json.parse? text).bind ofJson?

def toText (options : LineOptions) : String := options.toJson.render

end LineOptions

namespace Limits

def ofJson? (json : Json) : Option Limits :=
  let default : Limits := {}
  match json.slots? ["max_frame_len", "max_frames", "drain_oversize_up_to"] false with
  | some [frameLen, frames, drain] => do
      let maxFrameLen ← slotOr? word? default.maxFrameLen frameLen
      let maxFrames ← slotOr? word? default.maxFrames frames
      let drainOversizeUpTo ← slotOr? word? default.drainOversizeUpTo drain
      return { maxFrameLen, maxFrames, drainOversizeUpTo }
  | _ => none

def toJson (limits : Limits) : Json :=
  .object [named "max_frame_len" (ofWord limits.maxFrameLen),
    named "max_frames" (ofWord limits.maxFrames),
    named "drain_oversize_up_to" (ofWord limits.drainOversizeUpTo)]

def ofText? (text : String) : Option Limits := (Json.parse? text).bind ofJson?

def toText (limits : Limits) : String := limits.toJson.render

end Limits

namespace ManagerConfig

def ofJson? (json : Json) : Option ManagerConfig :=
  let default : ManagerConfig := {}
  match json.slots? ["inproc_buffer_size", "accept_poll_interval"] false with
  | some [size, interval] => do
      let inprocBufferSize ← slotOr? word? default.inprocBufferSize size
      let acceptPollInterval ← slotOr? Duration.ofJson? default.acceptPollInterval interval
      return { inprocBufferSize, acceptPollInterval }
  | _ => none

def toJson (config : ManagerConfig) : Json :=
  .object [named "inproc_buffer_size" (ofWord config.inprocBufferSize),
    named "accept_poll_interval" config.acceptPollInterval.toJson]

def ofText? (text : String) : Option ManagerConfig := (Json.parse? text).bind ofJson?

def toText (config : ManagerConfig) : String := config.toJson.render

end ManagerConfig

end FramedLines
