import FramedLines.IoError

-- The failures a caller can branch on, their wording, and how platform errors fall into them.

namespace FramedLines

-- The closed set of failures. Callers branch on these, so each keeps its number for good.
inductive Code where
  | io | timeout | connectionLost | bufferTooBig | connectFailure | listenFailure
  | unknownOption | invalidArgument | resolve | truncated
  | postcardEncode | postcardDecode | cborEncode | cborDecode
deriving DecidableEq

namespace Code

def id : Code → Nat
  | io => 1
  | timeout => 2
  | connectionLost => 3
  | bufferTooBig => 4
  | connectFailure => 5
  | listenFailure => 6
  | unknownOption => 7
  | invalidArgument => 8
  | resolve => 9
  | truncated => 10
  | postcardEncode => 20
  | postcardDecode => 21
  | cborEncode => 22
  | cborDecode => 23

def text : Code → String
  | io => "I/O error"
  | timeout => "Operation timed out"
  | connectionLost => "Connection lost"
  | bufferTooBig => "Buffer too big"
  | connectFailure => "Connect failed"
  | listenFailure => "Listen failed"
  | unknownOption => "Unknown line option"
  | invalidArgument => "Invalid argument"
  | resolve => "Endpoint resolution failed"
  | truncated => "Message truncated"
  | postcardEncode => "Postcard encode failed"
  | postcardDecode => "Postcard decode failed"
  | cborEncode => "CBOR encode failed"
  | cborDecode => "CBOR decode failed"

-- The number in four places, then the wording.
def render (code : Code) : String :=
  "[ERR" ++ String.ofList ((Nat.toDigits 10 (10000 + code.id)).drop 1) ++ "] " ++ code.text

end Code

-- What a fault was made from.
inductive Cause where
  | io (error : IoError)
  | codec (words : String)
deriving DecidableEq

def Cause.text : Cause → String
  | io error => error.text
  | codec words => words

-- A failure as callers see it: its code, where it happened, and what caused it.
structure Fault where
  code : Code
  context : Option String := none
  cause : Option Cause := none
deriving DecidableEq

namespace Fault

-- The latest context replaces the ones before it.
def withContext (context : String) (fault : Fault) : Fault := { fault with context := some context }

-- A wait that ran out is a timeout and a vanished peer is a lost connection. The rest is I/O.
def classify (error : IoError) : Code :=
  match error.kind with
  | .timedOut | .wouldBlock => .timeout
  | .brokenPipe | .connectionReset | .connectionAborted | .notConnected | .unexpectedEof =>
      .connectionLost
  | _ => .io

def ofIo (error : IoError) : Fault :=
  { code := classify error, context := some error.text, cause := some (.io error) }

def timeout : Fault := { code := .timeout }

def connectionLost : Fault := { code := .connectionLost }

def bufferTooBig (length limit : Nat) : Fault :=
  { code := .bufferTooBig, context := some s!"len {length} exceeds max {limit}" }

def invalidArgument (what : String) : Fault :=
  { code := .invalidArgument, context := some what }

def unknownOption (id : Int) : Fault :=
  { code := .unknownOption, context := some s!"option id {id}" }

def resolve (uri : String) : Fault := { code := .resolve, context := some s!"'{uri}'" }

def truncated (got expected : Nat) : Fault :=
  { code := .truncated, context := some s!"got {got} of {expected} bytes" }

-- An error met while dialing `address`.
def connectFailure (address : String) (error : IoError) : Fault :=
  { code := .connectFailure, context := some s!"{address}: {error.text}",
    cause := some (.io error) }

-- An error met while starting to listen on `address`.
def listenFailure (address : String) (error : IoError) : Fault :=
  { code := .listenFailure, context := some s!"{address}: {error.text}", cause := some (.io error) }

def ofCodec (code : Code) (words : String) : Fault :=
  { code, context := some words, cause := some (.codec words) }

def isTimeout (fault : Fault) : Bool := fault.code == .timeout

def isConnectionLost (fault : Fault) : Bool := fault.code == .connectionLost

def text (fault : Fault) : String :=
  match fault.context with
  | some context => fault.code.render ++ ": " ++ context
  | none => fault.code.render

-- The fault as a platform error: the nearest class, in the fault's own words.
def toIo (fault : Fault) : IoError :=
  let kind : IoKind := match fault.code with
    | .timeout => .timedOut
    | .connectionLost => .connectionReset
    | .invalidArgument | .unknownOption => .invalidInput
    | .truncated => .unexpectedEof
    | _ => .other
  .worded kind fault.text

end Fault

-- A broken contract that stops the program, with its last words.
structure Crash where
  text : String
deriving DecidableEq

-- Either way a call can come to nothing.
inductive Failure where
  | fault (fault : Fault)
  | crash (crash : Crash)
deriving DecidableEq

end FramedLines
