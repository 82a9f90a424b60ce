import FramedLines.Errno

-- Failed platform calls, and the classes they fall into.

namespace FramedLines

-- What class of failure a platform call reported.
inductive IoKind where
  | notFound | permissionDenied | connectionRefused | connectionReset | hostUnreachable
  | networkUnreachable | connectionAborted | notConnected | addrInUse | addrNotAvailable
  | brokenPipe | alreadyExists | wouldBlock | notADirectory | isADirectory | invalidInput
  | invalidData | timedOut | writeZero | interrupted | unsupported | unexpectedEof
  | outOfMemory | other | uncategorized
deriving DecidableEq

namespace IoKind

def text : IoKind → String
  | notFound => "entity not found"
  | permissionDenied => "permission denied"
  | connectionRefused => "connection refused"
  | connectionReset => "connection reset"
  | hostUnreachable => "host unreachable"
  | networkUnreachable => "network unreachable"
  | connectionAborted => "connection aborted"
  | notConnected => "not connected"
  | addrInUse => "address in use"
  | addrNotAvailable => "address not available"
  | brokenPipe => "broken pipe"
  | alreadyExists => "entity already exists"
  | wouldBlock => "operation would block"
  | notADirectory => "not a directory"
  | isADirectory => "is a directory"
  | invalidInput => "invalid input parameter"
  | invalidData => "invalid data"
  | timedOut => "timed out"
  | writeZero => "write zero"
  | interrupted => "operation interrupted"
  | unsupported => "unsupported"
  | unexpectedEof => "unexpected end of file"
  | outOfMemory => "out of memory"
  | other => "other error"
  | uncategorized => "uncategorized error"

end IoKind

-- The class of an error number. Most numbers have none of their own.
def Errno.kind (e : Errno) : IoKind :=
  match e.number with
  | 1 | 13 => .permissionDenied
  | 2 => .notFound
  | 4 => .interrupted
  | 11 => .wouldBlock
  | 12 => .outOfMemory
  | 17 => .alreadyExists
  | 20 => .notADirectory
  | 21 => .isADirectory
  | 22 => .invalidInput
  | 32 => .brokenPipe
  | 38 => .unsupported
  | 95 => .unsupported
  | 98 => .addrInUse
  | 99 => .addrNotAvailable
  | 101 => .networkUnreachable
  | 103 => .connectionAborted
  | 104 => .connectionReset
  | 107 => .notConnected
  | 110 => .timedOut
  | 111 => .connectionRefused
  | 113 => .hostUnreachable
  | _ => .uncategorized

-- A failed platform call: a class alone, a class with its own words, or an error number.
inductive IoError where
  | bare (kind : IoKind)
  | worded (kind : IoKind) (words : String)
  | os (errno : Errno)
deriving DecidableEq

namespace IoError

def kind : IoError → IoKind
  | bare kind => kind
  | worded kind _ => kind
  | os errno => errno.kind

def text : IoError → String
  | bare kind => kind.text
  | worded _ words => words
  | os errno => errno.text

end IoError

end FramedLines
