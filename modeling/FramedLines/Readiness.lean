-- What can be said about one end of a connection without touching it.

namespace FramedLines

structure Readiness where
  -- a read would return at once
  readable : Bool
  -- a write would take something at once
  writable : Bool
  -- the other end has let go
  hungUp : Bool
  -- the connection is broken, or is no longer ours to ask about
  failed : Bool := false
deriving DecidableEq

end FramedLines
