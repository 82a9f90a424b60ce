import FramedLines.Endpoint
import FramedLines.Options

-- A line as its owner holds it, apart from what carries its octets.

namespace FramedLines

structure Line where
  endpoint : Endpoint
  options : LineOptions := {}
  closed : Bool := false
deriving DecidableEq

namespace Line

-- What every call on a closed line meets.
def closedFault : Fault := Fault.connectionLost.withContext "line is closed"

-- By when a write has to be through. A limit beyond the reach of clocks is none.
def sendLimit (line : Line) : Option Duration := line.options.sendTimeout.filter Duration.expires

end Line

end FramedLines
