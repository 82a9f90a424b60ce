-- Addresses of TCP sockets: a host by its number, and a port.

namespace FramedLines

inductive IpAddress where
  -- four octets
  | v4 (octets : List Nat)
  -- eight groups of sixteen bits, and the number of the interface when that matters
  | v6 (groups : List Nat) (scope : Nat)
deriving DecidableEq

namespace IpAddress

def loopback : IpAddress := v4 [127, 0, 0, 1]

-- An address of the older family inside the newer one.
def mapped? (groups : List Nat) : Option (List Nat) :=
  match groups with
  | [0, 0, 0, 0, 0, 0xFFFF, high, low] => some [high / 256, high % 256, low / 256, low % 256]
  | _ => none

-- The same address, in the older family when it has one there.
def canonical : IpAddress → IpAddress
  | v4 octets => v4 octets
  | v6 groups scope => match mapped? groups with
      | some octets => v4 octets
      | none => v6 groups scope

-- Stands for every address of the host.
def isUnspecified : IpAddress → Bool
  | v4 octets => octets.all (· == 0)
  | v6 groups _ => groups.all (· == 0)

def isLoopback : IpAddress → Bool
  | v4 octets => octets.head? == some 127
  | v6 groups _ => groups == [0, 0, 0, 0, 0, 0, 0, 1]

-- For a whole group of hosts.
def isMulticast : IpAddress → Bool
  | v4 octets => (octets.head?.map (· / 16)) == some 14
  | v6 groups _ => (groups.head?.map (· / 0x100)) == some 0xFF

-- For everybody on the network.
def isBroadcast : IpAddress → Bool
  | v4 octets => octets.all (· == 255)
  | v6 .. => false

-- Means something on one interface only.
def isLinkLocal : IpAddress → Bool
  | v4 _ => false
  | v6 groups _ => (groups.head?.map (· / 0x40)) == some 0x3FA

def dotted (octets : List Nat) : String := String.intercalate "." (octets.map toString)

def colons (groups : List Nat) : String :=
  String.intercalate ":" (groups.map fun group => String.ofList (Nat.toDigits 16 group))

-- How many zeros stand in front.
def zeros (groups : List Nat) : Nat := (groups.takeWhile (· == 0)).length

-- Where the longest run of zeros starts that comes first, and how long it is.
def longestZeros : List Nat → Nat × Nat
  | [] => (0, 0)
  | group :: groups =>
      let here := zeros (group :: groups)
      let (start, length) := longestZeros groups
      if length ≤ here then (0, here) else (start + 1, length)

-- Two or more zero groups may be left out, once.
def groupsText (groups : List Nat) : String :=
  match mapped? groups with
  | some octets => "::ffff:" ++ dotted octets
  | none =>
      let (start, length) := longestZeros groups
      if length < 2 then colons groups
      else colons (groups.take start) ++ "::" ++ colons (groups.drop (start + length))

-- As it stands before a port.
def text : IpAddress → String
  | v4 octets => dotted octets
  | v6 groups scope =>
      let interface := if scope = 0 then "" else "%" ++ toString scope
      "[" ++ groupsText groups ++ interface ++ "]"

end IpAddress

structure InetAddress where
  host : IpAddress
  port : Nat
deriving DecidableEq

namespace InetAddress

def text (address : InetAddress) : String := address.host.text ++ ":" ++ toString address.port

-- Whether a socket at `one` takes everything that comes to `other`.
def covers (one other : IpAddress) : Bool :=
  match one.canonical, other.canonical with
  | .v4 octets, .v4 others => octets == others || (IpAddress.v4 octets).isUnspecified
  | .v6 groups _, .v6 others _ => groups == others || (IpAddress.v6 groups 0).isUnspecified
  | .v6 groups _, .v4 _ => (IpAddress.v6 groups 0).isUnspecified
  | .v4 _, .v6 .. => false

-- Whether two sockets would stand in each other's way.
def conflicts (one other : InetAddress) : Bool :=
  one.port == other.port && (covers one.host other.host || covers other.host one.host)

end InetAddress

end FramedLines
