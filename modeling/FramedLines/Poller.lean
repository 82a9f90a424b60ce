import FramedLines.Net

-- Pollers: which lines of a set are ready for what. A poller keeps no line; it looks at what
-- there is to see of them from outside. Descriptors tell when something happens, pipes do not.

namespace FramedLines

-- Conditions to watch for, or to report.
structure Events where
  -- a read will not wait: octets are there or the other end has let go
  read : Bool := false
  -- a write will take an octet without waiting
  write : Bool := false
  -- the line failed, which is reported in any case
  error : Bool := false
deriving DecidableEq

namespace Events

def isEmpty (events : Events) : Bool := !events.read && !events.write && !events.error

end Events

-- What to report to those who watch for `interest`. A hang-up reads as the end of the stream, and
-- is a failure to those who do not watch for reads.
def Readiness.events (readiness : Readiness) (interest : Events) : Events where
  read := interest.read && (readiness.readable || readiness.hungUp)
  write := interest.write && readiness.writable
  error := readiness.failed || (readiness.hungUp && !interest.read)

structure Watch where
  key : Nat
  source : Source
  interest : Events
deriving DecidableEq

structure Poller where
  watches : List Watch := []
  -- what the latest poll found, under the keys
  ready : List (Nat × Events) := []
  nextKey : Nat := 0
  -- how often in-process lines are looked at during a wait
  interval : Duration := Duration.ofMillis 5
deriving DecidableEq

namespace Poller

-- An interval is a millisecond at least.
def withInterval (interval : Duration) : Poller :=
  let least := Duration.ofMillis 1
  { interval := if interval.nanos < least.nanos then least else interval }

def length (poller : Poller) : Nat := poller.watches.length

def isEmpty (poller : Poller) : Bool := poller.watches.isEmpty

-- Watches a line under a new key, unless there is nothing to see of it. Keys count up and are
-- never given twice.
def add (source? : Option Source) (interest : Events) (poller : Poller) :
    Except Fault (Nat × Poller) :=
  if interest.isEmpty then .error (Fault.invalidArgument "no events requested")
  else
    match source? with
    | none => .error (Fault.connectionLost.withContext "cannot poll a closed line")
    | some source =>
        let watch : Watch := { key := poller.nextKey, source, interest }
        .ok (poller.nextKey,
          { poller with watches := poller.watches ++ [watch], nextKey := poller.nextKey + 1 })

-- Whether the key was watched, and the poller without it.
def remove (key : Nat) (poller : Poller) : Bool × Poller :=
  (poller.watches.any (·.key == key),
    { poller with
      watches := poller.watches.filter (·.key != key)
      ready := poller.ready.filter (·.1 != key) })

-- What there is to report of some of the lines, under their keys.
def found (look : Source → Readiness) (watches : List Watch) : List (Nat × Events) :=
  watches.filterMap fun watch =>
    let events := (look watch.source).events watch.interest
    if events.isEmpty then none else some (watch.key, events)

-- Looks at every line once, and forgets what was found before.
def check (look : Source → Readiness) (poller : Poller) : Bool × Poller :=
  let ready := found look poller.watches
  (!ready.isEmpty, { poller with ready })

-- What the descriptors tell in the middle of a rest.
def notice (look : Source → Readiness) (poller : Poller) : Bool × Poller :=
  let ready := found look (poller.watches.filter fun watch => !watch.source.isPipes)
  (!ready.isEmpty, { poller with ready })

-- The most milliseconds that one rest can last.
def longestRest : Nat := 2147483647

-- How many nanoseconds to rest between two looks, with `left` to go when the poll is limited.
-- Pipes are looked at every interval. Rests are counted in whole milliseconds, rounded up.
def rest (left : Option Nat) (poller : Poller) : Option Nat :=
  let wanted :=
    if poller.watches.any (·.source.isPipes) then
      some ((left.map (min poller.interval.nanos)).getD poller.interval.nanos)
    else left
  wanted.map fun nanos =>
    let millis := (nanos + (Duration.millisecond - 1)) / Duration.millisecond
    min millis longestRest * Duration.millisecond

-- A poll while nobody else acts. No answer means that it waits for ever; with nothing to watch
-- it does not wait at all.
def poll (look : Source → Readiness) (limit : Duration) (poller : Poller) : Option Bool × Poller :=
  match poller.check look with
  | (true, poller) => (some true, poller)
  | (false, poller) =>
      (if poller.isEmpty || limit.expires then some false else none, poller)

-- What the latest poll found under a key.
def eventsFor (key : Nat) (poller : Poller) : Events := (poller.ready.lookup key).getD {}

end Poller

end FramedLines
