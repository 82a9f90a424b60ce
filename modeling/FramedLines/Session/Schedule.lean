import FramedLines.Session.Job

-- Several jobs at once. Each goes on for as long as it can without waiting; when all wait, time
-- passes to the next moment at which something is due.

namespace FramedLines

-- A job under way. Time is in nanoseconds.
structure Run (α : Type) where
  job : Job α
  -- when the call it is in began
  since : Nat
  -- how far the write has got that it is in
  sending : Option Sending := none
  -- it has looked for what it waits for, and looks again at `wake`
  looked : Bool := false
  wake : Option Nat := none

-- What a job comes to at some moment.
inductive Turn (α : Type) where
  | moved (run : Run α) (session : Session)
  | over (answer : α) (session : Session)
  -- it waits, to go on at the latest when its time is up
  | waits (session : Session) (wake : Option Nat)

namespace Run

-- When a wait ends by itself that began at `since`.
def due (since : Nat) (limit : Option Duration) : Option Nat :=
  (limit.filter Duration.expires).map fun limit => since + limit.nanos

def talking (line : LineId) (dialogue : Dialogue α) (now : Nat) : Run α :=
  { job := .talk line dialogue, since := now }

def withConnection (session : Session) (line : LineId) (connection : Connection) : Session :=
  { session with net := session.net.update line fun _ => connection }

-- Intervals below a millisecond leave no time in which a dial could wait.
def lookInterval? (acceptor : AcceptorId) (session : Session) : Option Duration :=
  (session.net.lookInterval? acceptor).filter fun interval =>
    Duration.millisecond ≤ interval.nanos

-- One look for a connection, and when the next one is.
def lookOut (now : Nat) (interval : Duration) (acceptor : AcceptorId) (name : String)
    (limit : Duration) (next : Option Line → α) (run : Run α) (session : Session) : Turn α :=
  match session.accept? acceptor name with
  | some (line, session) => .over (next line) session
  | none =>
      match due run.since (some limit) with
      | none => .moved { run with looked := true, wake := some (now + interval.nanos) } session
      | some moment =>
          if moment ≤ now then .over (next none) session
          else
            let wake := now + min (moment - now) interval.nanos
            .moved { run with looked := true, wake := some wake } session

-- One look at all lines of a poller, and when the next one is. Until then nobody else can use
-- the poller.
def lookOver (now : Nat) (poller : PollerId) (limit : Duration) (next : Bool → Session → α)
    (run : Run α) (session : Session) : Turn α :=
  let (found, session) := session.check poller
  if found || (session.poller poller).isEmpty then
    let session := session.disengage poller
    .over (next found session) session
  else
    let left := (due run.since (some limit)).map (· - now)
    let wake := ((session.poller poller).rest left).map (now + ·)
    .moved { run with looked := true, wake } (session.engage poller)

-- One call of a job, or one attempt of a write.
def step (now : Nat) (run : Run α) (session : Session) : Turn α :=
  match run.job with
  | .done answer => .over answer session
  | .talk _ (.done answer) => .over answer session
  | .talk line (.read room next) =>
      match session.net.connection? line with
      | none => .waits session none
      | some connection =>
          match connection.read? line.side room with
          | some (answer, connection) =>
              .moved (talking line (next answer) now) (withConnection session line connection)
          | none => .waits session (due run.since (connection.link.readLimit line.side))
  | .talk line (.write data next) =>
      match session.net.connection? line with
      | none => .waits session none
      | some connection =>
          match run.sending with
          | none =>
              match connection.begin line.side data with
              | .ok sending => .moved { run with sending } session
              | .error fault => .moved (talking line (next (.error fault)) now) session
          | some sending =>
              let spent := now - run.since + session.net.host.pace
              match connection.attempt line.side (connection.left line.side spent) sending with
              | (some (.going sending), connection) =>
                  .moved { run with sending } (withConnection session line connection)
              | (some (.ended result), connection) =>
                  .moved (talking line (next result) now) (withConnection session line connection)
              | (none, connection) =>
                  .waits (withConnection session line connection)
                    (due run.since (connection.line line.side).sendLimit)
  | .accept acceptor name limit next =>
      match lookInterval? acceptor session with
      | some interval =>
          if run.looked then .waits session run.wake
          else run.lookOut now interval acceptor name limit next session
      | none =>
          match session.accept? acceptor name with
          | some (line, session) => .over (next line) session
          | none => .waits session (due run.since (some limit))
  | .poll poller limit next =>
      if run.looked then
        let (found, session) := session.notice poller
        if found then
          let session := session.disengage poller
          .over (next true session) session
        else .waits session run.wake
      else if session.isEngaged poller then .waits session none
      else { run with since := now }.lookOver now poller limit next session
  | .use poller act =>
      if session.isEngaged poller then .waits session none
      else
        let (answer, session) := act session
        .over answer session

-- What becomes of a job whose wait has reached its limit.
def expire (now : Nat) (run : Run α) (session : Session) : Turn α :=
  match run.job with
  | .done answer => .over answer session
  | .talk _ (.done answer) => .over answer session
  | .talk line (.read _ next) =>
      match session.net.connection? line with
      | none => .waits session none
      | some connection => .moved (talking line (next (.error connection.timedOut)) now) session
  | .talk line (.write _ next) =>
      match session.net.connection? line, run.sending with
      | some connection, some sending =>
          match sending.advance (.failed connection.link.timedOut) with
          | .ended result => .moved (talking line (next result) now) session
          | .going sending => .moved { run with sending } session
      | _, _ => .waits session none
  | .accept acceptor name limit next =>
      match lookInterval? acceptor session with
      | some interval => run.lookOut now interval acceptor name limit next session
      | none => .over (next none) session
  | .poll poller limit next =>
      if (due run.since (some limit)).any (· ≤ now) then
        let session := session.disengage poller
        .over (next false session) session
      else run.lookOver now poller limit next session
  | .use _ act =>
      let (answer, session) := act session
      .over answer session

end Run

-- The earlier of two moments, if there are any.
def earlier : Option Nat → Option Nat → Option Nat
  | some one, some other => some (min one other)
  | some one, none => some one
  | none, other => other

-- A plan from before its start to after its end.
inductive Stage (α : Type) where
  | ahead (start : Nat) (begin : Session → Plan α × Session)
  | under (run : Run α)
  | both (main other : Stage α) (join : α → α → α)
  | over (answer : α)

namespace Stage

def start (now : Nat) : Plan α → Stage α
  | .alone job => .under { job, since := now }
  | .together main delay other join =>
      .both (start now main) (.ahead (now + delay.nanos) other) join

-- Moves a plan on if any part of it can move now, the main part first. Otherwise it says when
-- it next might by itself.
def step (now : Nat) : Stage α → Session → Option (Stage α) × Session × Option Nat
  | .over _, session => (none, session, none)
  | .ahead moment begin, session =>
      if moment ≤ now then
        let (plan, session) := begin session
        (some (start now plan), session, none)
      else (none, session, some moment)
  | .under run, session =>
      let settle : Turn α → Option (Stage α) × Session × Option Nat
        | .moved run session => (some (.under run), session, none)
        | .over answer session => (some (.over answer), session, none)
        | .waits session wake => (none, session, wake)
      match run.step now session with
      | .waits session (some wake) =>
          if wake ≤ now then settle (run.expire now session) else (none, session, some wake)
      | turn => settle turn
  | .both (.over one) (.over other) join, session =>
      (some (.over (join one other)), session, none)
  | .both main other join, session =>
      match main.step now session with
      | (some main, session, _) => (some (.both main other join), session, none)
      | (none, session, wake) =>
          match other.step now session with
          | (some other, session, _) => (some (.both main other join), session, none)
          | (none, session, otherWake) => (none, session, earlier wake otherWake)

end Stage

namespace Session

-- Carries a plan on for up to so many steps. No answer means that a part of it waits for ever.
def proceed : (steps now : Nat) → Stage α → Session → Option α × Session
  | 0, _, _, session => (none, session)
  | _, _, .over answer, session => (some answer, session)
  | steps + 1, now, stage, session =>
      match stage.step now session with
      | (some stage, session, _) => proceed steps now stage session
      | (none, session, some moment) => proceed steps moment stage session
      | (none, session, none) => (none, session)

-- More steps than there are octets to move and calls to make.
def patience : Nat := 1 <<< 60

def conduct (plan : Plan α) (session : Session) : Option α × Session :=
  proceed patience 0 (.start 0 plan) session

end Session

end FramedLines
