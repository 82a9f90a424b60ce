import FramedLines.Session

-- What a session can be asked to do that may have to wait.

namespace FramedLines

inductive Job (α : Type) where
  | done (answer : α)
  -- talks to a line
  | talk (line : LineId) (dialogue : Dialogue α)
  -- waits for a connection, to be known by a name
  | accept (acceptor : AcceptorId) (name : String) (limit : Duration) (next : Option Line → α)
  -- waits for a line of a poller to become ready
  | poll (poller : PollerId) (limit : Duration) (next : Bool → Session → α)
  -- uses a poller, once nobody else polls with it
  | use (poller : PollerId) (act : Session → α × Session)

-- The same job with another answer.
def Job.map (f : α → β) : Job α → Job β
  | done answer => .done (f answer)
  | talk line dialogue => .talk line (dialogue.bind fun answer => .done (f answer))
  | accept acceptor name limit next => .accept acceptor name limit fun line => f (next line)
  | poll poller limit next => .poll poller limit fun found session => f (next found session)
  | use poller act => .use poller fun session =>
      let (answer, session) := act session
      (f answer, session)

-- What one or several hands do at once.
inductive Plan (α : Type) where
  | alone (job : Job α)
  -- a second hand begins `delay` after the first
  | together (main : Plan α) (delay : Duration) (other : Session → Plan α × Session)
    (join : α → α → α)

namespace Session

-- Looks for a connection once.
def accept? (acceptor : AcceptorId) (name : String) (session : Session) :
    Option (Option Line × Session) :=
  match session.net.accept? acceptor with
  | none => none
  | some (none, net) => some (none, { session with net })
  | some (some id, net) => some (net.line? id, nameLine name id { session with net })

-- Carries out a job while nobody else acts. No answer means that it waits for ever.
def perform (session : Session) : Job α → Option α × Session
  | .done answer => (some answer, session)
  | .talk line dialogue =>
      let pace := session.net.host.pace
      match session.net.atLine line fun side => dialogue.run (Connection.byteLine side pace) with
      | (some (some answer), net) => (some answer, { session with net })
      | (_, net) => (none, { session with net })
  | .accept acceptor name limit next =>
      match session.accept? acceptor name with
      | some (line, session) => (some (next line), session)
      | none => (if limit.expires then some (next none) else none, session)
  | .poll poller limit next =>
      let (found, session) := session.check poller
      if found || (session.poller poller).isEmpty || limit.expires then
        (some (next found session), session)
      else (none, session)
  | .use _ act =>
      let (answer, session) := act session
      (some answer, session)

end Session

end FramedLines
