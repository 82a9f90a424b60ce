import FramedLines.Proofs.Sessions
import FramedLines.Session.Schedule

-- Jobs, whether they are carried out alone or in turns with others, do nothing to a session that
-- acts do not do.

namespace FramedLines

namespace Net

variable {net : Net} {id : LineId} {c : Connection}

theorem connection?_update (h : net.connection? id = some c) (f : Connection → Connection) :
    (net.update id f).connection? id = some (f c) := by
  cases id with
  | hub number connection side =>
      obtain ⟨hub, hhub, hc⟩ := Option.bind_eq_some_iff.mp h
      simp [connection?, update, hhub, Hub.updateConnection, hc]
  | socket connection side =>
      have hc : net.host.connections[connection]? = some c := h
      simp [connection?, update, Host.updateConnection, hc]

theorem update_update (f g : Connection → Connection) :
    (net.update id f).update id g = net.update id (g ∘ f) := by
  cases id <;>
    simp [update, Hub.updateConnection, Host.updateConnection, List.modify_modify_eq,
      Function.comp_def]

theorem update_self (h : net.connection? id = some c) : (net.update id fun _ => c) = net := by
  cases id with
  | hub number connection side =>
      obtain ⟨hub, hhub, hc⟩ := Option.bind_eq_some_iff.mp h
      have hself : (hub.connections.modify connection fun _ => c) =
          hub.connections.modify connection id :=
        modify_congr fun other hother => (Option.some.inj (hother.symm.trans hc)).symm
      have hhubs : (net.hubs.modify number fun hub => hub.updateConnection connection fun _ => c) =
          net.hubs.modify number id := by
        refine modify_congr fun other hother => ?_
        cases hhub.symm.trans hother
        rw [Hub.updateConnection, hself, List.modify_id]
        rfl
      rw [update, hhubs, List.modify_id]
  | socket connection side =>
      have hc : net.host.connections[connection]? = some c := h
      have hself : (net.host.connections.modify connection fun _ => c) =
          net.host.connections.modify connection id :=
        modify_congr fun other hother => (Option.some.inj (hother.symm.trans hc)).symm
      rw [update, Host.updateConnection, hself, List.modify_id]

end Net

namespace Session

open Run (withConnection)

-- Some acts make the one session of the other.
def Reaches (session next : Session) : Prop := ∃ acts, performAll acts session = next

namespace Reaches

variable {session middle next : Session}

theorem refl (session : Session) : session.Reaches session := ⟨[], rfl⟩

theorem trans (h : session.Reaches middle) (hmore : middle.Reaches next) :
    session.Reaches next := by
  obtain ⟨acts, rfl⟩ := h
  obtain ⟨more, rfl⟩ := hmore
  exact ⟨acts ++ more, List.foldl_append⟩

theorem act (act : Act) (session : Session) : session.Reaches (act.perform session) :=
  ⟨[act], rfl⟩

theorem tail (h : session.Reaches middle) (act : Act) : session.Reaches (act.perform middle) :=
  h.trans (.act act middle)

theorem accept? {acceptor : AcceptorId} {name : String} {line? : Option Line}
    (haccept : session.accept? acceptor name = some (line?, next)) : session.Reaches next := by
  have h := Reaches.act (.accept acceptor name) session
  simpa only [Act.perform, haccept] using h

section Calls

variable {line : LineId} {c after : Connection}

theorem ask (request : Connection.Call) (hconnection : session.net.connection? line = some c)
    (hclose : request ≠ .close) (hafter : (request.perform line.side c).2 = after) :
    session.Reaches (withConnection session line after) := by
  have h := Reaches.act (.ask line request) session
  rwa [Act.perform, Net.call_of_connection hclose hconnection, hafter] at h

theorem connection?_withConnection (hconnection : session.net.connection? line = some c)
    (after : Connection) : (withConnection session line after).net.connection? line = some after :=
  Net.connection?_update hconnection fun _ => after

theorem withConnection_self (hconnection : session.net.connection? line = some c) :
    withConnection session line c = session := by
  rw [withConnection, Net.update_self hconnection]

-- Of a line's connection only what it was last is left.
theorem withConnection_trans (h : session.Reaches (withConnection session line c))
    (hmore : (withConnection session line c).Reaches
      (withConnection (withConnection session line c) line after)) :
    session.Reaches (withConnection session line after) := by
  have hlast : withConnection (withConnection session line c) line after =
      withConnection session line after := by
    simp only [withConnection, Net.update_update]
    rfl
  rw [hlast] at hmore
  exact h.trans hmore

-- What is said to a line is said call by call.
theorem run (dialogue : Dialogue α) (hconnection : session.net.connection? line = some c)
    (spent : Nat) :
    session.Reaches
      (withConnection session line (dialogue.run (Connection.byteLine line.side spent) c).2) := by
  induction dialogue generalizing session c with
  | done answer =>
      rw [Dialogue.run, withConnection_self hconnection]
      exact .refl session
  | read room next ih =>
      rcases hread : c.read line.side room with ⟨answer?, after⟩
      have hasked : session.Reaches (withConnection session line after) :=
        ask (.read room) hconnection (by simp) (congrArg Prod.snd hread)
      simp only [Dialogue.run, Connection.byteLine, hread]
      cases answer? with
      | none => exact hasked
      | some answer =>
          exact withConnection_trans hasked
            (ih answer (connection?_withConnection hconnection after))
  | write data next ih =>
      rcases hwrite : c.write line.side data spent with ⟨answer?, after⟩
      have hasked : session.Reaches (withConnection session line after) :=
        ask (.write data spent) hconnection (by simp) (congrArg Prod.snd hwrite)
      simp only [Dialogue.run, Connection.byteLine, hwrite]
      cases answer? with
      | none => exact hasked
      | some answer =>
          exact withConnection_trans hasked
            (ih answer (connection?_withConnection hconnection after))

end Calls

end Reaches

end Session

-- Whoever uses a poller does so by acts.
def Job.Plain (job : Job α) : Prop :=
  ∀ (poller : PollerId) (act : Session → α × Session), job = .use poller act →
    ∀ session : Session, session.Reaches (act session).2

theorem Session.perform_reaches {job : Job α} (hplain : job.Plain) (session : Session) :
    session.Reaches (session.perform job).2 := by
  cases job with
  | done answer => exact .refl session
  | talk line dialogue =>
      simp only [perform, Net.atLine]
      cases hconnection : session.net.connection? line with
      | none => exact .refl session
      | some c =>
          have hrun := Reaches.run dialogue hconnection session.net.host.pace
          rcases hanswer :
            dialogue.run (Connection.byteLine line.side session.net.host.pace) c with
            ⟨_ | answer, after⟩
          all_goals
            simp only [hanswer] at hrun ⊢
            exact hrun
  | accept acceptor name limit next =>
      simp only [perform]
      rcases haccept : session.accept? acceptor name with _ | ⟨line?, after⟩
      · exact .refl session
      · exact .accept? haccept
  | poll poller limit next =>
      have hcheck := Reaches.act (.check poller) session
      simp only [perform]
      split <;> exact hcheck
  | use poller act => exact hplain poller act rfl session

-- A turn leaves what acts can leave, and does not turn its job into one that does more.
inductive Turn.Follows (session : Session) : Turn α → Prop where
  | moved {run : Run α} {after : Session} (hreaches : session.Reaches after)
      (hplain : run.job.Plain) : Follows session (.moved run after)
  | over {answer : α} {after : Session} (hreaches : session.Reaches after) :
      Follows session (.over answer after)
  | waits {after : Session} {wake : Option Nat} (hreaches : session.Reaches after) :
      Follows session (.waits after wake)

theorem Turn.Follows.talking {session after : Session} (hreaches : session.Reaches after)
    (line : LineId) (dialogue : Dialogue α) (now : Nat) :
    Turn.Follows session (.moved (Run.talking line dialogue now) after) :=
  .moved hreaches fun _ _ huse => by cases huse

namespace Run

variable {run : Run α}

theorem lookOut_follows (hplain : run.job.Plain) (now : Nat) (interval : Duration)
    (acceptor : AcceptorId) (name : String) (limit : Duration) (next : Option Line → α)
    (session : Session) :
    Turn.Follows session (run.lookOut now interval acceptor name limit next session) := by
  unfold lookOut
  rcases haccept : session.accept? acceptor name with _ | ⟨line?, after⟩
  · simp only
    split
    · exact .moved (.refl session) hplain
    · split
      · exact .over (.refl session)
      · exact .moved (.refl session) hplain
  · exact .over (.accept? haccept)

theorem lookOver_follows (hplain : run.job.Plain) (now : Nat) (poller : PollerId)
    (limit : Duration) (next : Bool → Session → α) (session : Session) :
    Turn.Follows session (run.lookOver now poller limit next session) := by
  have hcheck := Session.Reaches.act (.check poller) session
  unfold lookOver
  simp only
  split
  · exact .over (hcheck.tail (.disengage poller))
  · exact .moved (hcheck.tail (.engage poller)) hplain

theorem step_follows (hplain : run.job.Plain) (now : Nat) (session : Session) :
    Turn.Follows session (run.step now session) := by
  unfold step
  split
  · exact .over (.refl session)
  · exact .over (.refl session)
  · next line room next hjob =>
      split
      · exact .waits (.refl session)
      · next c hconnection =>
          split
          · next answer after hread =>
              have hanswered : c.read line.side room = (some answer, after) := by
                simp only [Connection.read, hread]
              have hasked : session.Reaches (withConnection session line after) :=
                .ask (.read room) hconnection (by simp) (congrArg Prod.snd hanswered)
              exact .talking hasked ..
          · exact .waits (.refl session)
  · next line data next hjob =>
      split
      · exact .waits (.refl session)
      · next c hconnection =>
          split
          · split
            · exact .moved (.refl session) hplain
            · exact .talking (.refl session) ..
          · next sending hsending =>
              have hmade {left : Option Duration} {progress? : Option Progress}
                  {after : Connection}
                  (hattempt : c.attempt line.side left sending = (progress?, after)) :
                  session.Reaches (withConnection session line after) :=
                .ask (.attempt left sending) hconnection (by simp) (congrArg Prod.snd hattempt)
              simp only
              split
              · next hattempt => exact .moved (hmade hattempt) hplain
              · next hattempt => exact .talking (hmade hattempt) ..
              · next hattempt => exact .waits (hmade hattempt)
  · next acceptor name limit next hjob =>
      split
      · split
        · exact .waits (.refl session)
        · exact lookOut_follows hplain ..
      · split
        · next haccept => exact .over (.accept? haccept)
        · exact .waits (.refl session)
  · next poller limit next hjob =>
      split
      · have hnotice := Session.Reaches.act (.notice poller) session
        simp only
        split
        · exact .over (hnotice.tail (.disengage poller))
        · exact .waits hnotice
      · split
        · exact .waits (.refl session)
        · have hbegun : ({ run with since := now } : Run α).job.Plain := hplain
          exact lookOver_follows hbegun ..
  · next poller act hjob =>
      split
      · exact .waits (.refl session)
      · exact .over (hplain poller act hjob session)

theorem expire_follows (hplain : run.job.Plain) (now : Nat) (session : Session) :
    Turn.Follows session (run.expire now session) := by
  unfold expire
  split
  · exact .over (.refl session)
  · exact .over (.refl session)
  · split
    · exact .waits (.refl session)
    · exact .talking (.refl session) ..
  · split
    · split
      · exact .talking (.refl session) ..
      · exact .moved (.refl session) hplain
    · exact .waits (.refl session)
  · split
    · exact lookOut_follows hplain ..
    · exact .over (.refl session)
  · next poller limit next hjob =>
      split
      · exact .over (.act (.disengage poller) session)
      · exact lookOver_follows hplain ..
  · next poller act hjob => exact .over (hplain poller act hjob session)

end Run

-- Everybody who takes part in a plan goes by acts.
inductive Plan.Plain : Plan α → Prop where
  | alone {job : Job α} (hjob : job.Plain) : Plain (.alone job)
  | together {main : Plan α} {delay : Duration} {other : Session → Plan α × Session}
      {join : α → α → α} (hmain : Plain main) (hother : ∀ session, Plain (other session).1)
      (hbegin : ∀ session : Session, session.Reaches (other session).2) :
      Plain (.together main delay other join)

inductive Stage.Plain : Stage α → Prop where
  | ahead {start : Nat} {begin : Session → Plan α × Session}
      (hplan : ∀ session, (begin session).1.Plain)
      (hbegin : ∀ session : Session, session.Reaches (begin session).2) :
      Plain (.ahead start begin)
  | under {run : Run α} (hjob : run.job.Plain) : Plain (.under run)
  | both {main other : Stage α} {join : α → α → α} (hmain : Plain main) (hother : Plain other) :
      Plain (.both main other join)
  | over (answer : α) : Plain (.over answer)

theorem Plan.Plain.start {plan : Plan α} (h : plan.Plain) (now : Nat) :
    (Stage.start now plan).Plain := by
  induction h with
  | alone hjob => exact .under hjob
  | together hmain hother hbegin ih => exact .both ih (.ahead hother hbegin)

namespace Stage

inductive Follows (session : Session) : Option (Stage α) × Session × Option Nat → Prop where
  | moved {stage : Stage α} {after : Session} {wake : Option Nat}
      (hreaches : session.Reaches after) (hplain : stage.Plain) :
      Follows session (some stage, after, wake)
  | waits {after : Session} {wake : Option Nat} (hreaches : session.Reaches after) :
      Follows session (none, after, wake)

theorem step_under_follows {run : Run α} (hjob : run.job.Plain) (now : Nat) (session : Session) :
    Follows session ((Stage.under run).step now session) := by
  have hturn := run.step_follows hjob now session
  simp only [step]
  generalize run.step now session = turn at hturn ⊢
  cases hturn with
  | moved hreaches hplain => exact .moved hreaches (.under hplain)
  | «over» hreaches => exact .moved hreaches (.over _)
  | @waits after wake hreaches =>
      cases wake with
      | none => exact .waits hreaches
      | some wake =>
          simp only
          split
          · have hexpired := run.expire_follows hjob now after
            generalize run.expire now after = turn at hexpired ⊢
            cases hexpired with
            | moved hmore hplain => exact .moved (hreaches.trans hmore) (.under hplain)
            | «over» hmore => exact .moved (hreaches.trans hmore) (.over _)
            | waits hmore => exact .waits (hreaches.trans hmore)
          · exact .waits hreaches

-- What one step of a stage preserves.
theorem step_follows {stage : Stage α} (hplain : stage.Plain) (now : Nat) (session : Session) :
    Follows session (stage.step now session) := by
  induction hplain generalizing session with
  | «over» answer => exact .waits (.refl session)
  | ahead hplan hbegin =>
      simp only [step]
      split
      · exact .moved (hbegin session) ((hplan session).start now)
      · exact .waits (.refl session)
  | under hjob => exact step_under_follows hjob now session
  | @both main other join hmain hother ihmain ihother =>
      by_cases hover : ∃ one two, main = .over one ∧ other = .over two
      · obtain ⟨one, two, rfl, rfl⟩ := hover
        exact .moved (.refl session) (.over _)
      · rw [step]
        · have hfirst := ihmain session
          generalize main.step now session = result at hfirst ⊢
          cases hfirst with
          | moved hreaches hplain => exact .moved hreaches (.both hplain hother)
          | @waits after wake hreaches =>
              have hsecond := ihother after
              simp only
              generalize other.step now after = result at hsecond ⊢
              cases hsecond with
              | moved hmore hplain => exact .moved (hreaches.trans hmore) (.both hmain hplain)
              | waits hmore => exact .waits (hreaches.trans hmore)
        · exact fun one two hone htwo => hover ⟨one, two, hone, htwo⟩

end Stage

namespace Session

theorem proceed_reaches {steps now : Nat} {stage : Stage α} (hplain : stage.Plain)
    (session : Session) : session.Reaches (proceed steps now stage session).2 := by
  induction steps generalizing now stage session with
  | zero => exact .refl session
  | succ steps ih =>
      by_cases hover : ∃ answer, stage = .over answer
      · obtain ⟨answer, rfl⟩ := hover
        exact .refl session
      · rw [proceed]
        · have hstep := Stage.step_follows hplain now session
          generalize stage.step now session = result at hstep ⊢
          cases hstep with
          | moved hreaches hnext => exact hreaches.trans (ih hnext _)
          | @waits after wake hreaches =>
              cases wake with
              | none => exact hreaches
              | some moment => exact hreaches.trans (ih hplain after)
        · exact fun answer hanswer => hover ⟨answer, hanswer⟩

-- Whatever several hands do at once could have been done act by act.
theorem conduct_reaches {plan : Plan α} (hplain : plan.Plain) (session : Session) :
    session.Reaches (session.conduct plan).2 :=
  proceed_reaches (hplain.start 0) session

end Session

end FramedLines
