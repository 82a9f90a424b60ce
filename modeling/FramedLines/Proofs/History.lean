import FramedLines.Proofs.Calls
import FramedLines.Session.Job

-- What programs do with one hub: a history of acts, and what each of them did to the hub.

namespace FramedLines

namespace Hub

-- Waits for a connection for as long as the limit allows, while nobody else acts.
def wait (number : Nat) (limit : Duration) (hub : Hub) : Option (Option Nat) × Hub :=
  match hub.accept? number with
  | some (dialed?, hub) => (some dialed?, hub)
  | none => (if limit.expires then some none else none, hub)

-- Whoever waits is given the oldest dial that does, and gets nothing only when there is none.
theorem wait_cases (hub : Hub) (number : Nat) (limit : Duration) :
    (∃ listener dialed pending, hub.listeners[number]? = some listener ∧
      listener.closed = false ∧ listener.pending = dialed :: pending ∧
      hub.wait number limit = (some (some dialed),
        hub.updateListener number fun listener => { listener with pending })) ∨
    (∀ listener, hub.listeners[number]? = some listener →
      listener.closed = true ∨ listener.pending = []) ∧
      (hub.wait number limit = (none, hub) ∨ hub.wait number limit = (some none, hub)) := by
  cases hlistener : hub.listeners[number]? with
  | none => exact .inr ⟨by simp, .inr (by simp only [wait, accept?, hlistener])⟩
  | some listener =>
      cases hclosed : listener.closed with
      | true =>
          refine .inr ⟨fun other hother => ?_, .inr ?_⟩
          · cases hother
            exact .inl hclosed
          · simp only [wait, accept?, hlistener, hclosed, if_true]
      | false =>
          cases hpending : listener.pending with
          | nil =>
              refine .inr ⟨fun other hother => ?_, ?_⟩
              · cases hother
                exact .inr hpending
              · cases hopen : listener.isOpen <;> cases hexpires : limit.expires <;>
                  simp [wait, accept?, hlistener, hclosed, hpending, hopen, hexpires]
          | cons dialed pending =>
              refine .inl ⟨listener, dialed, pending, rfl, hclosed, hpending, ?_⟩
              simp [wait, accept?, hlistener, hclosed, hpending]

theorem connections_accept? {hub after : Hub} {number : Nat} {dialed? : Option Nat}
    (haccept : hub.accept? number = some (dialed?, after)) :
    after.connections = hub.connections := by
  unfold accept? at haccept
  split at haccept
  · cases haccept
    rfl
  · split at haccept
    · cases haccept
      rfl
    · split at haccept
      · cases haccept
        rfl
      · split at haccept
        · cases haccept
        · cases haccept
          rfl

-- A session waits for connections in just this way, and gets their second lines.
theorem perform_accept {session : Session} {index : Nat} {hub : Hub}
    (hhub : session.net.hubs[index]? = some hub) (number : Nat) (name : String) (limit : Duration)
    (next : Option Line → α) :
    (session.perform (.accept (.hub index number) name limit next)).1 =
      (hub.wait number limit).1.map fun dialed? =>
        next (dialed?.bind fun dialed => (hub.connections[dialed]?).map Connection.second) := by
  have hbound : index < session.net.hubs.length := (List.getElem?_eq_some_iff.mp hhub).1
  simp only [Session.perform, Session.accept?, Net.accept?, hhub, Option.getD_some, wait]
  rcases haccept : hub.accept? number with _ | ⟨_ | dialed, after⟩
  · cases hexpires : limit.expires <;> rfl
  · rfl
  · have hafter : (session.net.setHub index after).hubs[index]? = some after :=
      List.getElem?_set_self hbound
    simp only [Option.map_some, Net.line?, Net.connection?, hafter, Option.bind_some,
      connections_accept? haccept]
    rfl

inductive Act where
  | listen (endpoint : Endpoint)
  | dial (endpoint : Endpoint)
  | wait (listener : Nat) (limit : Duration)
  -- a listener that is dropped is closed
  | close (listener : Nat)
  | call (connection : Nat) (side : End) (request : Connection.Call)

-- What an act came to. Without an answer it waits for ever.
inductive Outcome where
  | listened (result : Except Fault Nat)
  | dialed (result : Except Failure Nat)
  | waited (answer : Option (Option Nat))
  | closed
  | called (outcome : Option Connection.Outcome)

def Outcome.hasReturned : Outcome → Bool
  | waited answer => answer.isSome
  | called outcome => outcome.any Connection.Outcome.hasReturned
  | _ => true

def Act.perform (hub : Hub) : Act → Outcome × Hub
  | listen endpoint =>
      match hub.listen endpoint with
      | .ok (number, hub) => (.listened (.ok number), hub)
      | .error fault => (.listened (.error fault), hub)
  | dial endpoint =>
      match hub.dial endpoint with
      | .ok (number, hub) => (.dialed (.ok number), hub)
      | .error failure => (.dialed (.error failure), hub)
  | wait listener limit => Prod.map .waited id (hub.wait listener limit)
  | close listener => (.closed, hub.close listener)
  | call connection side request =>
      match hub.connections[connection]? with
      | none => (.called none, hub)
      | some c =>
          let (outcome, c) := request.perform side c
          (.called (some outcome), hub.updateConnection connection fun _ => c)

-- It may be that the act has changed nothing.
def Outcome.isIdle : Outcome → Bool
  | listened (.error _) | dialed (.error _) | waited none | waited (some none) | closed => true
  | called outcome => outcome.isNone
  | _ => false

-- Whether a listener takes dials to this address.
def listensAt (hub : Hub) (number : Nat) (address : String) : Bool :=
  hub.listeners[number]?.any fun listener =>
    !listener.closed && listener.endpoint.address == address

-- What an act does to a hub.
inductive Effect (before : Hub) : Act → Outcome → Hub → Prop where
  | listened (endpoint : Endpoint) (hfree : before.registered? endpoint.address = none) :
      Effect before (.listen endpoint) (.listened (.ok before.listeners.length))
        { before with
          registry := (endpoint.address, before.listeners.length) :: before.registry
          listeners := before.listeners ++ [{ endpoint }] }
  | dialed (endpoint : Endpoint) (number : Nat) (listener : Listener) (duplex : Duplex)
      (hregistered : before.registered? endpoint.address = some number)
      (hlistener : before.listeners[number]? = some listener) (hopen : listener.isOpen = true)
      (hpair : Duplex.pair before.bufferSize = .ok duplex) :
      Effect before (.dial endpoint) (.dialed (.ok before.connections.length))
        { before with
          connections := before.connections ++ [
            ⟨.pipes duplex, { endpoint }, { endpoint := listener.endpoint }⟩]
          listeners := before.listeners.modify number fun listener =>
            { listener with pending := listener.pending ++ [before.connections.length] } }
  | accepted (number : Nat) (limit : Duration) (listener : Listener) (dialed : Nat)
      (pending : List Nat) (hlistener : before.listeners[number]? = some listener)
      (hopen : listener.closed = false) (hpending : listener.pending = dialed :: pending) :
      Effect before (.wait number limit) (.waited (some (some dialed)))
        (before.updateListener number fun listener => { listener with pending })
  | shut (number : Nat) (listener : Listener)
      (hlistener : before.listeners[number]? = some listener) (hopen : listener.closed = false) :
      Effect before (.close number) .closed
        (((before.updateListener number fun listener =>
          { listener with closed := true, isOpen := false, pending := [] }).abandon
            listener.pending).unregister number)
  | called (number : Nat) (side : End) (request : Connection.Call) (c : Connection)
      (hconnection : before.connections[number]? = some c) :
      Effect before (.call number side request) (.called (some (request.perform side c).1))
        (before.updateConnection number fun _ => (request.perform side c).2)
  | idle (act : Act) (outcome : Outcome) (hidle : outcome.isIdle = true) :
      Effect before act outcome before

theorem perform_effect (act : Act) (before : Hub) :
    Effect before act (act.perform before).1 (act.perform before).2 := by
  cases act with
  | listen endpoint =>
      simp only [Act.perform, Hub.listen]
      cases hfree : before.registered? endpoint.address with
      | none => exact .listened endpoint hfree
      | some number => exact .idle _ _ rfl
  | dial endpoint =>
      simp only [Act.perform, Hub.dial, seek]
      cases hregistered : before.registered? endpoint.address with
      | none => exact .idle _ _ rfl
      | some number =>
          simp only [enqueue]
          cases hpair : Duplex.pair before.bufferSize with
          | error crash => exact .idle _ _ rfl
          | ok duplex =>
              cases hlistener : before.listeners[number]?.filter (·.isOpen) with
              | none => exact .idle _ _ rfl
              | some listener =>
                  rw [Option.filter_eq_some_iff] at hlistener
                  exact .dialed endpoint number listener duplex hregistered hlistener.1
                    hlistener.2 hpair
  | wait number limit =>
      rcases before.wait_cases number limit with
        ⟨listener, dialed, pending, hlistener, hopen, hpending, hwait⟩ | ⟨-, hwait | hwait⟩
      all_goals simp only [Act.perform, hwait, Prod.map]
      · exact .accepted number limit listener dialed pending hlistener hopen hpending
      · exact .idle _ _ rfl
      · exact .idle _ _ rfl
  | close number =>
      simp only [Act.perform, Hub.close]
      cases hlistener : before.listeners[number]? with
      | none => exact .idle _ _ rfl
      | some listener =>
          cases hclosed : listener.closed with
          | true =>
              simp only [Option.map_some, hclosed]
              exact .idle _ _ rfl
          | false =>
              have h := Effect.shut number listener hlistener hclosed
              simpa [hclosed, Hub.shut, hlistener] using h
  | call number side request =>
      simp only [Act.perform]
      cases hconnection : before.connections[number]? with
      | none => exact .idle _ _ rfl
      | some c => exact .called number side request c hconnection

-- A dial that comes through made a connection over new pipes.
theorem connection_of_dial {before after : Hub} {endpoint : Endpoint} {number : Nat}
    (hdial : before.dial endpoint = .ok (number, after)) :
    ∃ duplex answering, Duplex.pair before.bufferSize = .ok duplex ∧
      after.connections[number]? =
        some ⟨.pipes duplex, { endpoint }, { endpoint := answering }⟩ := by
  have heffect := perform_effect (.dial endpoint) before
  simp only [Act.perform, hdial] at heffect
  cases heffect with
  | dialed _ _ listener duplex _ _ _ hpair =>
      exact ⟨duplex, listener.endpoint, hpair, List.getElem?_concat_length⟩
  | idle _ _ hidle => cases hidle

-- An act with the hub before it.
structure Step where
  before : Hub
  act : Act
  outcome : Outcome

namespace Step

-- The connection that a dial to this listener made.
def dialTo? (listener : Nat) (step : Step) : Option Nat :=
  match step.act, step.outcome with
  | .dial endpoint, .dialed (.ok number) =>
      if step.before.listensAt listener endpoint.address then some number else none
  | _, _ => none

-- The connection that somebody got who waited at this listener.
def acceptFrom? (listener : Nat) (step : Step) : Option Nat :=
  match step.act, step.outcome with
  | .wait number _, .waited (some dialed?) => if number = listener then dialed? else none
  | _, _ => none

-- Whether somebody got this line by it.
def hands (connection : Nat) (side : End) (step : Step) : Bool :=
  match side, step.act, step.outcome with
  | .first, .dial _, .dialed (.ok number) => number = connection
  | .second, .wait _ _, .waited (some (some number)) => number = connection
  | _, _, _ => false

-- The octets that went out at this line.
def given (connection : Nat) (side : End) (step : Step) : Bytes :=
  match step.act, step.outcome with
  | .call number actor request, .called (some outcome) =>
      if number = connection ∧ actor = side then Connection.given request outcome else []
  | _, _ => []

-- The octets that came in at it.
def got (connection : Nat) (side : End) (step : Step) : Bytes :=
  match step.act, step.outcome with
  | .call number actor _, .called (some outcome) =>
      if number = connection ∧ actor = side then outcome.got else []
  | _, _ => []

end Step

-- What has been done with a hub so far, and what has become of it.
structure History where
  hub : Hub
  steps : List Step := []

namespace History

def dialsTo (listener : Nat) (history : History) : List Nat :=
  history.steps.filterMap (Step.dialTo? listener)

def acceptedFrom (listener : Nat) (history : History) : List Nat :=
  history.steps.filterMap (Step.acceptFrom? listener)

def given (connection : Nat) (side : End) (history : History) : Bytes :=
  history.steps.flatMap (Step.given connection side)

def got (connection : Nat) (side : End) (history : History) : Bytes :=
  history.steps.flatMap (Step.got connection side)

-- Whether somebody got this line.
def holds (connection : Nat) (side : End) (history : History) : Bool :=
  history.steps.any (Step.hands connection side)

-- Lines that nobody got cannot be called.
def admits (history : History) : Act → Bool
  | .call connection side _ => history.holds connection side
  | _ => true

def record (history : History) (act : Act) (outcome : Outcome) (after : Hub) : History :=
  { hub := after, steps := history.steps ++ [⟨history.hub, act, outcome⟩] }

def extend (history : History) (act : Act) : History :=
  history.record act (act.perform history.hub).1 (act.perform history.hub).2

-- Acts that cannot be, or that would wait for ever, are left out. A write that has to wait for
-- somebody to read can be made attempt by attempt.
def of (size : UInt64) (acts : List Act) : History :=
  acts.foldl (fun history act =>
    if history.admits act && (act.perform history.hub).1.hasReturned then history.extend act
    else history) { hub := .ofSize size }

section Record

variable (history : History) (act : Act) (outcome : Outcome) (after : Hub)

private theorem filterMap_singleton' (f : Step → Option Nat) (step : Step) :
    [step].filterMap f = (f step).toList := by
  cases h : f step <;> simp [h]

theorem dialsTo_record (listener : Nat) :
    (history.record act outcome after).dialsTo listener =
      history.dialsTo listener ++
        (Step.dialTo? listener ⟨history.hub, act, outcome⟩).toList := by
  rw [dialsTo, record, List.filterMap_append, filterMap_singleton']
  rfl

theorem acceptedFrom_record (listener : Nat) :
    (history.record act outcome after).acceptedFrom listener =
      history.acceptedFrom listener ++
        (Step.acceptFrom? listener ⟨history.hub, act, outcome⟩).toList := by
  rw [acceptedFrom, record, List.filterMap_append, filterMap_singleton']
  rfl

theorem given_record (connection : Nat) (side : End) :
    (history.record act outcome after).given connection side =
      history.given connection side ++
        Step.given connection side ⟨history.hub, act, outcome⟩ := by
  rw [given, record, List.flatMap_append, List.flatMap_singleton]
  rfl

theorem got_record (connection : Nat) (side : End) :
    (history.record act outcome after).got connection side =
      history.got connection side ++ Step.got connection side ⟨history.hub, act, outcome⟩ := by
  rw [got, record, List.flatMap_append, List.flatMap_singleton]
  rfl

theorem holds_record (connection : Nat) (side : End) :
    (history.record act outcome after).holds connection side =
      (history.holds connection side ||
        Step.hands connection side ⟨history.hub, act, outcome⟩) := by
  simp [holds, record]

end Record

-- A line at the second end was got by waiting at some listener.
theorem holds_second_iff {connection : Nat} {history : History} :
    history.holds connection .second = true ↔
      ∃ listener, connection ∈ history.acceptedFrom listener := by
  have hstep (step : Step) : Step.hands connection .second step = true ↔
      ∃ listener, Step.acceptFrom? listener step = some connection := by
    obtain ⟨before, act, outcome⟩ := step
    unfold Step.hands Step.acceptFrom?
    rcases act with _ | _ | _ | _ | _ <;> rcases outcome with _ | _ | (_ | _ | _) | _ | _ <;> simp
  simp only [holds, acceptedFrom, List.any_eq_true, List.mem_filterMap, hstep]
  exact ⟨fun ⟨step, hmem, listener, h⟩ => ⟨listener, step, hmem, h⟩,
    fun ⟨listener, step, hmem, h⟩ => ⟨step, hmem, listener, h⟩⟩

-- Whoever dialed some listener has the first end.
theorem holds_first_of_mem {connection listener : Nat} {history : History}
    (hmem : connection ∈ history.dialsTo listener) : history.holds connection .first = true := by
  obtain ⟨⟨before, act, outcome⟩, hstep, hdial⟩ := List.mem_filterMap.mp hmem
  refine List.any_eq_true.mpr ⟨_, hstep, ?_⟩
  rcases act with _ | _ | _ | _ | _ <;> rcases outcome with _ | (_ | number) | _ | _ | _ <;>
    simp only [Step.dialTo?, reduceCtorEq] at hdial
  simpa [Step.hands] using (Option.ite_none_right_eq_some.mp hdial).2

-- What a new hub has and every act preserves holds of all histories.
theorem of_induction {P : History → Prop} (size : UInt64) (acts : List Act)
    (hstart : P { hub := .ofSize size })
    (hstep : ∀ history act, P history → history.admits act = true →
      (act.perform history.hub).1.hasReturned = true → P (history.extend act)) :
    P (of size acts) := by
  unfold of
  generalize ({ hub := .ofSize size } : History) = history at hstart
  induction acts generalizing history with
  | nil => exact hstart
  | cons act acts ih =>
      rw [List.foldl_cons]
      split
      · next hact =>
          rw [Bool.and_eq_true] at hact
          exact ih _ (hstep history act hstart hact.1 hact.2)
      · exact ih _ hstart

end History

end Hub

end FramedLines
