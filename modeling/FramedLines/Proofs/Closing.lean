import FramedLines.Proofs.Backlog
import FramedLines.Proofs.Hosts
import FramedLines.Session.Schedule

-- Listeners never go away, and whoever has closed one has closed it for good. Closing it again does
-- nothing, whoever listens at its address by then.

namespace FramedLines

-- What there is to know of a listener: where it listens, and whether its owner has closed it.
def Listener.post (listener : Listener) : Endpoint × Bool := (listener.endpoint, listener.closed)

def SocketListener.post (listener : SocketListener) : Endpoint × Bool :=
  (listener.endpoint, listener.closed)

section Lasting

variable {post : α → Endpoint × Bool} {before after : List α}

-- All listeners are still there and listen where they did, and those that were closed still are.
def Lasting (post : α → Endpoint × Bool) (before after : List α) : Prop :=
  ∀ (number : Nat) (endpoint : Endpoint) (closed : Bool),
    before[number]?.map post = some (endpoint, closed) →
      ∃ later, after[number]?.map post = some (endpoint, later) ∧ (closed = true → later = true)

namespace Lasting

theorem refl (items : List α) : Lasting post items items :=
  fun _ _ closed hitem => ⟨closed, hitem, id⟩

theorem append (items more : List α) : Lasting post items (items ++ more) := by
  intro number endpoint closed hitem
  obtain ⟨item, hold, -⟩ := Option.map_eq_some_iff.mp hitem
  rw [List.getElem?_append_left (List.getElem?_eq_some_iff.mp hold).1]
  exact ⟨closed, hitem, id⟩

theorem modify {f : α → α} (items : List α) (number : Nat)
    (hf : ∀ item, (post (f item)).1 = (post item).1 ∧
      ((post item).2 = true → (post (f item)).2 = true)) :
    Lasting post items (items.modify number f) := by
  intro index endpoint closed hitem
  obtain ⟨item, hold, hpost⟩ := Option.map_eq_some_iff.mp hitem
  rw [List.getElem?_modify, hold]
  by_cases hindex : number = index
  · obtain ⟨hendpoint, hclosed⟩ := hf item
    rw [hpost] at hendpoint hclosed
    have hsame : post (f item) = (endpoint, (post (f item)).2) := Prod.ext hendpoint rfl
    exact ⟨(post (f item)).2, by simp [hindex, ← hsame], hclosed⟩
  · exact ⟨closed, by simp [hindex, hpost], id⟩

end Lasting

end Lasting

namespace Host

-- What an operation of the host leaves of the listeners.
def Keeps (before after : Host) : Prop :=
  Lasting SocketListener.post before.listeners after.listeners

theorem Effect.keeps {before after : Host} (h : before.Effect after) : before.Keeps after := by
  cases h with
  | listenedPort endpoint address interval nextPort => exact .append before.listeners _
  | listenedPath endpoint interval cleared files hfree hcleared hchecked hfiles =>
      exact .append before.listeners _
  | answered endpoint listener hlive => exact .modify before.listeners listener fun _ => ⟨rfl, id⟩
  | dialed endpoint listener family => exact .modify before.listeners listener fun _ => ⟨rfl, id⟩
  | accepted number listener dialed pending hlistener hpending =>
      exact .modify before.listeners number fun _ => ⟨rfl, id⟩
  | closed number listener hlistener hopen =>
      rw [Keeps, listeners_close hlistener hopen]
      exact .modify before.listeners number fun _ => ⟨rfl, fun _ => rfl⟩
  | _ => exact .refl before.listeners

end Host

namespace Hub

def Keeps (before after : Hub) : Prop := Lasting Listener.post before.listeners after.listeners

theorem Keeps.refl (hub : Hub) : hub.Keeps hub := Lasting.refl _

theorem Effect.keeps {before after : Hub} {act : Act} {outcome : Outcome}
    (h : Effect before act outcome after) : before.Keeps after := by
  cases h with
  | listened endpoint hfree => exact Lasting.append before.listeners _
  | dialed endpoint number listener duplex hregistered hlistener hopen hpair =>
      exact Lasting.modify before.listeners number fun _ => ⟨rfl, id⟩
  | accepted number limit listener dialed pending hlistener hopen hpending =>
      exact Lasting.modify before.listeners number fun _ => ⟨rfl, id⟩
  | shut number listener hlistener hopen =>
      simp only [Keeps, unregister, listeners_abandon]
      exact Lasting.modify before.listeners number fun _ => ⟨rfl, fun _ => rfl⟩
  | called number side request c hconnection => exact .refl before
  | idle _ _ _ => exact .refl before

end Hub

namespace Net

variable {refiles : Prop} {before after : Net} {acceptor : AcceptorId} {endpoint : Endpoint}
  {closed : Bool}

theorem acceptor?_hub (net : Net) (number listener : Nat) :
    net.acceptor? (.hub number listener) =
      net.hubs[number]?.bind fun hub => hub.listeners[listener]?.map Listener.post := by
  simp only [acceptor?, Option.bind_eq_bind, Option.pure_def, Listener.post, Option.map_eq_bind,
    Function.comp_def]

theorem acceptor?_socket (net : Net) (listener : Nat) :
    net.acceptor? (.socket listener) = net.host.listeners[listener]?.map SocketListener.post := by
  simp only [acceptor?, Option.bind_eq_bind, Option.pure_def, SocketListener.post,
    Option.map_eq_bind, Function.comp_def]

-- No acceptor goes away, or listens elsewhere, or opens again.
theorem Step.lasting (h : Step refiles before after)
    (hacceptor : before.acceptor? acceptor = some (endpoint, closed)) :
    ∃ later, after.acceptor? acceptor = some (endpoint, later) ∧
      (closed = true → later = true) := by
  cases acceptor with
  | hub number listener =>
      rw [acceptor?_hub] at hacceptor ⊢
      obtain ⟨hub, hhub, hlistener⟩ := Option.bind_eq_some_iff.mp hacceptor
      obtain ⟨next, hnext, hkeeps⟩ := h.hubsStep.getElem? Hub.Keeps.refl
        (fun act hub => (Hub.perform_effect act hub).keeps) hhub
      rw [hnext]
      exact hkeeps listener endpoint closed hlistener
  | socket listener =>
      rw [acceptor?_socket] at hacceptor ⊢
      cases h with
      | hubs h => exact ⟨closed, hacceptor, id⟩
      | host h => exact h.effect.keeps listener endpoint closed hacceptor
      | refiled hrefiles files => exact ⟨closed, hacceptor, id⟩

theorem lasting_of_steps (h : Relation.ReflTransGen (Step refiles) before after)
    (hacceptor : before.acceptor? acceptor = some (endpoint, true)) :
    after.acceptor? acceptor = some (endpoint, true) := by
  refine kept_of_steps (P := fun net => net.acceptor? acceptor = some (endpoint, true))
    (fun hstep hheld => ?_) h hacceptor
  obtain ⟨later, hlater, hclosed⟩ := hstep.lasting hheld
  rwa [hclosed rfl] at hlater

theorem listener_of_acceptor? {number listener : Nat}
    (hacceptor : before.acceptor? (.hub number listener) = some (endpoint, closed)) :
    ∃ hub item, before.hubs[number]? = some hub ∧ hub.listeners[listener]? = some item ∧
      item.endpoint = endpoint ∧ item.closed = closed := by
  rw [acceptor?_hub] at hacceptor
  obtain ⟨hub, hhub, hmap⟩ := Option.bind_eq_some_iff.mp hacceptor
  obtain ⟨item, hitem, hpost⟩ := Option.map_eq_some_iff.mp hmap
  exact ⟨hub, item, hhub, hitem, congrArg Prod.fst hpost, congrArg Prod.snd hpost⟩

theorem socketListener_of_acceptor? {listener : Nat}
    (hacceptor : before.acceptor? (.socket listener) = some (endpoint, closed)) :
    ∃ item, before.host.listeners[listener]? = some item ∧ item.endpoint = endpoint ∧
      item.closed = closed := by
  rw [acceptor?_socket] at hacceptor
  obtain ⟨item, hitem, hpost⟩ := Option.map_eq_some_iff.mp hacceptor
  exact ⟨item, hitem, congrArg Prod.fst hpost, congrArg Prod.snd hpost⟩

theorem accept?_of_closed (hacceptor : before.acceptor? acceptor = some (endpoint, true)) :
    before.accept? acceptor = some (none, before) := by
  cases acceptor with
  | hub number listener =>
      obtain ⟨hub, item, hhub, hitem, -, hclosed⟩ := listener_of_acceptor? hacceptor
      have hself : before.setHub number hub = before := by
        obtain ⟨hbound, rfl⟩ := List.getElem?_eq_some_iff.mp hhub
        rw [setHub, List.set_getElem_self hbound]
      simp only [accept?, hhub, Option.getD_some, Hub.accept?, hitem, hclosed, if_true,
        Option.map_some, Option.map_none, hself]
  | socket listener =>
      obtain ⟨item, hitem, -, hclosed⟩ := socketListener_of_acceptor? hacceptor
      simp only [accept?, Host.accept?, hitem, hclosed, Bool.true_or, if_true, Option.map_some,
        Option.map_none]

theorem closeAcceptor_of_closed (hacceptor : before.acceptor? acceptor = some (endpoint, true)) :
    before.closeAcceptor acceptor = before := by
  cases acceptor with
  | hub number listener =>
      obtain ⟨hub, item, hhub, hitem, -, hclosed⟩ := listener_of_acceptor? hacceptor
      have hself : before.hubs.modify number (Hub.close listener) = before.hubs.modify number id :=
        modify_congr fun other hother => by
          cases hhub.symm.trans hother
          simp only [Hub.close, hitem, Option.map_some, Option.getD_some, hclosed, if_true, id_eq]
      rw [closeAcceptor, hself, List.modify_id]
  | socket listener =>
      obtain ⟨item, hitem, -, hclosed⟩ := socketListener_of_acceptor? hacceptor
      rw [closeAcceptor, Host.close_of_closed hitem hclosed]

-- Whatever an acceptor was before, it is closed now.
theorem acceptor?_closeAcceptor (hacceptor : before.acceptor? acceptor = some (endpoint, closed)) :
    (before.closeAcceptor acceptor).acceptor? acceptor = some (endpoint, true) := by
  cases closed with
  | true => rwa [closeAcceptor_of_closed hacceptor]
  | false =>
      cases acceptor with
      | hub number listener =>
          obtain ⟨hub, item, hhub, hitem, hendpoint, hopen⟩ := listener_of_acceptor? hacceptor
          simp [acceptor?_hub, closeAcceptor, hhub, Hub.listeners_close hitem hopen, hitem,
            Listener.post, hendpoint]
      | socket listener =>
          obtain ⟨item, hitem, hendpoint, hopen⟩ := socketListener_of_acceptor? hacceptor
          simp [acceptor?_socket, closeAcceptor, Host.listeners_close hitem hopen, hitem,
            SocketListener.post, hendpoint]

end Net

namespace Session

-- An acceptor that is closed for good. Nobody gets a line from it or waits at it for longer than
-- until the next look, and letting go of it once more changes nothing but who has which name.
structure Inert (session : Session) (acceptor : AcceptorId) (endpoint : Endpoint) : Prop where
  closed : session.net.acceptor? acceptor = some (endpoint, true)
  waits : ∀ (α : Type) (name : String) (limit : Duration) (next : Option Line → α),
    session.perform (.accept acceptor name limit next) = (some (next none), session)
  runs : ∀ (α : Type) (run : Run α) (now : Nat) (name : String) (limit : Duration)
    (next : Option Line → α), run.job = .accept acceptor name limit next →
      (run.step now session = .over (next none) session ∨
        run.looked = true ∧ run.step now session = .waits session run.wake) ∧
      run.expire now session = .over (next none) session
  closes : session.closeAcceptor acceptor = session
  drops : ∀ name, session.acceptor? name = some acceptor →
    session.dropAcceptor name =
      (true, { session with acceptors := without name session.acceptors })
  renames : ∀ name other, session.acceptor? name = some acceptor →
    nameAcceptor name other session =
      { session with acceptors := renew name other session.acceptors }

theorem inert_of_closed {session : Session} {acceptor : AcceptorId} {endpoint : Endpoint}
    (hclosed : session.net.acceptor? acceptor = some (endpoint, true)) :
    session.Inert acceptor endpoint := by
  have hcloses := Net.closeAcceptor_of_closed hclosed
  have hlook (name : String) : session.accept? acceptor name = some (none, session) := by
    simp only [accept?, Net.accept?_of_closed hclosed]
  refine ⟨hclosed, fun α name limit next => ?_, fun α run now name limit next hjob => ?_, ?_,
    fun name hname => ?_, fun name other hname => ?_⟩
  · simp only [perform, hlook]
  · constructor
    · simp only [Run.step, hjob, Run.lookOut, hlook]
      cases Run.lookInterval? acceptor session with
      | none => exact .inl rfl
      | some interval => cases run.looked <;> simp
    · simp only [Run.expire, hjob, Run.lookOut, hlook]
      cases Run.lookInterval? acceptor session <;> rfl
  · rw [closeAcceptor, hcloses]
  · simp only [dropAcceptor, hname, hcloses]
  · simp only [nameAcceptor, hname, hcloses]

theorem closing_is_final (host : Host) (earlier later : List Act) {acceptor : AcceptorId}
    {endpoint : Endpoint} {closed : Bool}
    (hacceptor : (after host earlier).net.acceptor? acceptor = some (endpoint, closed)) :
    ((after host earlier).closeAcceptor acceptor).net.acceptor? acceptor = some (endpoint, true) ∧
      (closed = true → (after host (earlier ++ later)).Inert acceptor endpoint) := by
  refine ⟨Net.acceptor?_closeAcceptor hacceptor, fun hclosed => inert_of_closed ?_⟩
  subst hclosed
  rw [after, performAll, List.foldl_append]
  exact Net.lasting_of_steps (performAll_steps later _) hacceptor

-- The one who listens at the same path by now keeps the path, its file and the dial that waits.
theorem closing_is_final_successor :
    let endpoint : Endpoint := ⟨.local, "/s"⟩
    let transport : Transport := .local (Duration.ofMillis 5)
    let earlier : List Act := [.listen "a" transport endpoint, .closeAcceptor (.socket 0)]
    let later : List Act := [.listen "b" transport endpoint, .dial "c" transport endpoint]
    let session := after {} (earlier ++ later)
    (after {} earlier).net.acceptor? (.socket 0) = some (endpoint, true) ∧
      session.Inert (.socket 0) endpoint ∧
      session.net.host.bound = [["/", "s"]] ∧
      session.net.host.files.nodes = [(["s"], .socket (some 1))] ∧
      session.net.host.listeners.map (fun listener => (listener.closed, listener.pending)) =
        [(true, []), (false, [0])] := by
  intro endpoint transport earlier later session
  have hclosed : (after {} earlier).net.acceptor? (.socket 0) = some (endpoint, true) := by
    decide +kernel
  exact ⟨hclosed, (closing_is_final {} earlier later hclosed).2 rfl, by decide +kernel,
    by decide +kernel, by decide +kernel⟩

end Session

end FramedLines
