import FramedLines.Proofs.Dials
import FramedLines.Proofs.Readiness
import FramedLines.Proofs.Sessions

-- Pollers in a session. What a poll finds under its keys is how the lines stand at that moment.

namespace FramedLines

namespace Hub

-- All connections of a hub are over pipes, which none of their ends has let go of unseen.
def Plumbed (hub : Hub) : Prop :=
  ∀ (number : Nat) (c : Connection), hub.connections[number]? = some c → ∃ duplex, c.Piped duplex

variable {before after hub : Hub}

theorem Plumbed.modify (h : before.Plumbed) {number : Nat} {f : Connection → Connection}
    (hf : ∀ (c : Connection) (duplex : Duplex), before.connections[number]? = some c →
      c.Piped duplex → ∃ next, (f c).Piped next)
    (hconnections : after.connections = before.connections.modify number f) : after.Plumbed := by
  intro index c hc
  rw [hconnections] at hc
  rcases getElem?_modify_cases hc with ⟨rfl, old, hold, rfl⟩ | ⟨-, hold⟩
  · obtain ⟨duplex, hpiped⟩ := h number old hold
    exact hf old duplex hold hpiped
  · exact h index c hold

theorem Plumbed.abandon (h : hub.Plumbed) (dialed : List Nat) : (hub.abandon dialed).Plumbed := by
  induction dialed generalizing hub with
  | nil => exact h
  | cons number dialed ih =>
      refine ih (h.modify (fun c duplex _ hpiped => ?_) rfl)
      obtain ⟨next, hnext, -⟩ := hpiped.refuse .second
      exact ⟨next, hnext⟩

theorem Effect.plumbed {act : Act} {outcome : Outcome} (h : Effect before act outcome after)
    (hplumbed : before.Plumbed) : after.Plumbed := by
  cases h with
  | listened endpoint hfree => exact hplumbed
  | dialed endpoint number listener duplex hregistered hlistener hopen hpair =>
      intro index c hc
      by_cases hold : index < before.connections.length
      · rw [List.getElem?_append_left hold] at hc
        exact hplumbed index c hc
      · rw [List.getElem?_append_right (Nat.le_of_not_lt hold)] at hc
        obtain rfl := List.mem_singleton.mp (List.mem_of_getElem? hc)
        exact ⟨duplex, (Connection.Piped.of_pair hpair _ _ rfl rfl).1⟩
  | accepted number limit listener dialed pending hlistener hopen hpending => exact hplumbed
  | shut number listener hlistener hopen =>
      have hupdated : (before.updateListener number fun listener =>
          { listener with closed := true, isOpen := false, pending := [] }).Plumbed := hplumbed
      exact hupdated.abandon listener.pending
  | called number side request c hconnection =>
      refine hplumbed.modify (fun other duplex hother hpiped => ?_) rfl
      cases hconnection.symm.trans hother
      exact hpiped.call side request
  | idle _ _ _ => exact hplumbed

-- Connections are never taken away.
theorem Effect.length_le {act : Act} {outcome : Outcome} (h : Effect before act outcome after) :
    before.connections.length ≤ after.connections.length := by
  cases h with
  | listened endpoint hfree => exact Nat.le_refl _
  | dialed endpoint number listener duplex hregistered hlistener hopen hpair =>
      simp only [List.length_append]
      omega
  | accepted number limit listener dialed pending hlistener hopen hpending => exact Nat.le_refl _
  | shut number listener hlistener hopen =>
      simp only [unregister, length_connections_abandon]
      exact Nat.le_refl _
  | called number side request c hconnection =>
      exact Nat.le_of_eq (List.length_modify ..).symm
  | idle _ _ _ => exact Nat.le_refl _

end Hub

namespace Net

variable {refiles : Prop} {before after net : Net} {source : Source}

-- There is something behind what a poller looks at: a descriptor, or the pipes of a hub.
def Stands (net : Net) (source : Source) : Prop :=
  ∀ id, source = .pipes id → ∃ number connection side c, id = .hub number connection side ∧
    net.connection? id = some c

theorem stands_source? {id : LineId} (hsource : net.source? id = some source) :
    net.Stands source := by
  intro other hother
  unfold source? at hsource
  split at hsource
  · cases hsource
  · next line hline =>
      cases id with
      | hub number connection side =>
          cases hsource
          cases hother
          obtain ⟨hline, -⟩ := Option.filter_eq_some_iff.mp hline
          obtain ⟨c, hc, -⟩ := Option.map_eq_some_iff.mp hline
          exact ⟨number, connection, side, c, rfl, hc⟩
      | socket connection side =>
          obtain ⟨descriptor, -, rfl⟩ := Option.map_eq_some_iff.mp hsource
          cases hother

theorem Step.stands (h : Step refiles before after) (hstands : before.Stands source) :
    after.Stands source := by
  intro id hid
  obtain ⟨number, connection, side, c, rfl, hc⟩ := hstands id hid
  obtain ⟨hub, hhub, hconnection⟩ := Option.bind_eq_some_iff.mp hc
  have hbound := (List.getElem?_eq_some_iff.mp hconnection).1
  obtain ⟨next, hnext, hlength⟩ := h.hubsStep.getElem?
    (R := fun before after => before.connections.length ≤ after.connections.length)
    (fun _ => Nat.le_refl _) (fun act hub => (Hub.perform_effect act hub).length_le) hhub
  refine ⟨number, connection, side, next.connections[connection], rfl, ?_⟩
  simp [connection?, hnext, Nat.lt_of_lt_of_le hbound hlength]

def Plumbed (net : Net) : Prop := ∀ hub ∈ net.hubs, hub.Plumbed

theorem Step.plumbed (h : Step refiles before after) (hplumbed : before.Plumbed) :
    after.Plumbed := by
  refine h.hubsStep.forall (fun bufferSize number c hc => ?_)
    (fun act hub => (Hub.perform_effect act hub).plumbed) hplumbed
  cases hc

end Net

namespace Poller

-- What somebody does with a poller.
inductive Step (net : Net) (before : Poller) : Poller → Prop where
  | watched (line : LineId) (interest : Events) (source : Source)
      (hsource : net.source? line = some source) :
      Step net before
        { before with
          watches := before.watches ++ [⟨before.nextKey, source, interest⟩]
          nextKey := before.nextKey + 1 }
  | unwatched (key : Nat) : Step net before (before.remove key).2
  | reported (ready : List (Nat × Events)) : Step net before { before with ready }

theorem add_cases {source? : Option Source} {interest : Events} {poller next : Poller} {key : Nat}
    (hadd : poller.add source? interest = .ok (key, next)) :
    ∃ source, source? = some source ∧ key = poller.nextKey ∧
      next = { poller with
        watches := poller.watches ++ [⟨poller.nextKey, source, interest⟩]
        nextKey := poller.nextKey + 1 } := by
  unfold add at hadd
  split at hadd
  · cases hadd
  · split at hadd
    · cases hadd
    · next source =>
        cases hadd
        exact ⟨source, rfl, rfl, rfl⟩

-- A poller that watches things that are there, each under a key of its own.
structure Orderly (net : Net) (poller : Poller) : Prop where
  fresh : ∀ watch ∈ poller.watches, watch.key < poller.nextKey
  distinct : (poller.watches.map Watch.key).Nodup
  standing : ∀ watch ∈ poller.watches, net.Stands watch.source

theorem Step.orderly {net : Net} {before after : Poller} (h : Step net before after)
    (horderly : before.Orderly net) : after.Orderly net := by
  obtain ⟨hfresh, hdistinct, hstanding⟩ := horderly
  cases h with
  | watched line interest source hsource =>
      refine ⟨?_, ?_, ?_⟩
      · simp only [List.forall_mem_append, List.forall_mem_singleton]
        exact ⟨fun watch hwatch => Nat.lt_succ_of_lt (hfresh watch hwatch), Nat.lt_succ_self _⟩
      · rw [List.map_append, List.map_singleton, ← List.concat_eq_append]
        refine hdistinct.concat fun hmem => ?_
        obtain ⟨watch, hwatch, hkey⟩ := List.mem_map.mp hmem
        exact absurd hkey (Nat.ne_of_lt (hfresh watch hwatch))
      · simp only [List.forall_mem_append, List.forall_mem_singleton]
        exact ⟨hstanding, Net.stands_source? hsource⟩
  | unwatched key =>
      have hkept : ∀ watch ∈ (before.remove key).2.watches, watch ∈ before.watches :=
        fun watch hwatch => (List.mem_filter.mp hwatch).1
      exact ⟨fun watch hwatch => hfresh watch (hkept watch hwatch),
        hdistinct.sublist (List.filter_sublist.map Watch.key),
        fun watch hwatch => hstanding watch (hkept watch hwatch)⟩
  | reported ready => exact ⟨hfresh, hdistinct, hstanding⟩

variable {look : Source → Readiness} {watches : List Watch}

theorem check_fst (poller : Poller) : (poller.check look).1 = true ↔
    ∃ watch ∈ poller.watches,
      ((look watch.source).events watch.interest).isEmpty = false := by
  simp [check, found, List.filterMap_eq_nil_iff]

theorem found_cons (look : Source → Readiness) (first : Watch) (watches : List Watch) :
    found look (first :: watches) =
      if ((look first.source).events first.interest).isEmpty then found look watches
      else (first.key, (look first.source).events first.interest) :: found look watches := by
  cases hempty : ((look first.source).events first.interest).isEmpty <;>
    simp [found, hempty]

theorem mem_of_found {entry : Nat × Events} (hentry : entry ∈ found look watches) :
    ∃ watch ∈ watches, entry.1 = watch.key := by
  obtain ⟨watch, hwatch, hreported⟩ := List.mem_filterMap.mp hentry
  refine ⟨watch, hwatch, ?_⟩
  simp only [Option.ite_none_left_eq_some] at hreported
  rw [← Option.some.inj hreported.2]

theorem eq_of_isEmpty {events : Events} (hempty : events.isEmpty = true) : events = {} := by
  obtain ⟨read, write, error⟩ := events
  cases read <;> cases write <;> cases error <;> first | rfl | cases hempty

-- All that is ready is reported at once, each under its own key, and nothing else is.
theorem lookup_found (hdistinct : (watches.map Watch.key).Nodup) {watch : Watch}
    (hwatch : watch ∈ watches) :
    ((found look watches).lookup watch.key).getD {} =
      (look watch.source).events watch.interest := by
  induction watches with
  | nil => cases hwatch
  | cons first watches ih =>
      rw [List.map_cons, List.nodup_cons] at hdistinct
      obtain ⟨hnew, hdistinct⟩ := hdistinct
      rw [found_cons]
      rcases List.mem_cons.mp hwatch with rfl | hwatch
      · by_cases hempty : ((look watch.source).events watch.interest).isEmpty = true
        · have hnone : (found look watches).lookup watch.key = none := by
            refine List.lookup_eq_none_iff.mpr fun entry hentry => ?_
            obtain ⟨other, hother, hkey⟩ := mem_of_found hentry
            have hne : watch.key ≠ entry.1 := fun hsame =>
              hnew (List.mem_map.mpr ⟨other, hother, hkey.symm.trans hsame.symm⟩)
            simpa using hne
          rw [if_pos hempty, hnone, eq_of_isEmpty hempty]
          rfl
        · rw [if_neg hempty, List.lookup_cons_self]
          rfl
      · have hne : watch.key ≠ first.key := fun hsame =>
          hnew (List.mem_map.mpr ⟨watch, hwatch, hsame⟩)
        split
        · exact ih hdistinct hwatch
        · rw [List.lookup_cons, beq_eq_false_iff_ne.mpr hne]
          exact ih hdistinct hwatch

end Poller

namespace Session

-- What an act does to the pollers: it makes a new one, or somebody does something with one.
inductive PollersStep (session : Session) : List Poller → Prop where
  | idle : PollersStep session session.pollerTable
  | made (interval : Duration) :
      PollersStep session (session.pollerTable ++ [.withInterval interval])
  | changed (id : PollerId) (poller : Poller)
      (hstep : Poller.Step session.net (session.poller id) poller) :
      PollersStep session (session.pollerTable.set id poller)

-- The acts that somebody does at a poller.
def Act.usesPollers : Act → Bool
  | addPoller .. | watch .. | unwatch .. | check .. | notice .. => true
  | _ => false

-- No other act is of any account to them.
theorem Act.pollerTable_perform {act : Act} (hact : act.usesPollers = false) (session : Session) :
    (act.perform session).pollerTable = session.pollerTable := by
  by_cases hplain : act.isPlain = true
  · obtain ⟨_, _, _, _, _, _, hafter⟩ := Act.perform_of_isPlain hplain session
    rw [hafter]
  · cases act with
    | addManager name config => rfl
    | addPoller | watch | unwatch | check | notice => cases hact
    | _ => exact absurd rfl hplain

theorem Act.pollersStep (act : Act) (session : Session) :
    session.PollersStep (act.perform session).pollerTable := by
  cases act with
  | addPoller name interval => exact .made interval
  | watch poller key line interest =>
      simp only [Act.perform, Session.watch]
      cases hadd : (session.poller poller).add (session.net.source? line) interest with
      | error fault => exact .idle
      | ok made =>
          obtain ⟨source, hsource, -, hnext⟩ := Poller.add_cases hadd
          exact .changed poller _ (hnext ▸ .watched line interest source hsource)
  | unwatch poller key => exact .changed poller _ (.unwatched key)
  | check poller => exact .changed poller _ (.reported _)
  | notice poller => exact .changed poller _ (.reported _)
  | _ =>
      rw [Act.pollerTable_perform rfl]
      exact .idle

-- Every poller watches things that are there, and every hub connects over pipes.
structure Wired (session : Session) : Prop where
  plumbed : session.net.Plumbed
  orderly : ∀ poller ∈ session.pollerTable, poller.Orderly session.net

namespace Wired

variable {session : Session}

theorem poller (h : session.Wired) (id : PollerId) :
    (session.poller id).Orderly session.net := by
  unfold Session.poller
  cases hpoller : session.pollerTable[id]? with
  | none => exact ⟨by simp, by simp, by simp⟩
  | some poller => exact h.orderly poller (List.mem_of_getElem? hpoller)

theorem pollersStep (h : session.Wired) {after : List Poller} (hstep : session.PollersStep after) :
    ∀ poller ∈ after, poller.Orderly session.net := by
  cases hstep with
  | idle => exact h.orderly
  | made interval =>
      rw [List.forall_mem_append, List.forall_mem_singleton]
      exact ⟨h.orderly, by simp [Poller.withInterval], by simp [Poller.withInterval],
        by simp [Poller.withInterval]⟩
  | changed id next hstep =>
      intro poller hpoller
      rcases List.mem_or_eq_of_mem_set hpoller with hold | rfl
      · exact h.orderly poller hold
      · exact hstep.orderly (h.poller id)

theorem perform (h : session.Wired) (act : Act) : (act.perform session).Wired := by
  have hsteps := act.steps session
  refine ⟨Net.kept_of_steps Net.Step.plumbed hsteps h.plumbed, fun poller hpoller => ?_⟩
  obtain ⟨hfresh, hdistinct, hstanding⟩ := h.pollersStep (act.pollersStep session) poller hpoller
  exact ⟨hfresh, hdistinct, fun watch hwatch =>
    Net.kept_of_steps (P := (Net.Stands · watch.source)) Net.Step.stands hsteps
      (hstanding watch hwatch)⟩

theorem after (host : Host) (acts : List Act) : (Session.after host acts).Wired :=
  kept_after (fun act _ h => h.perform act) ⟨by simp [Net.Plumbed], by simp⟩ acts

end Wired

theorem poller_check (id : PollerId) (session : Session) :
    (session.check id).2.poller id =
      ((session.poller id).check session.net.readiness).2 := by
  simp only [check, setPoller, poller, List.getElem?_set_self']
  cases session.pollerTable[id]? <;> rfl

-- What somebody gets who polls without waiting.
structure Polled (session : Session) (id : PollerId) : Prop where
  answer : ∀ (α : Type) (next : Bool → Session → α),
    session.perform (.poll id .zero next) =
      (some (next (session.check id).1 (session.check id).2), (session.check id).2)
  net : (session.check id).2.net = session.net
  watches : ((session.check id).2.poller id).watches = (session.poller id).watches
  found : (session.check id).1 = true ↔ ∃ watch ∈ (session.poller id).watches,
    (((session.check id).2.poller id).eventsFor watch.key).isEmpty = false
  reported : ∀ watch ∈ (session.poller id).watches,
    ((session.check id).2.poller id).eventsFor watch.key =
      (session.net.readiness watch.source).events watch.interest
  lines : ∀ watch ∈ (session.poller id).watches, ∀ line, watch.source = .pipes line →
    ∃ c, session.net.connection? line = some c ∧ ((c.line line.side).closed = false →
      c.Reports line.side watch.interest
        (((session.check id).2.poller id).eventsFor watch.key))

theorem poll_is_exact (host : Host) (acts : List Act) (id : PollerId) :
    (after host acts).Polled id := by
  have h := Wired.after host acts
  generalize after host acts = session at h
  obtain ⟨-, hdistinct, hstanding⟩ := h.poller id
  have hreported : ∀ watch ∈ (session.poller id).watches,
      ((session.check id).2.poller id).eventsFor watch.key =
        (session.net.readiness watch.source).events watch.interest := by
    intro watch hwatch
    rw [poller_check]
    exact Poller.lookup_found hdistinct hwatch
  refine ⟨fun α next => ?_, rfl, ?_, ?_, hreported, fun watch hwatch line hline => ?_⟩
  · have hexpires : Duration.zero.expires = true := by decide
    simp only [perform, hexpires, Bool.or_true, if_true]
  · rw [poller_check]
    rfl
  · have hfound : (session.check id).1 = ((session.poller id).check session.net.readiness).1 := rfl
    rw [hfound, Poller.check_fst]
    exact exists_congr fun watch => and_congr_right fun hwatch => by rw [hreported watch hwatch]
  · obtain ⟨number, connection, side, c, rfl, hc⟩ := hstanding watch hwatch line hline
    refine ⟨c, hc, fun hopen => ?_⟩
    obtain ⟨hub, hhub, hconnection⟩ := Option.bind_eq_some_iff.mp hc
    obtain ⟨duplex, hpiped⟩ := h.plumbed hub (List.mem_of_getElem? hhub) connection c hconnection
    rw [hreported watch hwatch, hline]
    simp only [Net.readiness, hc]
    exact hpiped.reports hopen watch.interest

-- A line can be ready for a write that has no time to be made.
theorem writable_line_times_out :
    let endpoint : Endpoint := ⟨.inproc, "x"⟩
    let line : LineId := .hub 0 0 .first
    let session := after {} [.listen "a" (.inproc 0) endpoint, .dial "c" (.inproc 0) endpoint,
      .ask line (.setOption .sendTimeout (some ⟨1, by decide⟩)),
      .addPoller "p" (Duration.ofMillis 5), .watch 0 "k" line { write := true }]
    ((session.check 0).2.poller 0).eventsFor 0 = { write := true } ∧
      ∃ c, session.net.connection? line = some c ∧ (c.line .first).closed = false ∧
        (c.write .first [1] 1).1 =
          some (.error (Fault.timeout.withContext "no bytes accepted before send timeout")) := by
  intro endpoint line session
  refine ⟨by decide +kernel, _, rfl, rfl, rfl⟩

end Session

end FramedLines
