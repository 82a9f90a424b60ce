import FramedLines.Options.Json
import FramedLines.Proofs.Endpoints
import FramedLines.Proofs.Hosts
import FramedLines.Proofs.Registry
import FramedLines.Proofs.Traffic

-- Dials and the room that their pipes take. Whoever dials at a manager gets a line or a fault, as
-- long as there is an address space in which pipes of the configured size can be laid out.

namespace FramedLines

theorem Duplex.pair_eq_error_iff {capacity : Nat} {crash : Crash} :
    Duplex.pair capacity = .error crash ↔ 1 <<< 63 ≤ capacity ∧ crash = ⟨"capacity overflow"⟩ := by
  unfold pair
  split
  · next hroom => exact iff_of_false (by simp) fun h => absurd h.1 (Nat.not_le_of_lt hroom)
  · next hroom =>
      rw [and_iff_right (Nat.le_of_not_lt hroom), Except.error.injEq]
      exact eq_comm

namespace Hub

variable {before after hub : Hub}

@[simp] theorem bufferSize_abandon (dialed : List Nat) (hub : Hub) :
    (hub.abandon dialed).bufferSize = hub.bufferSize := by
  induction dialed generalizing hub with
  | nil => rfl
  | cons number dialed ih => exact ih _

theorem Effect.bufferSize_eq {act : Act} {outcome : Outcome}
    (h : Effect before act outcome after) : after.bufferSize = before.bufferSize := by
  cases h with
  | shut number listener hlistener hopen => exact bufferSize_abandon _ _
  | _ => rfl

theorem sound_ofSize (size : UInt64) : (ofSize size).Sound := (Kept.start size).sound

theorem Sound.dial_eq_crash_iff (h : hub.Sound) (endpoint : Endpoint) (crash : Crash) :
    hub.dial endpoint = .error (.crash crash) ↔
      1 <<< 63 ≤ hub.bufferSize ∧ (∃ number, hub.listensAt number endpoint.address = true) ∧
        crash = ⟨"capacity overflow"⟩ := by
  cases hregistered : hub.registered? endpoint.address with
  | none =>
      simp [Hub.dial, seek, hregistered, h.registered?_eq_none_iff.mp hregistered]
  | some number =>
      have hlistens := h.registered?_iff.mp hregistered
      have hsomebody : ∃ number, hub.listensAt number endpoint.address = true := ⟨number, hlistens⟩
      rw [and_iff_right hsomebody, ← Duplex.pair_eq_error_iff]
      simp only [Hub.dial, seek, hregistered, enqueue]
      cases hpair : Duplex.pair hub.bufferSize with
      | error crash => simp
      | ok duplex => cases hub.listeners[number]?.filter (·.isOpen) <;> simp

namespace Errand

variable {errand next : Errand}

theorem Effect.bufferSize_eq (h : Effect before errand next after) :
    after.bufferSize = before.bufferSize := by
  cases h with
  | abandoned number dials => exact bufferSize_abandon dials before
  | _ => rfl

-- A dial that comes to nothing leaves nothing behind.
theorem Effect.eq_of_failed {failure : Failure}
    (h : Effect before errand (.dialed (.error failure)) after) : after = before := by
  cases h <;> rfl

-- The pipes are laid out before anybody looks whether the listener is still there.
theorem step_offering_eq_crash_iff {endpoint : Endpoint} {listener : Nat} {crash : Crash} :
    ((offering endpoint listener).step hub).1 = .dialed (.error (.crash crash)) ↔
      1 <<< 63 ≤ hub.bufferSize ∧ crash = ⟨"capacity overflow"⟩ := by
  rw [← Duplex.pair_eq_error_iff]
  simp only [step, enqueue]
  cases hpair : Duplex.pair hub.bufferSize with
  | error crash => simp
  | ok duplex => cases hub.listeners[listener]?.filter (·.isOpen) <;> simp

-- That is the only step in which a call can crash.
theorem crash_of_step {crash : Crash}
    (hcrashed : (errand.step hub).1 = .dialed (.error (.crash crash))) :
    errand = .dialed (.error (.crash crash)) ∨
      1 <<< 63 ≤ hub.bufferSize ∧ crash = ⟨"capacity overflow"⟩ := by
  cases errand with
  | offering endpoint listener => exact .inr (step_offering_eq_crash_iff.mp hcrashed)
  | dialed result => exact .inl hcrashed
  | dialing | waiting | closing | listening =>
      simp only [step] at hcrashed
      split at hcrashed <;> cases hcrashed
  | _ => cases hcrashed

theorem crash_of_expire {crash : Crash}
    (hcrashed : (errand.expire hub).1 = .dialed (.error (.crash crash))) :
    errand = .dialed (.error (.crash crash)) := by
  cases errand with
  | waiting listener =>
      simp only [expire] at hcrashed
      split at hcrashed <;> cases hcrashed
  | _ => exact hcrashed

end Errand

namespace Traffic

variable {traffic : Traffic}

-- Pipes of the size that was asked for, and dials that have crashed only if they are too large.
structure Sized (size : UInt64) (traffic : Traffic) : Prop where
  bufferSize : traffic.hub.bufferSize = max size.toNat 1
  crashed : ∀ crash, .dialed (.error (.crash crash)) ∈ traffic.errands →
    1 <<< 63 ≤ size.toNat ∧ crash = ⟨"capacity overflow"⟩

namespace Sized

variable {size : UInt64}

theorem begin {errand : Errand} (h : traffic.Sized size)
    (hnew : ∀ failure, errand ≠ .dialed (.error failure)) : (traffic.begin errand).Sized size := by
  refine ⟨h.bufferSize, fun crash hmem => ?_⟩
  rcases List.mem_append.mp hmem with hold | hlast
  · exact h.crashed crash hold
  · exact absurd (List.mem_singleton.mp hlast).symm (hnew _)

theorem advance {act : Hub → Errand → Errand × Hub} (h : traffic.Sized size)
    (hact : ∀ (hub : Hub) (errand : Errand),
      errand.Effect hub (act hub errand).1 (act hub errand).2)
    (hcrash : ∀ hub errand crash, (act hub errand).1 = .dialed (.error (.crash crash)) →
      errand = .dialed (.error (.crash crash)) ∨
        1 <<< 63 ≤ hub.bufferSize ∧ crash = ⟨"capacity overflow"⟩)
    (index : Nat) : (traffic.advance index act).Sized size := by
  unfold Traffic.advance
  split
  · exact h
  · next errand herrand =>
      have hsize := (hact traffic.hub errand).bufferSize_eq
      refine ⟨hsize.trans h.bufferSize, fun crash hmem => ?_⟩
      rcases List.mem_or_eq_of_mem_set hmem with hold | hnext
      · exact h.crashed crash hold
      · rcases hcrash traffic.hub errand crash hnext.symm with rfl | ⟨hroom, hcrashed⟩
        · exact h.crashed crash (List.mem_of_getElem? herrand)
        · rw [h.bufferSize] at hroom
          exact ⟨by omega, hcrashed⟩

theorem perform (h : traffic.Sized size) (move : Move) : (traffic.perform move).Sized size := by
  cases move with
  | step index =>
      exact h.advance (fun hub errand => errand.step_effect hub)
        (fun _ _ _ => Errand.crash_of_step) index
  | expire index =>
      exact h.advance (fun hub errand => errand.expire_effect hub)
        (fun _ _ _ hcrashed => .inl (Errand.crash_of_expire hcrashed)) index
  | _ => exact h.begin fun _ => by simp

theorem of (size : UInt64) (moves : List Move) : (Traffic.of size moves).Sized size :=
  of_induction ⟨rfl, by simp⟩ (fun move _ h => h.perform move) moves

end Sized

-- A move in which a dial comes to nothing has done nothing else.
theorem hub_of_failed {move : Move} {index : Nat} {errand : Errand} {failure : Failure}
    (herrand : traffic.errands[index]? = some errand) (hunder : errand.isOver = false)
    (hfailed : (traffic.perform move).errands[index]? = some (.dialed (.error failure))) :
    (traffic.perform move).hub = traffic.hub := by
  have hchange := perform_change move traffic
  generalize traffic.perform move = after at hchange hfailed
  have hnot : traffic.errands[index]? ≠ some (.dialed (.error failure)) := by
    intro hover
    cases herrand.symm.trans hover
    cases hunder
  cases hchange with
  | idle => rfl
  | begun _ _ => rfl
  | advanced other _ next hub hother heffect =>
      by_cases hindex : other = index
      · subst hindex
        rw [List.getElem?_set_self (List.getElem?_eq_some_iff.mp hother).1] at hfailed
        cases hfailed
        exact heffect.eq_of_failed
      · rw [List.getElem?_set_ne hindex] at hfailed
        exact absurd hfailed hnot

-- What becomes of the dials among calls on a hub that overlap.
structure Dials (size : UInt64) (traffic : Traffic) : Prop where
  crashed : ∀ crash, .dialed (.error (.crash crash)) ∈ traffic.errands →
    1 <<< 63 ≤ size.toNat ∧ crash = ⟨"capacity overflow"⟩
  -- whether the listener that was found is still there or not
  crashes : ∀ (index : Nat) (endpoint : Endpoint) (listener : Nat),
    traffic.errands[index]? = some (.offering endpoint listener) → 1 <<< 63 ≤ size.toNat →
      (traffic.perform (.step index)).errands[index]? =
        some (.dialed (.error (.crash ⟨"capacity overflow"⟩)))
  failed : ∀ (move : Move) (index : Nat) (errand : Errand) (failure : Failure),
    traffic.errands[index]? = some errand → errand.isOver = false →
      (traffic.perform move).errands[index]? = some (.dialed (.error failure)) →
        (traffic.perform move).hub = traffic.hub

theorem Sized.dials {size : UInt64} (h : traffic.Sized size) : traffic.Dials size := by
  refine ⟨h.crashed, fun index endpoint listener herrand hroom => ?_,
    fun move index errand failure => hub_of_failed⟩
  have hlong : 1 <<< 63 ≤ traffic.hub.bufferSize := by
    rw [h.bufferSize]
    omega
  have hcrash : ((Errand.offering endpoint listener).step traffic.hub).1 = _ :=
    Errand.step_offering_eq_crash_iff.mpr ⟨hlong, rfl⟩
  have hindex := (List.getElem?_eq_some_iff.mp herrand).1
  simp only [Traffic.perform, Traffic.advance, herrand, List.getElem?_set_self hindex, hcrash]

end Traffic

end Hub

namespace Net

variable {refiles : Prop} {before after net : Net} {transport : Transport} {endpoint : Endpoint}
  {number : Nat} {hub : Hub} {failure : Failure} {id : LineId}

theorem Step.sound (h : Step refiles before after) (hsound : ∀ hub ∈ before.hubs, hub.Sound) :
    ∀ hub ∈ after.hubs, hub.Sound :=
  h.hubsStep.forall Hub.sound_ofSize (fun act hub => (Hub.perform_effect act hub).sound) hsound

theorem dial_inproc_eq_error_iff (hhub : net.hubs[number]? = some hub) :
    net.dial (.inproc number) endpoint = .error failure ↔ hub.dial endpoint = .error failure := by
  simp only [Net.dial, hhub, Option.getD_some]
  cases hub.dial endpoint <;> simp [Except.map]

-- Whatever keeps sockets from being connected is told.
theorem fault_of_dial (htransport : ∀ number, transport ≠ .inproc number)
    (hdial : net.dial transport endpoint = .error failure) :
    ∃ fault, failure = .fault fault ∧ fault.code = .connectFailure := by
  cases transport with
  | inproc number => exact absurd rfl (htransport number)
  | tcp interval =>
      simp only [Net.dial, Host.dialTcp] at hdial
      cases hdialed : Host.hold (net.host.connectPort endpoint) <;> rw [hdialed] at hdial <;>
        cases hdial
      exact ⟨_, rfl, rfl⟩
  | «local» interval =>
      simp only [Net.dial, Host.dialLocal] at hdial
      cases hdialed : Host.hold (net.host.connectPath endpoint endpoint.address) <;>
        rw [hdialed] at hdial <;> cases hdial
      exact ⟨_, rfl, rfl⟩

-- At the near end of a dial that comes through there is a line on which nothing has happened yet.
theorem Dialed.line? (h : Dialed before endpoint transport id after)
    (hhub : ∀ number, transport = .inproc number → number < before.hubs.length) :
    after.line? id = some { endpoint } := by
  cases h with
  | @hub number connection hub hdialed =>
      obtain ⟨duplex, answering, -, hc⟩ := Hub.connection_of_dial hdialed
      have hset := List.getElem?_set_self (a := hub) (hhub number rfl)
      simp only [Net.line?, connection?, setHub, hset, Option.bind_some, hc]
      rfl
  | tcp hdialed =>
      obtain ⟨answering, hc⟩ := Host.connection_of_hold (fun _ _ => Host.effect_connectPort)
        (ok_of_mapError hdialed)
      simp only [Net.line?, connection?, hc]
      rfl
  | «local» hdialed =>
      obtain ⟨answering, hc⟩ := Host.connection_of_hold (fun _ _ => Host.reach_connectPath)
        (ok_of_mapError hdialed)
      simp only [Net.line?, connection?, hc]
      rfl

end Net

namespace Manager

-- The manager has its hub, with pipes of the size that was configured.
def Housed (manager : Manager) (net : Net) : Prop :=
  ∃ hub, net.hubs[manager.hub]? = some hub ∧
    hub.bufferSize = max manager.config.inprocBufferSize.toNat 1

-- In the manager's hub somebody listens at what a text names.
def FindsListener (manager : Manager) (uri : String) (net : Net) : Prop :=
  ∃ endpoint hub number, Endpoint.parse uri = .ok endpoint ∧ endpoint.scheme = .inproc ∧
    net.hubs[manager.hub]? = some hub ∧ hub.listensAt number endpoint.address = true

-- What comes of dialing at a manager.
structure Calls (manager : Manager) (uri : String) (net : Net) : Prop where
  crashes : ∀ crash, manager.createClient uri net = .error (.crash crash) ↔
    1 <<< 63 ≤ manager.config.inprocBufferSize.toNat ∧ manager.FindsListener uri net ∧
      crash = ⟨"capacity overflow"⟩
  faults : ∀ fault, manager.createClient uri net = .error (.fault fault) →
    Endpoint.parse uri = .error fault ∧ fault.code = .resolve ∨
      ∃ endpoint, Endpoint.parse uri = .ok endpoint ∧ fault.code = .connectFailure ∧
        ¬ manager.FindsListener uri net ∧
        (endpoint.scheme = .inproc → fault = Fault.connectFailure endpoint.address
          (.worded .connectionRefused "no listener"))
  lines : ∀ id after, manager.createClient uri net = .ok (id, after) →
    ∃ endpoint, Endpoint.parse uri = .ok endpoint ∧ after.line? id = some { endpoint } ∧
      (endpoint.scheme = .inproc → manager.FindsListener uri net)

section Calls

variable {refiles : Prop} {before after net : Net} {manager : Manager} {uri : String}
  {endpoint : Endpoint} {hub : Hub}

theorem housed_step (h : Net.Step refiles before after) (hhoused : manager.Housed before) :
    manager.Housed after := by
  obtain ⟨hub, hhub, hsize⟩ := hhoused
  obtain ⟨next, hnext, hsame⟩ := h.hubsStep.getElem?
    (R := fun before after => after.bufferSize = before.bufferSize) (fun _ => rfl)
    (fun act hub => (Hub.perform_effect act hub).bufferSize_eq) hhub
  exact ⟨next, hnext, hsame.trans hsize⟩

theorem findsListener_iff (hparse : Endpoint.parse uri = .ok endpoint)
    (hinproc : endpoint.scheme = .inproc) (hhub : net.hubs[manager.hub]? = some hub) :
    manager.FindsListener uri net ↔ ∃ number, hub.listensAt number endpoint.address = true := by
  constructor
  · rintro ⟨other, another, number, hother, -, hanother, hlistens⟩
    cases hparse.symm.trans hother
    cases hhub.symm.trans hanother
    exact ⟨number, hlistens⟩
  · rintro ⟨number, hlistens⟩
    exact ⟨endpoint, hub, number, hparse, hinproc, hhub, hlistens⟩

theorem createClient_eq (manager : Manager) (net : Net)
    (hparse : Endpoint.parse uri = .ok endpoint) :
    manager.createClient uri net = net.dial (manager.transport endpoint.scheme) endpoint := by
  rw [createClient, hparse]
  rfl

theorem calls_unresolved {fault : Fault} (hparse : Endpoint.parse uri = .error fault) :
    manager.Calls uri net := by
  have hcall : manager.createClient uri net = .error (.fault fault) := by
    rw [createClient, hparse]
  constructor
  · intro crash
    refine iff_of_false (by simp [hcall]) ?_
    rintro ⟨-, ⟨endpoint, -, -, hother, -⟩, -⟩
    cases hparse.symm.trans hother
  · intro other hother
    cases hcall.symm.trans hother
    exact .inl ⟨hparse, Endpoint.code_of_parse hparse⟩
  · intro id after hdialed
    cases hcall.symm.trans hdialed

theorem calls_inproc (hsound : hub.Sound) (hhub : net.hubs[manager.hub]? = some hub)
    (hsize : hub.bufferSize = max manager.config.inprocBufferSize.toNat 1)
    (hparse : Endpoint.parse uri = .ok endpoint) (hinproc : endpoint.scheme = .inproc) :
    manager.Calls uri net := by
  have hcall : manager.createClient uri net = net.dial (.inproc manager.hub) endpoint := by
    rw [createClient_eq manager net hparse, hinproc]
    rfl
  have hfinds := findsListener_iff hparse hinproc hhub
  have hroom : 1 <<< 63 ≤ hub.bufferSize ↔
      1 <<< 63 ≤ manager.config.inprocBufferSize.toNat := by
    rw [hsize]
    omega
  constructor
  · intro crash
    rw [hcall, Net.dial_inproc_eq_error_iff hhub, hsound.dial_eq_crash_iff, hroom, hfinds]
  · intro fault hfault
    rw [hcall, Net.dial_inproc_eq_error_iff hhub, hsound.dial_eq_fault_iff, ← hfinds] at hfault
    obtain ⟨hnobody, rfl⟩ := hfault
    exact .inr ⟨endpoint, hparse, rfl, hnobody, fun _ => rfl⟩
  · intro id after hdial
    rw [hcall] at hdial
    have hbound := (List.getElem?_eq_some_iff.mp hhub).1
    refine ⟨endpoint, hparse, (Net.dialed_of_dial hdial).line? ?_, fun _ => ?_⟩
    · rintro _ ⟨⟩
      exact hbound
    · by_contra hnobody
      have hfault := (hsound.dial_eq_fault_iff endpoint _).mpr ⟨hfinds.not.mp hnobody, rfl⟩
      cases hdial.symm.trans ((Net.dial_inproc_eq_error_iff hhub).mpr hfault)

theorem calls_sockets (hparse : Endpoint.parse uri = .ok endpoint)
    (hsockets : endpoint.scheme ≠ .inproc) : manager.Calls uri net := by
  have hcall := createClient_eq manager net hparse
  have htransport : ∀ number, manager.transport endpoint.scheme ≠ .inproc number := by
    intro number
    cases hscheme : endpoint.scheme with
    | inproc => exact absurd hscheme hsockets
    | tcp => simp [transport]
    | «local» => simp [transport]
  have hnobody : ¬ manager.FindsListener uri net := by
    rintro ⟨other, -, -, hother, hinproc, -⟩
    cases hparse.symm.trans hother
    exact hsockets hinproc
  constructor
  · intro crash
    refine iff_of_false (fun hcrash => ?_) fun h => hnobody h.2.1
    obtain ⟨fault, hfault, -⟩ := Net.fault_of_dial htransport (hcall.symm.trans hcrash)
    cases hfault
  · intro fault hdial
    obtain ⟨other, hother, hcode⟩ := Net.fault_of_dial htransport (hcall.symm.trans hdial)
    cases hother
    exact .inr ⟨endpoint, hparse, hcode, hnobody, fun hinproc => absurd hinproc hsockets⟩
  · intro id after hdial
    refine ⟨endpoint, hparse, ?_, fun hinproc => absurd hinproc hsockets⟩
    exact (Net.dialed_of_dial (hcall.symm.trans hdial)).line? fun number hinproc =>
      absurd hinproc (htransport number)

theorem Housed.calls (h : manager.Housed net) (hsound : ∀ hub ∈ net.hubs, hub.Sound)
    (uri : String) : manager.Calls uri net := by
  obtain ⟨hub, hhub, hsize⟩ := h
  cases hparse : Endpoint.parse uri with
  | error fault => exact calls_unresolved hparse
  | ok endpoint =>
      by_cases hinproc : endpoint.scheme = .inproc
      · exact calls_inproc (hsound hub (List.mem_of_getElem? hhub)) hhub hsize hparse hinproc
      · exact calls_sockets hparse hinproc

end Calls

end Manager

namespace Session

variable {session : Session}

-- All hubs are in order, and every manager has its own.
structure Furnished (session : Session) : Prop where
  sound : ∀ hub ∈ session.net.hubs, hub.Sound
  housed : ∀ entry ∈ session.managers, entry.2.Housed session.net

theorem Act.managers_perform {act : Act} (hact : ∀ name config, act ≠ .addManager name config)
    (session : Session) : (act.perform session).managers = session.managers := by
  by_cases hplain : act.isPlain = true
  · obtain ⟨_, _, _, _, _, _, hafter⟩ := Act.perform_of_isPlain hplain session
    rw [hafter]
  · cases act with
    | addManager name config => exact absurd rfl (hact name config)
    | watch poller key line interest =>
        simp only [Act.perform, Session.watch]
        cases (session.poller poller).add (session.net.source? line) interest <;> rfl
    | addPoller | unwatch | check | notice => rfl
    | _ => exact absurd rfl hplain

namespace Furnished

theorem perform (h : session.Furnished) (act : Act) : (act.perform session).Furnished := by
  have hsteps := act.steps session
  have hhoused {manager : Manager} (hmanager : manager.Housed session.net) :
      manager.Housed (act.perform session).net :=
    Net.kept_of_steps (P := manager.Housed) Manager.housed_step hsteps hmanager
  refine ⟨Net.kept_of_steps (P := fun net => ∀ hub ∈ net.hubs, hub.Sound) Net.Step.sound hsteps
    h.sound, fun entry hentry => ?_⟩
  -- no act takes a hub away, so only a manager that was not there before needs a look
  by_cases hact : ∀ name config, act ≠ .addManager name config
  · rw [Act.managers_perform hact] at hentry
    exact hhoused (h.housed entry hentry)
  · obtain ⟨name, config, rfl⟩ : ∃ name config, act = .addManager name config := by
      simpa using hact
    rcases List.mem_append.mp hentry with hold | hnew
    · exact hhoused (h.housed entry (List.mem_filter.mp hold).1)
    · cases List.mem_singleton.mp hnew
      exact ⟨.ofSize config.inprocBufferSize, List.getElem?_concat_length, rfl⟩

theorem after (host : Host) (acts : List Act) : (Session.after host acts).Furnished :=
  kept_after (fun act _ h => h.perform act) ⟨by simp, by simp⟩ acts

theorem housed_of_manager? (h : session.Furnished) {key : String} {manager : Manager}
    (hmanager : session.manager? key = some manager) : manager.Housed session.net := by
  obtain ⟨front, rest, hmanagers, -⟩ := List.lookup_eq_some_iff.mp hmanager
  exact h.housed (key, manager) (hmanagers ▸ List.mem_append_right front List.mem_cons_self)

end Furnished

-- A call at a manager leads to a line that is there, or to whatever the dial came to.
theorem call_eq_error_iff {manager : Manager} {uri : String}
    (hcalls : manager.Calls uri session.net) {name : String} {failure : Failure} :
    session.call name manager uri = .error failure ↔
      manager.createClient uri session.net = .error failure := by
  unfold call attach
  rcases hdial : manager.createClient uri session.net with other | ⟨id, net⟩
  · simp
  · obtain ⟨endpoint, -, hline, -⟩ := hcalls.lines id net hdial
    simp [hline]

-- What a program can rely on that dials at one of its managers.
structure Dials (session : Session) (manager : Manager) (uri : String) : Prop
    extends manager.Calls uri session.net where
  returns : (∀ crash, manager.createClient uri session.net ≠ .error (.crash crash)) ↔
    (manager.FindsListener uri session.net →
      manager.config.inprocBufferSize.toNat < 1 <<< 63)
  called : ∀ name failure, session.call name manager uri = .error failure ↔
    manager.createClient uri session.net = .error failure
  failed : ∀ name failure, session.call name manager uri = .error failure →
    (Act.call name manager uri).perform session = session
  -- the same goes for a dial in which others come between
  overlapping : ∀ moves, (Hub.Traffic.of manager.config.inprocBufferSize moves).Dials
    manager.config.inprocBufferSize

-- The size of the pipes is taken as it was configured, so a dial that finds a listener crashes
-- where they cannot be laid out. Every other dial returns, and whatever fails leaves all as it was.
theorem calls_crash_without_room (host : Host) (acts : List Act) {key : String}
    {manager : Manager} (hmanager : (after host acts).manager? key = some manager)
    (uri : String) : (after host acts).Dials manager uri := by
  have h := Furnished.after host acts
  generalize after host acts = session at h hmanager
  have hcalls := (h.housed_of_manager? hmanager).calls h.sound uri
  refine { hcalls with
    returns := ⟨fun hreturns hfinds => ?_, fun hroom crash hcrash => ?_⟩
    called := fun name failure => call_eq_error_iff hcalls
    failed := fun name failure hfailed => ?_
    overlapping := fun moves => (Hub.Traffic.Sized.of _ moves).dials }
  · by_contra hlarge
    exact hreturns _ ((hcalls.crashes _).mpr ⟨Nat.le_of_not_lt hlarge, hfinds, rfl⟩)
  · obtain ⟨hlarge, hfinds, -⟩ := (hcalls.crashes crash).mp hcrash
    exact absurd (hroom hfinds) (Nat.not_lt_of_le hlarge)
  · simp only [Act.perform, hfailed]

-- Two managers with a listener each, one with small pipes and one with pipes that are too large.
theorem calls_crash_without_room_two_sizes :
    let config : UInt64 → ManagerConfig := fun size => { inprocBufferSize := size }
    let manager : UInt64 → Manager := fun size => ⟨config size, 2⟩
    let session : UInt64 → Session := fun size =>
      after {} [.addManager "x" (config size), .serve "a" (manager size) "inproc://n"]
    let small : UInt64 := 4
    let large : UInt64 := 9223372036854775808
    (session small).manager? "x" = some (manager small) ∧
      (session large).manager? "x" = some (manager large) ∧
      (∀ crash, (manager small).createClient "inproc://n" (session small).net ≠
        .error (.crash crash)) ∧
      (session large).call "c" (manager large) "inproc://n" =
        .error (.crash ⟨"capacity overflow"⟩) := by
  intro config manager session small large
  have hsmall : (session small).manager? "x" = some (manager small) := by decide +kernel
  have hlarge : (session large).manager? "x" = some (manager large) := by decide +kernel
  have hfinds : (manager large).FindsListener "inproc://n" (session large).net :=
    ⟨⟨.inproc, "n"⟩, _, 0, by decide +kernel, rfl, rfl, by decide +kernel⟩
  have hroom := calls_crash_without_room {} _ hsmall "inproc://n"
  have hcrash := calls_crash_without_room {} _ hlarge "inproc://n"
  refine ⟨hsmall, hlarge, hroom.returns.mpr fun _ => by decide, ?_⟩
  exact (hcrash.called "c" _).mpr ((hcrash.crashes _).mpr ⟨by decide, hfinds, rfl⟩)

-- Such a size can stand in any configuration.
theorem oversized_call_crashes :
    let config : ManagerConfig := { inprocBufferSize := 9223372036854775808 }
    let manager : Manager := ⟨config, 2⟩
    let session := after {} [.addManager "x" config, .serve "a" manager "inproc://n"]
    ManagerConfig.ofText? "\x7b\"inproc_buffer_size\": 9223372036854775808\x7d" = some config ∧
      session.manager? "x" = some manager ∧
      manager.createClient "inproc://n" session.net =
        .error (.crash ⟨"capacity overflow"⟩) := by
  decide +kernel

end Session

end FramedLines
