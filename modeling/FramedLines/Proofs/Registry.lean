import FramedLines.Proofs.Acceptance

-- The registry of a hub. In every history it holds the listeners that are open, each under its
-- address, and nothing else.

namespace FramedLines

namespace Hub

-- The numbers of the listeners that are not closed.
def openNumbers (hub : Hub) : List Nat :=
  (hub.listeners.zipIdx.filter fun (listener, _) => !listener.closed).map Prod.snd

theorem mem_openNumbers {hub : Hub} {number : Nat} :
    number ∈ hub.openNumbers ↔ ∃ address, hub.listensAt number address = true := by
  have hmem : number ∈ hub.openNumbers ↔
      ∃ listener, hub.listeners[number]? = some listener ∧ listener.closed = false := by
    simp [openNumbers, List.mem_zipIdx_iff_getElem?]
  rw [hmem]
  constructor
  · rintro ⟨listener, hlistener, hopen⟩
    exact ⟨listener.endpoint.address, by simp [listensAt, hlistener, hopen]⟩
  · rintro ⟨address, hlistens⟩
    exact listener_of_listensAt hlistens

theorem nodup_openNumbers (hub : Hub) : hub.openNumbers.Nodup := by
  have hnumbers : (hub.listeners.zipIdx.map Prod.snd).Nodup := by
    rw [List.zipIdx_map_snd]
    exact List.nodup_range'
  exact hnumbers.sublist (List.filter_sublist.map Prod.snd)

theorem length_openNumbers (hub : Hub) :
    hub.openNumbers.length = (hub.listeners.filter fun listener => !listener.closed).length := by
  have hfilter : (hub.listeners.zipIdx.map Prod.fst).filter (fun listener => !listener.closed) =
      (hub.listeners.zipIdx.filter fun (listener, _) => !listener.closed).map Prod.fst :=
    List.filter_map
  rw [List.zipIdx_map_fst] at hfilter
  rw [hfilter, openNumbers, List.length_map, List.length_map]

namespace Sound

variable {hub : Hub}

-- A listener is registered under its own address and under no other.
theorem nodup_registered (h : hub.Sound) : (hub.registry.map Prod.snd).Nodup := by
  refine List.Nodup.map_on ?_ (List.Nodup.of_map Prod.fst h.unshadowed)
  rintro ⟨one, number⟩ hone ⟨other, _⟩ hother rfl
  rw [h.registered, listensAt] at hone hother
  cases hlistener : hub.listeners[number]? with
  | none => simp [hlistener] at hone
  | some listener =>
      simp only [hlistener, Option.any_some, Bool.and_eq_true, beq_iff_eq] at hone hother
      rw [← hone.2, ← hother.2]

theorem registered_perm (h : hub.Sound) : (hub.registry.map Prod.snd).Perm hub.openNumbers := by
  refine (List.perm_ext_iff_of_nodup h.nodup_registered hub.nodup_openNumbers).mpr fun number => ?_
  rw [mem_openNumbers]
  constructor
  · intro hmem
    obtain ⟨⟨address, _⟩, hentry, rfl⟩ := List.mem_map.mp hmem
    exact ⟨address, (h.registered address _).mp hentry⟩
  · rintro ⟨address, hlistens⟩
    exact List.mem_map.mpr ⟨_, (h.registered address number).mpr hlistens, rfl⟩

theorem registered?_eq_none_iff (h : hub.Sound) {address : String} :
    hub.registered? address = none ↔ ¬∃ number, hub.listensAt number address = true := by
  rw [← not_iff_not, not_not, ← ne_eq, Option.ne_none_iff_exists']
  simp only [h.registered?_iff]

end Sound

-- An act that came to nothing for whoever wanted to listen or to dial.
def Outcome.hasFailed : Outcome → Bool
  | listened (.error _) | dialed (.error _) => true
  | _ => false

theorem perform_of_hasFailed {act : Act} {hub : Hub}
    (hfailed : (act.perform hub).1.hasFailed = true) : (act.perform hub).2 = hub := by
  have heffect := perform_effect act hub
  generalize act.perform hub = done at heffect hfailed
  obtain ⟨outcome, after⟩ := done
  cases heffect with
  | idle _ _ _ => rfl
  | _ => cases hfailed

-- The registry, the listeners and what can be done at an address all say the same.
structure Mirrored (hub : Hub) : Prop where
  registered : ∀ address number, hub.registered? address = some number ↔
    hub.listensAt number address = true ∧
      ∀ other, hub.listensAt other address = true → other = number
  -- whoever is registered takes dials
  taking : ∀ address number, hub.registered? address = some number →
    (hub.listeners[number]?.map Listener.isOpen) = some true
  single : ∀ address one other, hub.listensAt one address = true →
    hub.listensAt other address = true → one = other
  closed : ∀ (number : Nat) (listener : Listener), hub.listeners[number]? = some listener →
    listener.closed = true → listener.isOpen = false ∧ listener.pending = []
  count : hub.listenerCount = (hub.listeners.filter fun listener => !listener.closed).length
  listens : ∀ endpoint fault, hub.listen endpoint = .error fault ↔
    (∃ number, hub.listensAt number endpoint.address = true) ∧
      fault = Fault.listenFailure endpoint.address
        (.worded .addrInUse "address already registered")
  dials : ∀ endpoint fault, hub.dial endpoint = .error (.fault fault) ↔
    (¬∃ number, hub.listensAt number endpoint.address = true) ∧
      fault = Fault.connectFailure endpoint.address (.worded .connectionRefused "no listener")
  freed : ∀ (number : Nat) (listener : Listener), hub.listeners[number]? = some listener →
    listener.closed = false → ∀ endpoint, endpoint.address = listener.endpoint.address →
      ∃ made, (hub.close number).listen endpoint = .ok made
  -- whoever may listen gets a listener of his own, open and to be found, and the others stay
  made : ∀ endpoint number after, hub.listen endpoint = .ok (number, after) →
    hub.listeners[number]? = none ∧ after.listeners[number]? = some { endpoint } ∧
      after.registered? endpoint.address = some number ∧
      ∀ other, other ≠ number → after.listeners[other]? = hub.listeners[other]?
  failed : ∀ act : Act, (act.perform hub).1.hasFailed = true → (act.perform hub).2 = hub

namespace Sound

variable {hub : Hub}

theorem listen_eq_error_iff (h : hub.Sound) (endpoint : Endpoint) (fault : Fault) :
    hub.listen endpoint = .error fault ↔
      (∃ number, hub.listensAt number endpoint.address = true) ∧
        fault = Fault.listenFailure endpoint.address
          (.worded .addrInUse "address already registered") := by
  unfold Hub.listen
  cases hregistered : hub.registered? endpoint.address with
  | none => simp [h.registered?_eq_none_iff.mp hregistered]
  | some number =>
      have hlistens := h.registered?_iff.mp hregistered
      rw [and_iff_right ⟨number, hlistens⟩, Except.error.injEq]
      exact eq_comm

-- A dial that finds a listener comes to nothing only where there is no room for its pipes.
theorem dial_eq_fault_iff (h : hub.Sound) (endpoint : Endpoint) (fault : Fault) :
    hub.dial endpoint = .error (.fault fault) ↔
      (¬∃ number, hub.listensAt number endpoint.address = true) ∧
        fault = Fault.connectFailure endpoint.address
          (.worded .connectionRefused "no listener") := by
  cases hregistered : hub.registered? endpoint.address with
  | none =>
      have hnone := h.registered?_eq_none_iff.mp hregistered
      simp only [Hub.dial, seek, hregistered, Except.error.injEq, Failure.fault.injEq]
      rw [and_iff_right hnone]
      exact eq_comm
  | some number =>
      have hlistens := h.registered?_iff.mp hregistered
      refine iff_of_false ?_ fun hboth => hboth.1 ⟨number, hlistens⟩
      obtain ⟨listener, hlistener, hopen⟩ := listener_of_listensAt hlistens
      have htakes : hub.listeners[number]?.filter (·.isOpen) = some listener := by
        rw [hlistener, Option.filter_some, h.settled number listener hlistener, hopen]
        rfl
      simp only [Hub.dial, seek, hregistered, enqueue, htakes]
      cases Duplex.pair hub.bufferSize <;> simp

-- With its listener closed an address is free.
theorem listen_close (h : hub.Sound) {number : Nat} {listener : Listener}
    (hlistener : hub.listeners[number]? = some listener) (hopen : listener.closed = false)
    {endpoint : Endpoint} (haddress : endpoint.address = listener.endpoint.address) :
    ∃ made, (hub.close number).listen endpoint = .ok made := by
  have heffect := perform_effect (.close number) hub
  change Effect hub (.close number) .closed (hub.close number) at heffect
  have hsound := heffect.sound h
  cases hlisten : (hub.close number).listen endpoint with
  | ok made => exact ⟨made, rfl⟩
  | error fault =>
      obtain ⟨⟨other, hother⟩, -⟩ := (hsound.listen_eq_error_iff endpoint fault).mp hlisten
      obtain ⟨next, hnext, htakes⟩ := (Option.any_eq_true _ _).mp hother
      rw [listeners_close hlistener hopen] at hnext
      rcases getElem?_modify_cases hnext with ⟨-, old, -, rfl⟩ | ⟨hne, hold⟩
      · cases htakes
      · have hlistens : hub.listensAt number endpoint.address = true := by
          simp [listensAt, hlistener, hopen, haddress]
        have hstill : hub.listensAt other endpoint.address = true := by
          rw [listensAt, hold]
          exact htakes
        exact absurd (h.listensAt_unique hlistens hstill) hne

end Sound

theorem history_mirrored (size : UInt64) (acts : List Act) :
    Mirrored (History.of size acts).hub := by
  have h := Kept.of size acts
  generalize (History.of size acts) = history at h
  have hsound := h.sound
  refine ⟨fun address number => ?_, fun address number hregistered => ?_,
    fun address one other => hsound.listensAt_unique,
    fun number listener hlistener hclosed => ⟨?_, ?_⟩, ?_, hsound.listen_eq_error_iff,
    hsound.dial_eq_fault_iff,
    fun number listener hlistener hopen endpoint => hsound.listen_close hlistener hopen,
    fun endpoint number after => listen_made, fun act => perform_of_hasFailed⟩
  · rw [hsound.registered?_iff]
    exact ⟨fun hlistens => ⟨hlistens, fun other hother =>
      hsound.listensAt_unique hother hlistens⟩, And.left⟩
  · obtain ⟨listener, hlistener, hopen⟩ :=
      listener_of_listensAt (hsound.registered?_iff.mp hregistered)
    rw [hlistener, Option.map_some, hsound.settled number listener hlistener, hopen]
    rfl
  · rw [hsound.settled number listener hlistener, hclosed]
    rfl
  · exact h.ordered.emptied number listener hlistener hclosed
  · rw [← length_openNumbers, ← hsound.registered_perm.length_eq, List.length_map]
    rfl

-- Closing a listener again does not free its address from the next one.
example :
    let endpoint : Endpoint := ⟨.inproc, "x"⟩
    let history := History.of 4 [.listen endpoint, .listen endpoint, .close 0, .listen endpoint,
      .close 0, .dial endpoint]
    history.hub.registry = [("x", 1)] ∧ history.hub.listenerCount = 1 ∧
      history.dialsTo 1 = [0] := by
  decide +kernel

end Hub

end FramedLines
