import FramedLines.Proofs.Traffic

-- The registry while listeners close. A listener that has closed can be found in it for a while,
-- but takes no dials, and the call that closed it is the one to take it out.

namespace FramedLines

namespace Hub

-- A registry while listeners close. One that has closed stays in it until its call gets to that.
structure Listed (hub : Hub) (leaving : List Nat) : Prop where
  unshadowed : (hub.registry.map Prod.fst).Nodup
  entered : ∀ address number, (address, number) ∈ hub.registry →
    ∃ listener, hub.listeners[number]? = some listener ∧ listener.endpoint.address = address ∧
      (listener.closed = true → number ∈ leaving)
  registered : ∀ (number : Nat) (listener : Listener), hub.listeners[number]? = some listener →
    listener.closed = false → (listener.endpoint.address, number) ∈ hub.registry
  settled : ∀ (number : Nat) (listener : Listener), hub.listeners[number]? = some listener →
    listener.isOpen = !listener.closed ∧ (listener.closed = true → listener.pending = [])
  closed : ∀ number ∈ leaving, ∃ listener, hub.listeners[number]? = some listener ∧
    listener.closed = true

namespace Listed

variable {hub after : Hub} {leaving left : List Nat} {number : Nat} {listener : Listener}

-- What dials wait at an open listener is of no account here.
theorem update (h : hub.Listed leaving) {f : Listener → Listener}
    (hlisteners : after.listeners = hub.listeners.modify number f)
    (hregistry : after.registry = hub.registry)
    (hf : ∀ listener, (f listener).endpoint = listener.endpoint ∧
      (f listener).closed = listener.closed ∧ (f listener).isOpen = listener.isOpen)
    (hemptied : ∀ listener, hub.listeners[number]? = some listener → listener.closed = true →
      (f listener).pending = []) : after.Listed leaving := by
  have hback {index : Nat} {listener : Listener}
      (hlistener : after.listeners[index]? = some listener) :
      ∃ old, hub.listeners[index]? = some old ∧ listener.endpoint = old.endpoint ∧
        listener.closed = old.closed ∧ listener.isOpen = old.isOpen ∧
        (old.closed = true → old.pending = [] → listener.pending = []) := by
    rw [hlisteners] at hlistener
    rcases getElem?_modify_cases hlistener with ⟨rfl, old, hold, rfl⟩ | ⟨-, hold⟩
    · obtain ⟨hendpoint, hclosed, hisOpen⟩ := hf old
      exact ⟨old, hold, hendpoint, hclosed, hisOpen, fun hclosed _ => hemptied old hold hclosed⟩
    · exact ⟨listener, hold, rfl, rfl, rfl, fun _ hpending => hpending⟩
  have hforth {index : Nat} {old : Listener} (hold : hub.listeners[index]? = some old) :
      ∃ listener, after.listeners[index]? = some listener ∧ listener.endpoint = old.endpoint ∧
        listener.closed = old.closed := by
    rw [hlisteners, getElem?_modify_of hold]
    obtain ⟨hendpoint, hclosed, -⟩ := hf old
    split
    · exact ⟨f old, rfl, hendpoint, hclosed⟩
    · exact ⟨old, rfl, rfl, rfl⟩
  refine ⟨hregistry ▸ h.unshadowed, fun address index hentry => ?_,
    fun index listener hlistener hopen => ?_, fun index listener hlistener => ?_,
    fun index hleaving => ?_⟩
  · rw [hregistry] at hentry
    obtain ⟨old, hold, haddress, hleaves⟩ := h.entered address index hentry
    obtain ⟨listener, hlistener, hendpoint, hclosed⟩ := hforth hold
    exact ⟨listener, hlistener, hendpoint ▸ haddress, hclosed ▸ hleaves⟩
  · obtain ⟨old, hold, hendpoint, hclosed, -⟩ := hback hlistener
    rw [hregistry, hendpoint]
    exact h.registered index old hold (hclosed ▸ hopen)
  · obtain ⟨old, hold, -, hclosed, hisOpen, hpending⟩ := hback hlistener
    obtain ⟨hsettled, hempty⟩ := h.settled index old hold
    rw [hclosed, hisOpen]
    exact ⟨hsettled, fun hclosed => hpending hclosed (hempty hclosed)⟩
  · obtain ⟨old, hold, hclosed⟩ := h.closed index hleaving
    obtain ⟨listener, hlistener, -, hsame⟩ := hforth hold
    exact ⟨listener, hlistener, hsame.trans hclosed⟩

theorem congr (h : hub.Listed leaving) (hlisteners : after.listeners = hub.listeners)
    (hregistry : after.registry = hub.registry) : after.Listed leaving := by
  obtain ⟨hunshadowed, hentered, hregistered, hsettled, hclosed⟩ := h
  refine ⟨?_, ?_, ?_, ?_, ?_⟩ <;> simpa only [hlisteners, hregistry]

theorem perm (h : hub.Listed leaving) (hleaving : leaving.Perm left) : hub.Listed left := by
  refine ⟨h.unshadowed, fun address number hentry => ?_, h.registered, h.settled,
    fun number hleft => h.closed number (hleaving.mem_iff.mpr hleft)⟩
  obtain ⟨listener, hlistener, haddress, hleaves⟩ := h.entered address number hentry
  exact ⟨listener, hlistener, haddress, fun hclosed => hleaving.mem_iff.mp (hleaves hclosed)⟩

-- A new listener, at an address where nobody is registered.
theorem listen (h : hub.Listed leaving) {endpoint : Endpoint}
    (hfree : hub.registered? endpoint.address = none) :
    Listed { hub with
      registry := (endpoint.address, hub.listeners.length) :: hub.registry
      listeners := hub.listeners ++ [{ endpoint }] } leaving := by
  have hkept {index : Nat} {old : Listener} (hold : hub.listeners[index]? = some old) :
      (hub.listeners ++ [({ endpoint } : Listener)])[index]? = some old := by
    rw [List.getElem?_append_left (List.getElem?_eq_some_iff.mp hold).1, hold]
  rw [registered?, List.lookup_eq_none_iff] at hfree
  refine ⟨?_, fun address index hentry => ?_, fun index listener hlistener hopen => ?_,
    fun index listener hlistener => ?_, fun index hleaving => ?_⟩
  · rw [List.map_cons, List.nodup_cons]
    refine ⟨fun hmem => ?_, h.unshadowed⟩
    obtain ⟨entry, hentry, hkey⟩ := List.mem_map.mp hmem
    simpa [hkey] using hfree entry hentry
  · rcases List.mem_cons.mp hentry with hnew | hold
    · cases hnew
      exact ⟨_, List.getElem?_concat_length, rfl, fun hclosed => by cases hclosed⟩
    · obtain ⟨listener, hlistener, hrest⟩ := h.entered address index hold
      exact ⟨listener, hkept hlistener, hrest⟩
  · rcases getElem?_concat_cases hlistener with hold | ⟨rfl, rfl⟩
    · exact List.mem_cons_of_mem _ (h.registered index listener hold hopen)
    · exact List.mem_cons_self
  · rcases getElem?_concat_cases hlistener with hold | ⟨rfl, rfl⟩
    · exact h.settled index listener hold
    · exact ⟨rfl, fun _ => rfl⟩
  · obtain ⟨listener, hlistener, hclosed⟩ := h.closed index hleaving
    exact ⟨listener, hkept hlistener, hclosed⟩

-- A listener that closes, and stays in the registry for now.
theorem shut (h : hub.Listed leaving) (hlistener : hub.listeners[number]? = some listener) :
    (hub.updateListener number fun listener =>
      { listener with closed := true, isOpen := false, pending := [] }).Listed
        (number :: leaving) := by
  refine ⟨h.unshadowed, fun address index hentry => ?_, fun index other hother hopen => ?_,
    fun index other hother => ?_, fun index hleaving => ?_⟩
  · obtain ⟨old, hold, haddress, hleaves⟩ := h.entered address index hentry
    refine ⟨_, getElem?_modify_of hold number _, ?_⟩
    split
    · next hsame => exact ⟨haddress, fun _ => hsame ▸ List.mem_cons_self⟩
    · exact ⟨haddress, fun hclosed => List.mem_cons_of_mem _ (hleaves hclosed)⟩
  · rcases getElem?_modify_cases hother with ⟨-, old, -, rfl⟩ | ⟨-, hold⟩
    · cases hopen
    · exact h.registered index other hold hopen
  · rcases getElem?_modify_cases hother with ⟨-, old, -, rfl⟩ | ⟨-, hold⟩
    · exact ⟨rfl, fun _ => rfl⟩
    · exact h.settled index other hold
  · rcases List.mem_cons.mp hleaving with rfl | hleaving
    · exact ⟨_, getElem?_modify_of hlistener _ _, by rw [if_pos rfl]⟩
    · obtain ⟨old, hold, hclosed⟩ := h.closed index hleaving
      refine ⟨_, getElem?_modify_of hold number _, ?_⟩
      split
      · rfl
      · exact hclosed

-- A listener that is taken out of it. Whoever leaves otherwise is still to be taken out.
theorem unregister (h : hub.Listed (number :: leaving)) :
    (hub.unregister number).Listed leaving := by
  obtain ⟨listener, hlistener, hclosed⟩ := h.closed number List.mem_cons_self
  refine ⟨h.unshadowed.sublist (List.filter_sublist.map _), fun address index hentry => ?_,
    fun index other hother hopen => List.mem_filter.mpr ⟨h.registered index other hother hopen, ?_⟩,
    h.settled, fun index hleaving => h.closed index (List.mem_cons_of_mem _ hleaving)⟩
  · obtain ⟨hold, hne⟩ := List.mem_filter.mp hentry
    obtain ⟨other, hother, haddress, hleaves⟩ := h.entered address index hold
    exact ⟨other, hother, haddress, fun hclosed =>
      (List.mem_cons.mp (hleaves hclosed)).resolve_left (by simpa using hne)⟩
  · refine bne_iff_ne.mpr fun hsame : index = number => ?_
    have hother : hub.listeners[index]? = some other := hother
    rw [hsame, hlistener] at hother
    cases hother
    rw [hclosed] at hopen
    cases hopen

end Listed

namespace Errand.Effect

variable {before after : Hub} {errand next : Errand}

-- Closing is what puts a listener on its way out of the registry, and its last step takes that one
-- out and no other.
theorem listed (h : Effect before errand next after) {others : List Nat}
    (hlisted : before.Listed (errand.leaves ++ others)) : after.Listed (next.leaves ++ others) := by
  cases h with
  | offered endpoint number listener duplex hlistener hopen hpair =>
      refine hlisted.update rfl rfl (fun _ => ⟨rfl, rfl, rfl⟩) fun other hother hclosed => ?_
      rw [hlistener] at hother
      cases hother
      rw [(hlisted.settled number listener hlistener).1, hclosed] at hopen
      cases hopen
  | accepted number listener first pending hlistener hpending =>
      refine hlisted.update rfl rfl (fun _ => ⟨rfl, rfl, rfl⟩) fun other hother hclosed => ?_
      rw [hlistener] at hother
      cases hother
      rw [(hlisted.settled number listener hlistener).2 hclosed] at hpending
      cases hpending
  | shut number listener hlistener hopen => exact hlisted.shut hlistener
  | abandoned number dials => exact hlisted.congr (listeners_abandon ..) (registry_abandon ..)
  | unregistered number dials => exact hlisted.unregister
  | listened endpoint hfree => exact hlisted.listen hfree
  | idle hplain hnext => rwa [hnext.leaves, ← hplain.leaves]
  | stayed => exact hlisted

-- A dial is queued only where dials are taken.
theorem queued (h : Effect before errand next after) {number dialed : Nat} {listener : Listener}
    (hlistener : after.listeners[number]? = some listener) (hmem : dialed ∈ listener.pending) :
    ∃ old, before.listeners[number]? = some old ∧
      (dialed ∈ old.pending ∨ old.isOpen = true ∧ listener.isOpen = true) := by
  cases h with
  | offered endpoint other opened duplex hopened hopen hpair =>
      rcases getElem?_modify_cases hlistener with ⟨rfl, old, hold, rfl⟩ | ⟨-, hold⟩
      · rw [hopened] at hold
        cases hold
        exact ⟨opened, hopened, (List.mem_append.mp hmem).imp_right fun _ => ⟨hopen, hopen⟩⟩
      · exact ⟨listener, hold, .inl hmem⟩
  | accepted other accepting first pending haccepting hpending =>
      rcases getElem?_modify_cases hlistener with ⟨rfl, old, hold, rfl⟩ | ⟨-, hold⟩
      · rw [haccepting] at hold
        cases hold
        exact ⟨accepting, haccepting, .inl (hpending ▸ List.mem_cons_of_mem _ hmem)⟩
      · exact ⟨listener, hold, .inl hmem⟩
  | shut other closing hclosing hopen =>
      rcases getElem?_modify_cases hlistener with ⟨-, old, -, rfl⟩ | ⟨-, hold⟩
      · cases hmem
      · exact ⟨listener, hold, .inl hmem⟩
  | listened endpoint hfree =>
      rcases getElem?_concat_cases hlistener with hold | ⟨-, rfl⟩
      · exact ⟨listener, hold, .inl hmem⟩
      · cases hmem
  | abandoned other dials =>
      rw [listeners_abandon] at hlistener
      exact ⟨listener, hlistener, .inl hmem⟩
  | _ => exact ⟨listener, hlistener, .inl hmem⟩

-- Who is no longer registered was taken out by whoever closed that very listener.
theorem unregisters (h : Effect before errand next after) {address : String} {number : Nat}
    (hentry : (address, number) ∈ before.registry) (hgone : (address, number) ∉ after.registry) :
    ∃ dials, errand = .leaving number dials ∧ next = .closed dials := by
  cases h with
  | unregistered other dials =>
      obtain rfl : number = other := by
        by_contra hne
        exact hgone (List.mem_filter.mpr ⟨hentry, bne_iff_ne.mpr hne⟩)
      exact ⟨dials, rfl, rfl⟩
  | abandoned other dials => exact absurd (registry_abandon dials before ▸ hentry) hgone
  | listened endpoint hfree => exact absurd (List.mem_cons_of_mem _ hentry) hgone
  | _ => exact absurd hentry hgone

end Errand.Effect

end Hub

end FramedLines
