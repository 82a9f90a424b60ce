import FramedLines.Proofs.History
import FramedLines.Proofs.Lists
import Mathlib.Data.List.Nodup

-- Who listens where, and the dials that wait. In every history the dials to a listener are given
-- out in the order in which they were made, each of them once.

namespace FramedLines

namespace Hub

theorem listener_of_listensAt {hub : Hub} {number : Nat} {address : String}
    (hlistens : hub.listensAt number address = true) :
    ∃ listener, hub.listeners[number]? = some listener ∧ listener.closed = false := by
  obtain ⟨listener, hlistener, hopen⟩ := (Option.any_eq_true _ _).mp hlistens
  exact ⟨listener, hlistener, by simp_all⟩

@[simp] theorem listeners_abandon (dialed : List Nat) (hub : Hub) :
    (hub.abandon dialed).listeners = hub.listeners := by
  induction dialed generalizing hub with
  | nil => rfl
  | cons number dialed ih => exact ih _

@[simp] theorem registry_abandon (dialed : List Nat) (hub : Hub) :
    (hub.abandon dialed).registry = hub.registry := by
  induction dialed generalizing hub with
  | nil => rfl
  | cons number dialed ih => exact ih _

@[simp] theorem length_connections_abandon (dialed : List Nat) (hub : Hub) :
    (hub.abandon dialed).connections.length = hub.connections.length := by
  induction dialed generalizing hub with
  | nil => rfl
  | cons number dialed ih =>
      refine (ih _).trans ?_
      exact List.length_modify ..

theorem listeners_close {hub : Hub} {number : Nat} {listener : Listener}
    (hlistener : hub.listeners[number]? = some listener) (hopen : listener.closed = false) :
    (hub.close number).listeners = hub.listeners.modify number fun listener =>
      { listener with closed := true, isOpen := false, pending := [] } := by
  simp [close, hlistener, hopen, shut, unregister, updateListener]

-- Whoever may listen gets a new number, and whoever listened before is left alone.
theorem listen_made {hub after : Hub} {endpoint : Endpoint} {number : Nat}
    (hlisten : hub.listen endpoint = .ok (number, after)) :
    hub.listeners[number]? = none ∧ after.listeners[number]? = some { endpoint } ∧
      after.registered? endpoint.address = some number ∧
      ∀ other, other ≠ number → after.listeners[other]? = hub.listeners[other]? := by
  unfold Hub.listen at hlisten
  split at hlisten
  · cases hlisten
  · cases hlisten
    refine ⟨List.getElem?_length _, List.getElem?_concat_length, List.lookup_cons_self,
      fun other hother => ?_⟩
    rcases Nat.lt_or_gt_of_ne hother with hless | hgreater
    · exact List.getElem?_append_left hless
    · rw [List.getElem?_append_right (Nat.le_of_lt hgreater),
        List.getElem?_eq_none (Nat.le_of_lt hgreater)]
      exact List.getElem?_eq_none (Nat.sub_pos_of_lt hgreater)

-- A hub as it is between acts.
structure Sound (hub : Hub) : Prop where
  unshadowed : (hub.registry.map Prod.fst).Nodup
  registered : ∀ address number,
    (address, number) ∈ hub.registry ↔ hub.listensAt number address = true
  settled : ∀ (number : Nat) (listener : Listener), hub.listeners[number]? = some listener →
    listener.isOpen = !listener.closed

theorem lookup_eq_some_iff_mem {registry : List (String × Nat)}
    (hunshadowed : (registry.map Prod.fst).Nodup) {address : String} {number : Nat} :
    registry.lookup address = some number ↔ (address, number) ∈ registry := by
  induction registry with
  | nil => simp
  | cons entry registry ih =>
      obtain ⟨key, value⟩ := entry
      rw [List.map_cons, List.nodup_cons] at hunshadowed
      rw [List.lookup_cons, List.mem_cons, Prod.mk.injEq]
      by_cases hkey : address = key
      · subst hkey
        have hnot : (address, number) ∉ registry := fun hmem =>
          hunshadowed.1 (List.mem_map.mpr ⟨_, hmem, rfl⟩)
        simp [hnot, eq_comm]
      · simp [beq_eq_false_iff_ne.mpr hkey, hkey, ih hunshadowed.2]

namespace Sound

variable {hub after : Hub} {number other : Nat} {address : String}

theorem registered?_iff (h : hub.Sound) :
    hub.registered? address = some number ↔ hub.listensAt number address = true := by
  rw [registered?, lookup_eq_some_iff_mem h.unshadowed, h.registered]

-- No two listeners take dials to one address.
theorem listensAt_unique (h : hub.Sound) (hone : hub.listensAt number address = true)
    (hother : hub.listensAt other address = true) : number = other := by
  rw [← h.registered?_iff] at hone hother
  exact Option.some.inj (hone.symm.trans hother)

-- What dials wait at a listener is of no account here.
theorem update (h : hub.Sound) {f : Listener → Listener}
    (hf : ∀ listener, (f listener).endpoint = listener.endpoint ∧
      (f listener).closed = listener.closed ∧ (f listener).isOpen = listener.isOpen)
    (hlisteners : after.listeners = hub.listeners.modify number f)
    (hregistry : after.registry = hub.registry) : after.Sound := by
  have hsame (index : Nat) (address : String) :
      after.listensAt index address = hub.listensAt index address := by
    rw [listensAt, listensAt, hlisteners, List.getElem?_modify]
    cases hub.listeners[index]? with
    | none => rfl
    | some listener =>
        obtain ⟨hendpoint, hclosed, -⟩ := hf listener
        by_cases hnumber : number = index <;> simp [hnumber, hendpoint, hclosed]
  refine ⟨hregistry ▸ h.unshadowed, fun address index => ?_, fun index listener hlistener => ?_⟩
  · rw [hregistry, h.registered, hsame]
  · rw [hlisteners] at hlistener
    rcases getElem?_modify_cases hlistener with ⟨-, old, hold, rfl⟩ | ⟨-, hold⟩
    · obtain ⟨-, hclosed, hisOpen⟩ := hf old
      rw [hclosed, hisOpen, h.settled index old hold]
    · exact h.settled index listener hold

-- A new listener, at an address where nobody listens.
theorem listen (h : hub.Sound) {endpoint : Endpoint}
    (hfree : hub.registered? endpoint.address = none) :
    Sound { hub with
      registry := (endpoint.address, hub.listeners.length) :: hub.registry
      listeners := hub.listeners ++ [{ endpoint }] } := by
  rw [registered?, List.lookup_eq_none_iff] at hfree
  refine ⟨?_, fun address index => ?_, fun index listener hlistener => ?_⟩
  · rw [List.map_cons, List.nodup_cons]
    refine ⟨fun hmem => ?_, h.unshadowed⟩
    obtain ⟨entry, hentry, hkey⟩ := List.mem_map.mp hmem
    simpa [hkey] using hfree entry hentry
  · rw [List.mem_cons, h.registered, Prod.mk.injEq, listensAt, listensAt]
    rcases Nat.lt_trichotomy index hub.listeners.length with hlt | rfl | hgt
    · simp [List.getElem?_append_left hlt, Nat.ne_of_lt hlt]
    · simpa using eq_comm
    · have hbeyond : (hub.listeners ++ [({ endpoint } : Listener)]).length ≤ index := by
        rw [List.length_append]
        exact hgt
      rw [List.getElem?_eq_none hbeyond, List.getElem?_eq_none (Nat.le_of_lt hgt)]
      simp [Nat.ne_of_gt hgt]
  · rcases List.mem_append.mp (List.mem_of_getElem? hlistener) with hold | hnew
    · obtain ⟨old, hold⟩ := List.getElem?_of_mem hold
      exact h.settled old listener hold
    · rw [List.mem_singleton.mp hnew]
      rfl

-- A listener that closes, and gives its address free.
theorem shut (h : hub.Sound) {f : Listener → Listener}
    (hf : ∀ listener, (f listener).closed = true ∧ (f listener).isOpen = false)
    (hlisteners : after.listeners = hub.listeners.modify number f)
    (hregistry : after.registry = hub.registry.filter (·.2 != number)) : after.Sound := by
  refine ⟨?_, fun address index => ?_, fun index listener hlistener => ?_⟩
  · rw [hregistry]
    exact h.unshadowed.sublist (List.Sublist.map _ List.filter_sublist)
  · rw [hregistry, List.mem_filter, h.registered, listensAt, listensAt, hlisteners,
      List.getElem?_modify]
    cases hub.listeners[index]? with
    | none => simp
    | some listener =>
        by_cases hnumber : number = index
        · simp [hnumber, hf]
        · simp [hnumber, Ne.symm hnumber]
  · rw [hlisteners] at hlistener
    rcases getElem?_modify_cases hlistener with ⟨-, old, hold, rfl⟩ | ⟨-, hold⟩
    · rw [(hf old).1, (hf old).2]
      rfl
    · exact h.settled index listener hold

end Sound

theorem Effect.sound {before after : Hub} {act : Act} {outcome : Outcome}
    (h : Effect before act outcome after) (hsound : before.Sound) : after.Sound := by
  cases h with
  | listened endpoint hfree => exact hsound.listen hfree
  | dialed endpoint number listener duplex hregistered hlistener hopen hpair =>
      refine hsound.update ?_ rfl rfl
      exact fun _ => ⟨rfl, rfl, rfl⟩
  | accepted number limit listener dialed pending hlistener hopen hpending =>
      refine hsound.update ?_ rfl rfl
      exact fun _ => ⟨rfl, rfl, rfl⟩
  | shut number listener hlistener hopen =>
      refine hsound.shut (fun _ => ⟨rfl, rfl⟩) (listeners_abandon ..) ?_
      exact congrArg (List.filter _) (registry_abandon ..)
  | called number side request c hconnection => exact ⟨hsound.1, hsound.2, hsound.3⟩
  | idle _ _ _ => exact hsound

theorem Step.dialTo?_idle {before : Hub} {act : Act} {outcome : Outcome}
    (hidle : outcome.isIdle = true) (listener : Nat) :
    Step.dialTo? listener ⟨before, act, outcome⟩ = none := by
  unfold dialTo?
  split
  · simp_all [Outcome.isIdle]
  · rfl

theorem Step.acceptFrom?_idle {before : Hub} {act : Act} {outcome : Outcome}
    (hidle : outcome.isIdle = true) (listener : Nat) :
    Step.acceptFrom? listener ⟨before, act, outcome⟩ = none := by
  unfold acceptFrom?
  split
  · next number limit dialed? _ hanswer =>
      cases dialed? with
      | none => simp
      | some dialed => simp_all [Outcome.isIdle]
  · rfl

theorem Step.hands_idle {before : Hub} {act : Act} {outcome : Outcome}
    (hidle : outcome.isIdle = true) (connection : Nat) (side : End) :
    Step.hands connection side ⟨before, act, outcome⟩ = false := by
  unfold hands
  split <;> simp_all [Outcome.isIdle]

namespace History

variable {history : History} {endpoint : Endpoint} {number dialed : Nat} {after : Hub}

-- A dial goes to the one that listens at its address.
theorem dialsTo_record_dial (hsound : history.hub.Sound)
    (hlistens : history.hub.listensAt number endpoint.address = true) (index : Nat) :
    (history.record (.dial endpoint) (.dialed (.ok dialed)) after).dialsTo index =
      history.dialsTo index ++ if index = number then [dialed] else [] := by
  rw [dialsTo_record]
  by_cases hindex : index = number
  · simp [Step.dialTo?, hindex, hlistens]
  · have hnot : history.hub.listensAt index endpoint.address = false :=
      Bool.eq_false_iff.mpr fun hother => hindex (hsound.listensAt_unique hother hlistens)
    simp [Step.dialTo?, hindex, hnot]

theorem mem_dialsTo_record_dial (hsound : history.hub.Sound)
    (hlistens : history.hub.listensAt number endpoint.address = true) {index other : Nat} :
    other ∈ (history.record (.dial endpoint) (.dialed (.ok dialed)) after).dialsTo index ↔
      other ∈ history.dialsTo index ∨ index = number ∧ other = dialed := by
  rw [dialsTo_record_dial hsound hlistens, List.mem_append]
  by_cases hindex : index = number <;> simp [hindex]

theorem acceptedFrom_record_dial (index : Nat) :
    (history.record (.dial endpoint) (.dialed (.ok dialed)) after).acceptedFrom index =
      history.acceptedFrom index := by
  simp [acceptedFrom_record, Step.acceptFrom?]

theorem dialsTo_record_wait {limit : Duration} (index : Nat) :
    (history.record (.wait number limit) (.waited (some (some dialed))) after).dialsTo index =
      history.dialsTo index := by
  simp [dialsTo_record, Step.dialTo?]

theorem acceptedFrom_record_wait {limit : Duration} (index : Nat) :
    (history.record (.wait number limit) (.waited (some (some dialed))) after).acceptedFrom index =
      history.acceptedFrom index ++ if number = index then [dialed] else [] := by
  rw [acceptedFrom_record]
  by_cases hindex : number = index <;> simp [Step.acceptFrom?, hindex]

end History

-- Every dial made a connection of its own, and went to a listener.
structure Numbered (history : History) : Prop where
  unborn : ∀ number, history.hub.listeners.length ≤ number → history.dialsTo number = []
  made : ∀ number, ∀ dialed ∈ history.dialsTo number, dialed < history.hub.connections.length
  distinct : ∀ number, (history.dialsTo number).Nodup
  apart : ∀ one other dialed, dialed ∈ history.dialsTo one → dialed ∈ history.dialsTo other →
    one = other
  heard : ∀ dialed, history.holds dialed .first = true → ∃ number, dialed ∈ history.dialsTo number

namespace Numbered

variable {history next : History}

theorem keep (h : Numbered history)
    (hdials : ∀ number, next.dialsTo number = history.dialsTo number)
    (hholds : ∀ dialed, next.holds dialed .first = history.holds dialed .first)
    (hlisteners : history.hub.listeners.length ≤ next.hub.listeners.length)
    (hconnections : history.hub.connections.length ≤ next.hub.connections.length) :
    Numbered next := by
  constructor
  · intro number hnumber
    rw [hdials]
    exact h.unborn number (Nat.le_trans hlisteners hnumber)
  · intro number dialed hdialed
    rw [hdials] at hdialed
    exact Nat.lt_of_lt_of_le (h.made number dialed hdialed) hconnections
  · intro number
    rw [hdials]
    exact h.distinct number
  · intro one other dialed hone hother
    rw [hdials] at hone hother
    exact h.apart one other dialed hone hother
  · intro dialed hheld
    rw [hholds] at hheld
    simpa only [hdials] using h.heard dialed hheld

-- The connection of a new dial was not there before.
theorem dial (h : Numbered history) (hsound : history.hub.Sound) {endpoint : Endpoint}
    {number : Nat} {after : Hub}
    (hlistens : history.hub.listensAt number endpoint.address = true)
    (hbound : number < history.hub.listeners.length)
    (hlisteners : after.listeners.length = history.hub.listeners.length)
    (hconnections : after.connections.length = history.hub.connections.length + 1) :
    Numbered (history.record (.dial endpoint) (.dialed (.ok history.hub.connections.length))
      after) := by
  have hmem {index dialed : Nat} : dialed ∈ (history.record (.dial endpoint)
      (.dialed (.ok history.hub.connections.length)) after).dialsTo index ↔ _ :=
    History.mem_dialsTo_record_dial hsound hlistens
  have hnew (index : Nat) : history.hub.connections.length ∉ history.dialsTo index :=
    fun hmem => Nat.lt_irrefl _ (h.made index _ hmem)
  constructor
  · intro index hindex
    change after.listeners.length ≤ index at hindex
    rw [hlisteners] at hindex
    rw [History.dialsTo_record_dial hsound hlistens, h.unborn index hindex, if_neg (by omega)]
    rfl
  · intro index dialed hdialed
    change dialed < after.connections.length
    rw [hconnections]
    rcases hmem.mp hdialed with hold | ⟨-, rfl⟩
    · exact Nat.lt_succ_of_lt (h.made index dialed hold)
    · exact Nat.lt_succ_self _
  · intro index
    rw [History.dialsTo_record_dial hsound hlistens]
    split
    · rw [← List.concat_eq_append]
      exact (h.distinct index).concat (hnew index)
    · rw [List.append_nil]
      exact h.distinct index
  · intro one other dialed hone hother
    rcases hmem.mp hone with hone | ⟨rfl, rfl⟩ <;> rcases hmem.mp hother with hother | ⟨rfl, hlast⟩
    · exact h.apart one other dialed hone hother
    · exact absurd (hlast ▸ hone) (hnew one)
    · exact absurd hother (hnew other)
    · rfl
  · intro dialed hheld
    rw [History.holds_record, Bool.or_eq_true] at hheld
    rcases hheld with hheld | hhands
    · obtain ⟨index, hold⟩ := h.heard dialed hheld
      exact ⟨index, hmem.mpr (.inl hold)⟩
    · exact ⟨number, hmem.mpr (.inr ⟨rfl, (of_decide_eq_true hhands).symm⟩)⟩

end Numbered

-- The dials to every listener are the ones that were given out and behind them the ones that
-- still wait, unless it has closed.
structure Ordered (history : History) : Prop extends Numbered history where
  queued : ∀ (number : Nat) (listener : Listener),
    history.hub.listeners[number]? = some listener → listener.closed = false →
      history.acceptedFrom number ++ listener.pending = history.dialsTo number
  emptied : ∀ (number : Nat) (listener : Listener),
    history.hub.listeners[number]? = some listener → listener.closed = true →
      listener.pending = []
  inOrder : ∀ number, history.acceptedFrom number <+: history.dialsTo number

namespace Ordered

variable {history next : History}

-- Acts that neither dial nor accept.
theorem keep (h : Ordered history) (hdials : ∀ number, next.dialsTo number = history.dialsTo number)
    (haccepted : ∀ number, next.acceptedFrom number = history.acceptedFrom number)
    (hholds : ∀ dialed, next.holds dialed .first = history.holds dialed .first)
    (hlisteners : ∀ (number : Nat) (listener : Listener),
      next.hub.listeners[number]? = some listener →
        history.hub.listeners[number]? = some listener ∨
        listener.pending = [] ∧
          (listener.closed = false → history.hub.listeners.length ≤ number))
    (hlength : history.hub.listeners.length ≤ next.hub.listeners.length)
    (hconnections : history.hub.connections.length ≤ next.hub.connections.length) :
    Ordered next := by
  refine ⟨h.toNumbered.keep hdials hholds hlength hconnections,
    fun number listener hlistener hopen => ?_, fun number listener hlistener hclosed => ?_,
    fun number => ?_⟩
  · rw [hdials, haccepted]
    rcases hlisteners number listener hlistener with hold | ⟨hnew, hbeyond⟩
    · exact h.queued number listener hold hopen
    · have hnone := h.unborn number (hbeyond hopen)
      have hprefix := h.inOrder number
      rw [hnone] at hprefix ⊢
      rw [List.prefix_nil.mp hprefix, hnew, List.append_nil]
  · rcases hlisteners number listener hlistener with hold | ⟨hnew, -⟩
    · exact h.emptied number listener hold hclosed
    · exact hnew
  · rw [hdials, haccepted]
    exact h.inOrder number

-- A dial joins the end of the queue of the one listening at its address.
theorem dial (h : Ordered history) (hsound : history.hub.Sound) {endpoint : Endpoint}
    {number : Nat} {listener : Listener} {after : Hub}
    (hlistens : history.hub.listensAt number endpoint.address = true)
    (hlistener : history.hub.listeners[number]? = some listener) (hopen : listener.closed = false)
    (hlisteners : after.listeners = history.hub.listeners.modify number fun listener =>
      { listener with pending := listener.pending ++ [history.hub.connections.length] })
    (hconnections : after.connections.length = history.hub.connections.length + 1) :
    Ordered (history.record (.dial endpoint) (.dialed (.ok history.hub.connections.length))
      after) := by
  have hbound := (List.getElem?_eq_some_iff.mp hlistener).1
  refine ⟨h.toNumbered.dial hsound hlistens hbound (by rw [hlisteners, List.length_modify])
    hconnections, fun index other hother hopen => ?_, fun index other hother hclosed => ?_,
    fun index => ?_⟩
  · rw [History.dialsTo_record_dial hsound hlistens, History.acceptedFrom_record_dial]
    rw [History.record, hlisteners] at hother
    rcases getElem?_modify_cases hother with ⟨rfl, old, hold, rfl⟩ | ⟨hindex, hold⟩
    · rw [if_pos rfl, ← List.append_assoc, h.queued number old hold hopen]
    · rw [if_neg (Ne.symm hindex), List.append_nil, h.queued index other hold hopen]
  · rw [History.record, hlisteners] at hother
    rcases getElem?_modify_cases hother with ⟨rfl, old, hold, rfl⟩ | ⟨-, hold⟩
    · rw [hlistener] at hold
      cases hold
      exact absurd hclosed (by simp [hopen])
    · exact h.emptied index other hold hclosed
  · rw [History.dialsTo_record_dial hsound hlistens, History.acceptedFrom_record_dial]
    exact (h.inOrder index).trans (List.prefix_append _ _)

-- Whoever is given a dial takes the first of the queue.
theorem accept (h : Ordered history) {number : Nat} {limit : Duration} {listener : Listener}
    {dialed : Nat} {pending : List Nat} {after : Hub}
    (hlistener : history.hub.listeners[number]? = some listener) (hopen : listener.closed = false)
    (hpending : listener.pending = dialed :: pending)
    (hlisteners : after.listeners = history.hub.listeners.modify number fun listener =>
      { listener with pending })
    (hconnections : after.connections = history.hub.connections) :
    Ordered (history.record (.wait number limit) (.waited (some (some dialed))) after) := by
  have hqueued := h.queued number listener hlistener hopen
  rw [hpending, List.append_cons] at hqueued
  refine ⟨h.toNumbered.keep History.dialsTo_record_wait (fun _ => ?_) ?_ ?_,
    fun index other hother hopen => ?_, fun index other hother hclosed => ?_, fun index => ?_⟩
  · simp [History.holds_record, Step.hands]
  · exact Nat.le_of_eq (by rw [History.record, hlisteners, List.length_modify])
  · exact Nat.le_of_eq (by rw [History.record, hconnections])
  · rw [History.dialsTo_record_wait, History.acceptedFrom_record_wait]
    rw [History.record, hlisteners] at hother
    rcases getElem?_modify_cases hother with ⟨rfl, old, hold, rfl⟩ | ⟨hindex, hold⟩
    · rw [if_pos rfl]
      exact hqueued
    · rw [if_neg hindex, List.append_nil, h.queued index other hold hopen]
  · rw [History.record, hlisteners] at hother
    rcases getElem?_modify_cases hother with ⟨rfl, old, hold, rfl⟩ | ⟨-, hold⟩
    · rw [hlistener] at hold
      cases hold
      exact absurd hclosed (by simp [hopen])
    · exact h.emptied index other hold hclosed
  · rw [History.dialsTo_record_wait, History.acceptedFrom_record_wait]
    by_cases hindex : number = index
    · subst hindex
      rw [if_pos rfl]
      exact ⟨pending, hqueued⟩
    · rw [if_neg hindex, List.append_nil]
      exact h.inOrder index

-- What one act preserves.
theorem record (h : Ordered history) (hsound : history.hub.Sound) {act : Act} {outcome : Outcome}
    {after : Hub} (heffect : Effect history.hub act outcome after) :
    Ordered (history.record act outcome after) := by
  cases heffect with
  | listened endpoint hfree =>
      refine h.keep (by simp [History.dialsTo_record, Step.dialTo?])
        (by simp [History.acceptedFrom_record, Step.acceptFrom?])
        (by simp [History.holds_record, Step.hands]) (fun index other hother => ?_) ?_
        (Nat.le_refl _)
      · change (history.hub.listeners ++ [({ endpoint } : Listener)])[index]? = some other at hother
        by_cases hindex : index < history.hub.listeners.length
        · rw [List.getElem?_append_left hindex] at hother
          exact .inl hother
        · rw [List.getElem?_append_right (Nat.le_of_not_lt hindex)] at hother
          rw [List.mem_singleton.mp (List.mem_of_getElem? hother)]
          exact .inr ⟨rfl, fun _ => Nat.le_of_not_lt hindex⟩
      · exact (List.prefix_append history.hub.listeners _).length_le
  | dialed endpoint number listener duplex hregistered hlistener hopen hpair =>
      have hclosed : listener.closed = false := by
        simpa [hopen] using hsound.settled number listener hlistener
      exact h.dial hsound (hsound.registered?_iff.mp hregistered) hlistener hclosed rfl
        List.length_append
  | accepted number limit listener dialed pending hlistener hopen hpending =>
      exact h.accept hlistener hopen hpending rfl rfl
  | shut number listener hlistener hopen =>
      refine h.keep (by simp [History.dialsTo_record, Step.dialTo?])
        (by simp [History.acceptedFrom_record, Step.acceptFrom?])
        (by simp [History.holds_record, Step.hands]) (fun index other hother => ?_) ?_ ?_
      · rw [History.record, unregister, listeners_abandon] at hother
        rcases getElem?_modify_cases hother with ⟨-, old, -, rfl⟩ | ⟨-, hold⟩
        · exact .inr ⟨rfl, fun hopen => by cases hopen⟩
        · exact .inl hold
      · rw [History.record, unregister, listeners_abandon]
        exact Nat.le_of_eq (List.length_modify ..).symm
      · rw [History.record, unregister, length_connections_abandon]
        exact Nat.le_refl _
  | called number side request c hconnection =>
      refine h.keep (by simp [History.dialsTo_record, Step.dialTo?])
        (by simp [History.acceptedFrom_record, Step.acceptFrom?])
        (by simp [History.holds_record, Step.hands]) (fun index other hother => .inl hother)
        (Nat.le_refl _) ?_
      exact Nat.le_of_eq (List.length_modify ..).symm
  | idle _ _ hidle =>
      exact h.keep (by simp [History.dialsTo_record, Step.dialTo?_idle hidle])
        (by simp [History.acceptedFrom_record, Step.acceptFrom?_idle hidle])
        (by simp [History.holds_record, Step.hands_idle hidle])
        (fun index other hother => .inl hother) (Nat.le_refl _) (Nat.le_refl _)

end Ordered

end Hub

end FramedLines
