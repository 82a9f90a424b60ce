import FramedLines.Proofs.Leaving

-- Where the dials are while calls on one hub overlap. A dial can find a listener that closes before
-- the dial gets to it, an address can be in the registry while its listener closes, and still no
-- dial is lost and none is given out twice.

namespace FramedLines

-- What the items of a list make up together, one of them set apart.
theorem exists_others {α : Type} {items : List α} {index : Nat} {item : α}
    (hitem : items[index]? = some item) (f : α → List Nat) :
    ∃ others, (items.flatMap f).Perm (f item ++ others) ∧
      ∀ next, ((items.set index next).flatMap f).Perm (f next ++ others) := by
  obtain ⟨hindex, rfl⟩ := List.getElem?_eq_some_iff.mp hitem
  have hset (next : α) : ((items.set index next).flatMap f).Perm
      (f next ++ ((items.take index).flatMap f ++ (items.drop (index + 1)).flatMap f)) := by
    rw [List.set_eq_take_append_cons_drop, if_pos hindex, List.flatMap_append, List.flatMap_cons]
    exact List.perm_append_comm_assoc ..
  refine ⟨_, ?_, hset⟩
  have hself := hset items[index]
  rwa [List.set_getElem_self] at hself

namespace Hub

-- The dials that wait at any listener.
def pending (hub : Hub) : List Nat := hub.listeners.flatMap Listener.pending

theorem count_pending_modify {listeners : List Listener} {number : Nat} {listener : Listener}
    (hlistener : listeners[number]? = some listener) (f : Listener → Listener) (dialed : Nat) :
    ((listeners.modify number f).flatMap Listener.pending).count dialed +
        listener.pending.count dialed =
      (listeners.flatMap Listener.pending).count dialed + (f listener).pending.count dialed := by
  obtain ⟨others, hbefore, hafter⟩ := exists_others hlistener Listener.pending
  rw [modify_eq_set hlistener, (hafter _).count_eq, hbefore.count_eq]
  simp only [List.count_append]
  omega

namespace Errand.Effect

variable {before after : Hub} {errand next : Errand}

-- Only a dial that goes through makes a connection, and it knows which one.
theorem made (h : Effect before errand next after) (dialed : Nat) :
    next.made.count dialed + (List.range before.connections.length).count dialed =
      errand.made.count dialed + (List.range after.connections.length).count dialed := by
  cases h with
  | offered endpoint number listener duplex hlistener hopen hpair =>
      simp [Errand.made, List.range_succ, Nat.add_comm]
  | idle hplain hnext => rw [hplain.made, hnext.made]
  | abandoned number dials => simp [Errand.made]
  | _ => rfl

-- A dial that is made waits somewhere, and one that no longer waits was handed over or taken out.
theorem conserved (h : Effect before errand next after) (dialed : Nat) :
    after.pending.count dialed + next.handed.count dialed + next.taken.count dialed +
        errand.made.count dialed =
      before.pending.count dialed + errand.handed.count dialed + errand.taken.count dialed +
        next.made.count dialed := by
  cases h with
  | offered endpoint number listener duplex hlistener hopen hpair =>
      have hcount := count_pending_modify hlistener (fun listener =>
        { listener with pending := listener.pending ++ [before.connections.length] }) dialed
      rw [List.count_append] at hcount
      simp only [Errand.made, Errand.handed, Errand.taken, List.count_nil, Hub.pending]
      omega
  | accepted number listener first pending hlistener hpending =>
      have hcount := count_pending_modify hlistener (fun listener => { listener with pending })
        dialed
      simp only [hpending, List.count_cons] at hcount
      simp only [Errand.made, Errand.handed, Errand.taken, List.count_nil, List.count_cons,
        Hub.pending, updateListener]
      omega
  | shut number listener hlistener hopen =>
      have hcount := count_pending_modify hlistener (fun listener =>
        { listener with closed := true, isOpen := false, pending := [] }) dialed
      simp only [Errand.made, Errand.handed, Errand.taken, List.count_nil, Hub.pending,
        updateListener] at hcount ⊢
      omega
  | abandoned number dials => simp [Errand.made, Errand.handed, Errand.taken, Hub.pending]
  | unregistered number dials => rfl
  | listened endpoint hfree =>
      simp [Errand.made, Errand.handed, Errand.taken, Hub.pending]
  | idle hplain hnext =>
      rw [hplain.made, hplain.handed, hplain.taken, hnext.made, hnext.handed, hnext.taken]
  | stayed => rfl

end Errand.Effect

namespace Traffic

-- Every connection is one that a dial made, and it waits, or somebody has got it, or whoever
-- closed its listener has taken it out.
structure Counted (traffic : Traffic) : Prop where
  made : ∀ dialed, traffic.made.count dialed =
    (List.range traffic.hub.connections.length).count dialed
  placed : ∀ dialed, traffic.hub.pending.count dialed + traffic.handed.count dialed +
    traffic.taken.count dialed = traffic.made.count dialed

namespace Counted

variable {traffic before after : Traffic} {dialed : Nat}

theorem change (h : before.Counted) (hchange : Change before after) : after.Counted := by
  cases hchange with
  | idle => exact h
  | begun errand hplain =>
      refine ⟨fun dialed => ?_, fun dialed => ?_⟩
      · simpa [Traffic.made, begin, hplain.made] using h.made dialed
      · simpa [Traffic.made, Traffic.handed, Traffic.taken, begin, hplain.made, hplain.handed,
          hplain.taken] using h.placed dialed
  | advanced index errand next hub herrand heffect =>
      obtain ⟨made, hmadeBefore, hmadeAfter⟩ := exists_others herrand Errand.made
      obtain ⟨handed, hhandedBefore, hhandedAfter⟩ := exists_others herrand Errand.handed
      obtain ⟨taken, htakenBefore, htakenAfter⟩ := exists_others herrand Errand.taken
      have hmade := h.made
      have hplaced := h.placed
      simp only [Traffic.made, Traffic.handed, Traffic.taken, hmadeBefore.count_eq,
        hhandedBefore.count_eq, htakenBefore.count_eq, List.count_append] at hmade hplaced
      refine ⟨fun dialed => ?_, fun dialed => ?_⟩
      all_goals
        simp only [Traffic.made, Traffic.handed, Traffic.taken, (hmadeAfter next).count_eq,
          (hhandedAfter next).count_eq, (htakenAfter next).count_eq, List.count_append]
      · have := hmade dialed
        have := heffect.made dialed
        omega
      · have := hplaced dialed
        have := heffect.conserved dialed
        omega

theorem count_made_le_one (h : traffic.Counted) (dialed : Nat) : traffic.made.count dialed ≤ 1 := by
  rw [h.made]
  exact List.nodup_iff_count_le_one.mp List.nodup_range dialed

theorem nodup_taken (h : traffic.Counted) : traffic.taken.Nodup := by
  refine List.nodup_iff_count_le_one.mpr fun dialed => ?_
  have := h.placed dialed
  have := h.count_made_le_one dialed
  omega

theorem lt_of_mem_taken (h : traffic.Counted) (hmem : dialed ∈ traffic.taken) :
    dialed < traffic.hub.connections.length := by
  have hcount := List.count_pos_iff.mpr hmem
  have hplaced := h.placed dialed
  rw [h.made] at hplaced
  exact List.mem_range.mp (List.count_pos_iff.mp (by omega))

end Counted

theorem mem_taken_of_mem_dropped {traffic : Traffic} {dialed : Nat}
    (hmem : dialed ∈ traffic.dropped) : dialed ∈ traffic.taken := by
  obtain ⟨errand, herrand, hdropped⟩ := List.mem_flatMap.mp hmem
  refine List.mem_flatMap.mpr ⟨errand, herrand, ?_⟩
  cases errand with
  | leaving listener dials => exact hdropped
  | closed dials => exact hdropped
  | _ => cases hdropped

-- Both ends of a connection are held until the call that closes its listener cuts it off.
structure Cut (traffic : Traffic) : Prop extends Counted traffic where
  joined : ∀ (number : Nat) (c : Connection), traffic.hub.connections[number]? = some c →
    (∃ duplex, c.Piped duplex) ∧ (c.joined = true ↔ number ∉ traffic.dropped)

theorem Cut.change {before after : Traffic} (h : before.Cut) (hchange : Change before after) :
    after.Cut := by
  refine ⟨h.toCounted.change hchange, ?_⟩
  cases hchange with
  | idle => exact h.joined
  | begun errand hplain =>
      simpa [Traffic.dropped, begin, hplain.dropped] using h.joined
  | advanced index errand next hub herrand heffect =>
      obtain ⟨others, hbefore, hafter⟩ := exists_others herrand Errand.dropped
      have hold (number : Nat) : number ∈ before.dropped ↔
          number ∈ errand.dropped ∨ number ∈ others := hbefore.mem_iff.trans List.mem_append
      have hnew (number : Nat) : number ∈ Traffic.dropped ⟨hub, before.errands.set index next⟩ ↔
          number ∈ next.dropped ∨ number ∈ others := (hafter next).mem_iff.trans List.mem_append
      have hkept (hdropped : next.dropped = errand.dropped) {number : Nat} {c : Connection}
          (hc : before.hub.connections[number]? = some c) :
          (∃ duplex, c.Piped duplex) ∧ (c.joined = true ↔
            number ∉ Traffic.dropped ⟨hub, before.errands.set index next⟩) := by
        rw [hnew, hdropped, ← hold]
        exact h.joined number c hc
      intro number c hc
      cases heffect with
      | offered endpoint _ listener duplex hlistener hopen hpair =>
          rcases getElem?_concat_cases hc with hc | ⟨rfl, rfl⟩
          · exact hkept rfl hc
          · have hpiped := (Connection.Piped.of_pair hpair { endpoint }
              { endpoint := listener.endpoint } rfl rfl).1
            refine ⟨⟨duplex, hpiped⟩, iff_of_true rfl fun hmem => ?_⟩
            have hothers := ((hnew _).mp hmem).resolve_left List.not_mem_nil
            exact Nat.lt_irrefl _
              (h.lt_of_mem_taken (mem_taken_of_mem_dropped ((hold _).mpr (.inr hothers))))
      | abandoned listener dials =>
          by_cases hmem : number ∈ dials
          · obtain ⟨taken, htaken, -⟩ := exists_others herrand Errand.taken
            have hdistinct : dials.Nodup := (htaken.nodup_iff.mp h.nodup_taken).of_append_left
            rw [connections_abandon_of_mem hdistinct hmem] at hc
            obtain ⟨old, hold, rfl⟩ := Option.map_eq_some_iff.mp hc
            obtain ⟨⟨duplex, hpiped⟩, -⟩ := h.joined number old hold
            obtain ⟨after, hafter, -⟩ := hpiped.refuse .second
            refine ⟨⟨after, hafter⟩, iff_of_false (by simp [Connection.joined]) fun hnot => ?_⟩
            exact hnot ((hnew number).mpr (.inl hmem))
          · rw [connections_abandon_of_notMem hmem] at hc
            obtain ⟨hpiped, hjoined⟩ := h.joined number c hc
            refine ⟨hpiped, hjoined.trans ?_⟩
            rw [hold, hnew]
            simp [Errand.dropped, hmem]
      | idle hplain hnext => exact hkept (by rw [hplain.dropped, hnext.dropped]) hc
      | _ => exact hkept rfl hc

structure Kept (traffic : Traffic) : Prop extends Cut traffic where
  listed : traffic.hub.Listed traffic.leaving

namespace Kept

variable {traffic before after : Traffic}

theorem change (h : before.Kept) (hchange : Change before after) : after.Kept := by
  refine ⟨h.toCut.change hchange, ?_⟩
  cases hchange with
  | idle => exact h.listed
  | begun errand hplain => simpa [leaving, begin, hplain.leaves] using h.listed
  | advanced index errand next hub herrand heffect =>
      obtain ⟨others, hbefore, hafter⟩ := exists_others herrand Errand.leaves
      exact (heffect.listed (h.listed.perm hbefore)).perm (hafter next).symm

theorem of (size : UInt64) (moves : List Move) : (Traffic.of size moves).Kept := by
  refine of_induction ⟨⟨⟨fun _ => rfl, fun _ => rfl⟩, fun _ _ hc => ?_⟩, ⟨List.nodup_nil,
      fun _ _ hentry => ?_, fun _ _ hlistener => ?_, fun _ _ hlistener => ?_,
      fun _ hleaving => ?_⟩⟩
    (fun move traffic h => h.change (perform_change move traffic)) moves
  · cases hc
  · cases hentry
  · cases hlistener
  · cases hlistener
  · cases hleaving

end Kept

-- A dial waits where it can be accepted: at a listener that takes dials and can be found.
def Waits (traffic : Traffic) (dialed : Nat) : Prop :=
  ∃ (number : Nat) (listener : Listener), traffic.hub.listeners[number]? = some listener ∧
    dialed ∈ listener.pending ∧ listener.isOpen = true ∧
      traffic.hub.registered? listener.endpoint.address = some number

-- Whoever dialed has lost the other end.
def IsCutOff (traffic : Traffic) (dialed : Nat) : Prop :=
  ∃ (c : Connection) (duplex : Duplex), traffic.hub.connections[dialed]? = some c ∧
    c.link = .pipes duplex ∧ ∀ side, (duplex.incoming side).connected = false

-- What is so at any moment, and what is so when nobody is in the middle of a call.
structure Accounted (traffic : Traffic) : Prop where
  -- dials make connections and nothing else does
  made : traffic.made.Perm (List.range traffic.hub.connections.length)
  placed : (traffic.hub.pending ++ traffic.handed ++ traffic.taken).Perm traffic.made
  waits : ∀ dialed ∈ traffic.hub.pending, traffic.Waits dialed
  cutOff : ∀ dialed, traffic.IsCutOff dialed ↔ dialed ∈ traffic.dropped
  settled : traffic.isQuiet = true → ∀ dialed ∈ traffic.made,
    traffic.Waits dialed ∧ dialed ∉ traffic.handed ∧ ¬traffic.IsCutOff dialed ∨
      ¬traffic.Waits dialed ∧ traffic.handed.count dialed = 1 ∧ ¬traffic.IsCutOff dialed ∨
      ¬traffic.Waits dialed ∧ dialed ∉ traffic.handed ∧ traffic.IsCutOff dialed
  sound : traffic.isQuiet = true → traffic.hub.Sound
  -- nothing is queued at a listener that has closed
  queued : ∀ (move : Move) (number : Nat) (listener : Listener),
    (traffic.perform move).hub.listeners[number]? = some listener → ∀ dialed ∈ listener.pending,
      ∃ old, traffic.hub.listeners[number]? = some old ∧
        (dialed ∈ old.pending ∨ old.isOpen = true ∧ listener.isOpen = true)
  -- whoever is no longer registered was taken out by the call that closed that very listener
  unregistered : ∀ (move : Move) (address : String) (number : Nat),
    (address, number) ∈ traffic.hub.registry →
      (address, number) ∉ (traffic.perform move).hub.registry →
        ∃ (index : Nat) (dials : List Nat),
          traffic.errands[index]? = some (.leaving number dials) ∧
            (traffic.perform move).errands[index]? = some (.closed dials)
  -- looking under the address of a listener finds its registration, if there still is one
  ownAddress : ∀ (number : Nat) (listener : Listener),
    traffic.hub.listeners[number]? = some listener →
      traffic.hub.unregister number =
        if traffic.hub.registered? listener.endpoint.address = some number then
          { traffic.hub with
            registry := traffic.hub.registry.filter (·.1 != listener.endpoint.address) }
        else traffic.hub
  -- whoever comes to listen at a free address has a listener there, open and to be found
  listens : ∀ (index : Nat) (endpoint : Endpoint),
    traffic.errands[index]? = some (.listening endpoint) →
      traffic.hub.registered? endpoint.address = none →
        ∃ number, (traffic.perform (.step index)).errands[index]? = some (.listened (.ok number)) ∧
          (traffic.perform (.step index)).hub.listeners[number]? = some { endpoint } ∧
          (traffic.perform (.step index)).hub.registered? endpoint.address = some number
  -- a dial goes to whoever is registered when it looks, and comes to wait there if it is not
  -- too late and there is a pair of pipes for it
  seeks : ∀ (index : Nat) (endpoint : Endpoint) (number : Nat),
    traffic.errands[index]? = some (.dialing endpoint) →
      traffic.hub.registered? endpoint.address = some number →
        (traffic.perform (.step index)).errands[index]? = some (.offering endpoint number)
  offers : ∀ (index : Nat) (endpoint : Endpoint) (number : Nat) (listener : Listener)
    (duplex : Duplex), traffic.errands[index]? = some (.offering endpoint number) →
      traffic.hub.listeners[number]? = some listener → listener.isOpen = true →
        Duplex.pair traffic.hub.bufferSize = .ok duplex →
          ∃ dialed, (traffic.perform (.step index)).errands[index]? = some (.dialed (.ok dialed)) ∧
            (traffic.perform (.step index)).Waits dialed

section Quiet

variable {traffic : Traffic}

theorem leaving_of_isQuiet (hquiet : traffic.isQuiet = true) : traffic.leaving = [] := by
  refine List.flatMap_eq_nil_iff.mpr fun errand herrand => ?_
  have hover := List.all_eq_true.mp hquiet errand herrand
  cases errand with
  | dropping listener dials => cases hover
  | leaving listener dials => cases hover
  | _ => rfl

theorem taken_of_isQuiet (hquiet : traffic.isQuiet = true) : traffic.taken = traffic.dropped := by
  refine List.flatMap_congr fun errand herrand => ?_
  have hover := List.all_eq_true.mp hquiet errand herrand
  cases errand with
  | dropping listener dials => cases hover
  | _ => rfl

end Quiet

namespace Kept

variable {traffic : Traffic} {dialed number : Nat} {address : String}

theorem registered?_iff (h : traffic.Kept) : traffic.hub.registered? address = some number ↔
    (address, number) ∈ traffic.hub.registry := lookup_eq_some_iff_mem h.listed.unshadowed

theorem waits_iff (h : traffic.Kept) : traffic.Waits dialed ↔ dialed ∈ traffic.hub.pending := by
  refine ⟨fun ⟨number, listener, hlistener, hmem, _⟩ =>
    List.mem_flatMap.mpr ⟨listener, List.mem_of_getElem? hlistener, hmem⟩, fun hmem => ?_⟩
  obtain ⟨listener, hlistener, hmem⟩ := List.mem_flatMap.mp hmem
  obtain ⟨number, hlistener⟩ := List.getElem?_of_mem hlistener
  obtain ⟨hisOpen, hemptied⟩ := h.listed.settled number listener hlistener
  cases hclosed : listener.closed with
  | true =>
      rw [hemptied hclosed] at hmem
      cases hmem
  | false =>
      refine ⟨number, listener, hlistener, hmem, by rw [hisOpen, hclosed]; rfl, ?_⟩
      exact h.registered?_iff.mpr (h.listed.registered number listener hlistener hclosed)

theorem isCutOff_iff (h : traffic.Kept) : traffic.IsCutOff dialed ↔ dialed ∈ traffic.dropped := by
  constructor
  · rintro ⟨c, duplex, hc, hlink, hbroken⟩
    obtain ⟨⟨other, hpiped⟩, hjoined⟩ := h.joined dialed c hc
    obtain rfl : duplex = other := Link.pipes.inj (hlink.symm.trans hpiped.link)
    by_contra hnot
    have hheld := (hpiped.connected .first).trans (hjoined.mpr hnot)
    rw [hbroken .first] at hheld
    cases hheld
  · intro hmem
    have hlt := h.lt_of_mem_taken (mem_taken_of_mem_dropped hmem)
    have hc := List.getElem?_eq_getElem hlt
    obtain ⟨⟨duplex, hpiped⟩, hjoined⟩ := h.joined dialed _ hc
    refine ⟨_, duplex, hc, hpiped.link, fun side => (hpiped.connected side).trans ?_⟩
    exact Bool.eq_false_iff.mpr fun hheld => hjoined.mp hheld hmem

theorem placed_perm (h : traffic.Kept) :
    (traffic.hub.pending ++ traffic.handed ++ traffic.taken).Perm traffic.made := by
  refine List.perm_iff_count.mpr fun dialed => ?_
  rw [List.count_append, List.count_append]
  exact h.placed dialed

-- Between calls each dial is in one of three places.
theorem somewhere (h : traffic.Kept) (hquiet : traffic.isQuiet = true)
    (hmade : dialed ∈ traffic.made) :
    traffic.Waits dialed ∧ dialed ∉ traffic.handed ∧ ¬traffic.IsCutOff dialed ∨
      ¬traffic.Waits dialed ∧ traffic.handed.count dialed = 1 ∧ ¬traffic.IsCutOff dialed ∨
      ¬traffic.Waits dialed ∧ dialed ∉ traffic.handed ∧ traffic.IsCutOff dialed := by
  have hone := h.count_made_le_one dialed
  have hplaced := h.placed dialed
  rw [taken_of_isQuiet hquiet] at hplaced
  rw [h.waits_iff, h.isCutOff_iff]
  simp only [← List.count_pos_iff] at hmade ⊢
  omega

theorem sound (h : traffic.Kept) (hquiet : traffic.isQuiet = true) : traffic.hub.Sound := by
  obtain ⟨hunshadowed, hentered, hregistered, hsettled, -⟩ := h.listed
  rw [leaving_of_isQuiet hquiet] at hentered
  refine ⟨hunshadowed, fun address number => ⟨fun hentry => ?_, fun hlistens => ?_⟩,
    fun number listener hlistener => (hsettled number listener hlistener).1⟩
  · obtain ⟨listener, hlistener, haddress, hleaving⟩ := hentered address number hentry
    have hopen := Bool.eq_false_iff.mpr fun hclosed => List.not_mem_nil (hleaving hclosed)
    simp [listensAt, hlistener, haddress, hopen]
  · obtain ⟨listener, hlistener, htakes⟩ := (Option.any_eq_true _ _).mp hlistens
    simp only [Bool.and_eq_true, Bool.not_eq_true', beq_iff_eq] at htakes
    exact htakes.2 ▸ hregistered number listener hlistener htakes.1

-- A listener can be in the registry under its own address only.
theorem unregister_eq (h : traffic.Kept) {listener : Listener}
    (hlistener : traffic.hub.listeners[number]? = some listener) :
    traffic.hub.unregister number =
      if traffic.hub.registered? listener.endpoint.address = some number then
        { traffic.hub with
          registry := traffic.hub.registry.filter (·.1 != listener.endpoint.address) }
      else traffic.hub := by
  have hown {entry : String × Nat} (hentry : entry ∈ traffic.hub.registry)
      (hnumber : entry.2 = number) : entry.1 = listener.endpoint.address := by
    obtain ⟨other, hother, haddress, -⟩ := h.listed.entered entry.1 entry.2 hentry
    rw [hnumber, hlistener] at hother
    cases hother
    exact haddress.symm
  split
  · next hregistered =>
      refine congrArg (fun registry => { traffic.hub with registry }) ?_
      refine List.filter_congr fun entry hmem => ?_
      rw [bne, bne, Bool.not_inj_iff, Bool.eq_iff_iff, beq_iff_eq, beq_iff_eq]
      refine ⟨hown hmem, fun haddress => ?_⟩
      obtain ⟨_, other⟩ := entry
      obtain rfl := haddress
      exact Option.some.inj ((h.registered?_iff.mpr hmem).symm.trans hregistered)
  · next hnot =>
      refine (congrArg (fun registry => { traffic.hub with registry }) ?_ :
        _ = { traffic.hub with registry := traffic.hub.registry })
      refine List.filter_eq_self.mpr fun entry hmem => bne_iff_ne.mpr fun hnumber => hnot ?_
      rw [h.registered?_iff, ← hown hmem hnumber, ← hnumber]
      exact hmem

end Kept

section Step

variable {traffic : Traffic} {index : Nat}

theorem perform_step {errand : Errand} (herrand : traffic.errands[index]? = some errand) :
    (traffic.perform (.step index)).hub = (errand.step traffic.hub).2 ∧
      (traffic.perform (.step index)).errands[index]? = some (errand.step traffic.hub).1 := by
  simp only [perform, advance, herrand, true_and]
  exact List.getElem?_set_self (List.getElem?_eq_some_iff.mp herrand).1

theorem listens_of_free {endpoint : Endpoint}
    (herrand : traffic.errands[index]? = some (.listening endpoint))
    (hfree : traffic.hub.registered? endpoint.address = none) :
    ∃ number, (traffic.perform (.step index)).errands[index]? = some (.listened (.ok number)) ∧
      (traffic.perform (.step index)).hub.listeners[number]? = some { endpoint } ∧
      (traffic.perform (.step index)).hub.registered? endpoint.address = some number := by
  obtain ⟨hhub, hnext⟩ := perform_step herrand
  have hlisten : ∃ made, traffic.hub.listen endpoint = .ok made := by simp [Hub.listen, hfree]
  obtain ⟨⟨number, after⟩, hlisten⟩ := hlisten
  simp only [Errand.step, hlisten] at hhub hnext
  obtain ⟨-, hlistener, hregistered, -⟩ := listen_made hlisten
  exact ⟨number, hnext, by rwa [hhub], by rwa [hhub]⟩

theorem seeks_of_registered {endpoint : Endpoint} {number : Nat}
    (herrand : traffic.errands[index]? = some (.dialing endpoint))
    (hregistered : traffic.hub.registered? endpoint.address = some number) :
    (traffic.perform (.step index)).errands[index]? = some (.offering endpoint number) := by
  rw [(perform_step herrand).2]
  simp only [Errand.step, seek, hregistered]

theorem Kept.waits_of_offer (h : traffic.Kept) {endpoint : Endpoint} {number : Nat}
    {listener : Listener} {duplex : Duplex}
    (herrand : traffic.errands[index]? = some (.offering endpoint number))
    (hlistener : traffic.hub.listeners[number]? = some listener) (hopen : listener.isOpen = true)
    (hpair : Duplex.pair traffic.hub.bufferSize = .ok duplex) :
    ∃ dialed, (traffic.perform (.step index)).errands[index]? = some (.dialed (.ok dialed)) ∧
      (traffic.perform (.step index)).Waits dialed := by
  obtain ⟨hhub, hnext⟩ := perform_step herrand
  have htakes : traffic.hub.listeners[number]?.filter (·.isOpen) = some listener := by
    rw [hlistener, Option.filter_some, hopen]
    rfl
  simp only [Errand.step, enqueue, hpair, htakes] at hhub hnext
  refine ⟨_, hnext, (h.change (perform_change (.step index) traffic)).waits_iff.mpr ?_⟩
  have hqueued : (traffic.perform (.step index)).hub.listeners[number]? =
      some { listener with pending := listener.pending ++ [traffic.hub.connections.length] } := by
    simp [hhub, updateListener, hlistener]
  exact List.mem_flatMap.mpr ⟨_, List.mem_of_getElem? hqueued, by simp⟩

end Step

-- However calls on a hub overlap, no dial is lost.
theorem no_dial_is_stranded (size : UInt64) (moves : List Move) :
    (Traffic.of size moves).Accounted := by
  have h := Kept.of size moves
  generalize Traffic.of size moves = traffic at h
  refine ⟨List.perm_iff_count.mpr h.made, h.placed_perm, fun dialed => h.waits_iff.mpr,
    fun dialed => h.isCutOff_iff, fun hquiet dialed => h.somewhere hquiet, h.sound,
    fun move number listener hlistener dialed hmem => ?_,
    fun move address number hentry hgone => ?_, fun number listener => h.unregister_eq,
    fun index endpoint => listens_of_free, fun index endpoint number => seeks_of_registered,
    fun index endpoint number listener duplex => h.waits_of_offer⟩
  · have hchange := perform_change move traffic
    generalize traffic.perform move = after at hchange hlistener
    cases hchange with
    | advanced index errand next hub herrand heffect => exact heffect.queued hlistener hmem
    | _ => exact ⟨listener, hlistener, .inl hmem⟩
  · have hchange := perform_change move traffic
    generalize traffic.perform move = after at hchange hgone
    cases hchange with
    | advanced index errand next hub herrand heffect =>
        obtain ⟨dials, rfl, rfl⟩ := heffect.unregisters hentry hgone
        have hindex := (List.getElem?_eq_some_iff.mp herrand).1
        exact ⟨index, dials, herrand, List.getElem?_set_self hindex⟩
    | _ => exact absurd hentry hgone

-- Of two dials that found a listener, one waits when it closes and the other comes too late.
example :
    let endpoint : Endpoint := ⟨.inproc, "x"⟩
    let traffic := Traffic.of 4 [.listen endpoint, .step 0, .dial endpoint, .dial endpoint, .step 1,
      .step 2, .step 1, .close 0, .step 3, .step 2, .step 3, .step 3]
    traffic.isQuiet = true ∧ traffic.made = [0] ∧ traffic.dropped = [0] ∧
      traffic.hub.registry = [] := by
  decide +kernel

end Traffic

end Hub

end FramedLines
