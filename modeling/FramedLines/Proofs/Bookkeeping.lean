import FramedLines.Proofs.Watches

-- The keys of a poller. It watches under those that were given out and not taken back, and has
-- something to tell under no others.

namespace FramedLines

namespace Poller

variable {before after poller : Poller} {key other : Nat}

-- The keys it watches under.
def keys (poller : Poller) : List Nat := poller.watches.map Watch.key

theorem eventsFor_remove (key other : Nat) (poller : Poller) :
    (poller.remove key).2.eventsFor other =
      if other = key then {} else poller.eventsFor other := by
  simp only [eventsFor, remove, lookup_filter_ne, beq_iff_eq]
  split <;> rfl

@[simp] theorem length_keys (poller : Poller) : poller.keys.length = poller.length :=
  List.length_map ..

theorem keys_remove (key : Nat) (poller : Poller) :
    (poller.remove key).2.keys = poller.keys.filter (· != key) := by
  rw [keys, keys, List.filter_map]
  rfl

theorem mem_keys_remove :
    other ∈ (poller.remove key).2.keys ↔ other ∈ poller.keys ∧ other ≠ key := by
  rw [keys_remove, List.mem_filter, bne_iff_ne]

theorem remove_fst : (poller.remove key).1 = true ↔ key ∈ poller.keys := by
  simp [remove, keys]

-- A key that nothing was found under.
theorem eventsFor_eq_empty (hready : ∀ entry ∈ poller.ready, entry.1 ≠ key) :
    poller.eventsFor key = {} := by
  have hnone : poller.ready.lookup key = none := by
    refine List.lookup_eq_none_iff.mpr fun entry hentry => ?_
    simpa using (hready entry hentry).symm
  rw [eventsFor, hnone]
  rfl

-- How a poller comes out of an act, with the key that was given out, the key that was taken back,
-- and whether the lines were looked at.
inductive Dealt (before : Poller) :
    Poller → (given? taken? : Option Nat) → (looked : Bool) → Prop where
  | idle (interval : Duration) : Dealt before { before with interval } none none false
  | gave (source : Source) (interest : Events) :
      Dealt before
        { before with
          watches := before.watches ++ [⟨before.nextKey, source, interest⟩]
          nextKey := before.nextKey + 1 }
        (some before.nextKey) none false
  | took (key : Nat) (hkey : key ∈ before.keys) :
      Dealt before (before.remove key).2 none (some key) false
  | missed (key : Nat) (hkey : key ∉ before.keys) :
      Dealt before (before.remove key).2 none none false
  | looked (ready : List (Nat × Events)) (hready : ∀ entry ∈ ready, entry.1 ∈ before.keys) :
      Dealt before { before with ready } none none true

-- The account of a poller: the keys given out, the keys taken back, and what the latest look found
-- under each.
structure Balanced (poller : Poller) (given taken : List Nat) (found : Nat → Events) : Prop where
  distinct : given.Nodup
  fresh : ∀ key ∈ given, key < poller.nextKey
  unshadowed : poller.keys.Nodup
  returned : ∀ key ∈ taken, key ∈ given
  registered : ∀ key, key ∈ poller.keys ↔ key ∈ given ∧ key ∉ taken
  length : poller.length + taken.length = given.length
  reported : ∀ key, poller.eventsFor key = if key ∈ poller.keys then found key else {}
  unheard : ∀ key, poller.nextKey ≤ key → found key = {}

namespace Balanced

variable {given taken : List Nat} {found : Nat → Events}

theorem new : Balanced {} [] [] fun _ => {} :=
  ⟨List.nodup_nil, by simp, by simp [Poller.keys], by simp, by simp [Poller.keys], rfl,
    fun key => by simp [Poller.eventsFor], fun _ _ => rfl⟩

-- Whatever is reported was found, and under a key that is still good.
theorem told (h : poller.Balanced given taken found)
    (hkey : (poller.eventsFor key).isEmpty = false) :
    key ∈ poller.keys ∧ poller.eventsFor key = found key := by
  have hreported := h.reported key
  split at hreported
  · next hregistered => exact ⟨hregistered, hreported⟩
  · rw [hreported] at hkey
    cases hkey

theorem lt_nextKey (h : poller.Balanced given taken found) (hkey : key ∈ poller.keys) :
    key < poller.nextKey := h.fresh key ((h.registered key).mp hkey).1

theorem give (h : before.Balanced given taken found) (source : Source) (interest : Events) :
    Balanced { before with
      watches := before.watches ++ [⟨before.nextKey, source, interest⟩]
      nextKey := before.nextKey + 1 } (given ++ [before.nextKey]) taken found := by
  have hnew : before.nextKey ∉ given := fun hmem => Nat.lt_irrefl _ (h.fresh _ hmem)
  have hunused : before.nextKey ∉ before.keys := fun hmem => Nat.lt_irrefl _ (h.lt_nextKey hmem)
  have hkeys : keys { before with
      watches := before.watches ++ [⟨before.nextKey, source, interest⟩]
      nextKey := before.nextKey + 1 } = before.keys ++ [before.nextKey] := List.map_append
  refine ⟨?_, fun key hkey => ?_, ?_, fun key hkey => ?_, fun key => ?_, ?_, fun key => ?_,
    fun key hkey => ?_⟩
  · exact List.concat_eq_append ▸ h.distinct.concat hnew
  · rcases List.mem_append.mp hkey with hold | hsame
    · exact Nat.lt_succ_of_lt (h.fresh key hold)
    · rw [List.mem_singleton.mp hsame]
      exact Nat.lt_succ_self _
  · rw [hkeys]
    exact List.concat_eq_append ▸ h.unshadowed.concat hunused
  · exact List.mem_append_left _ (h.returned key hkey)
  · have hkept : before.nextKey ∉ taken := fun hmem => hnew (h.returned _ hmem)
    rw [hkeys, List.mem_append, List.mem_append, List.mem_singleton, h.registered]
    by_cases hkey : key = before.nextKey
    · subst hkey
      simp [hkept]
    · simp [hkey]
  · have := h.length
    simp only [Poller.length, List.length_append, List.length_singleton] at this ⊢
    omega
  · -- Nothing can have been found under a key before it is given out.
    have hsilent := h.unheard before.nextKey (Nat.le_refl _)
    refine (h.reported key).trans ?_
    rw [hkeys]
    by_cases hkey : key = before.nextKey
    · subst hkey
      simp [hunused, hsilent]
    · simp [hkey]
  · exact h.unheard key (Nat.le_of_succ_le hkey)

-- Without a key the others are as they were.
theorem reported_remove (h : before.Balanced given taken found) (key : Nat) :
    ∀ other, (before.remove key).2.eventsFor other =
      if other ∈ (before.remove key).2.keys then found other else {} := by
  intro other
  rw [eventsFor_remove, h.reported]
  by_cases hother : other = key <;> simp [mem_keys_remove, hother]

theorem deal (h : before.Balanced given taken found) {given? taken? : Option Nat} {looked : Bool}
    (hdealt : Dealt before after given? taken? looked) :
    after.Balanced (given ++ given?.toList) (taken ++ taken?.toList)
      (if looked then after.eventsFor else found) := by
  cases hdealt with
  | idle interval =>
      simp only [Option.toList_none, List.append_nil, Bool.false_eq_true, if_false]
      exact ⟨h.distinct, h.fresh, h.unshadowed, h.returned, h.registered, h.length, h.reported,
        h.unheard⟩
  | gave source interest => simpa using h.give source interest
  | took key hkey =>
      simp only [Option.toList_none, Option.toList_some, List.append_nil, Bool.false_eq_true,
        if_false]
      refine ⟨h.distinct, h.fresh, ?_, fun other hother => ?_, fun other => ?_, ?_,
        h.reported_remove key, h.unheard⟩
      · rw [keys_remove]
        exact h.unshadowed.filter _
      · rcases List.mem_append.mp hother with hold | hsame
        · exact h.returned other hold
        · rw [List.mem_singleton.mp hsame]
          exact ((h.registered key).mp hkey).1
      · rw [mem_keys_remove, h.registered, List.mem_append, List.mem_singleton]
        tauto
      · have hone := List.length_erase_add_one hkey
        rw [h.unshadowed.erase_eq_filter, ← keys_remove, length_keys, length_keys] at hone
        have := h.length
        rw [List.length_append, List.length_singleton]
        omega
  | missed key hkey =>
      have hkept : (before.remove key).2.watches = before.watches := by
        refine List.filter_eq_self.mpr fun watch hwatch => bne_iff_ne.mpr fun hsame => hkey ?_
        exact hsame ▸ List.mem_map_of_mem hwatch
      have hkeys : (before.remove key).2.keys = before.keys := congrArg (List.map Watch.key) hkept
      simp only [Option.toList_none, List.append_nil, Bool.false_eq_true, if_false]
      exact ⟨h.distinct, h.fresh, hkeys ▸ h.unshadowed, h.returned, hkeys ▸ h.registered,
        (congrArg (·.length + taken.length) hkept).trans h.length, h.reported_remove key, h.unheard⟩
  | looked ready hready =>
      simp only [Option.toList_none, List.append_nil, if_true]
      have hnothing (key : Nat) (hkey : key ∉ before.keys) :
          eventsFor key { before with ready } = {} :=
        eventsFor_eq_empty fun entry hentry hsame => hkey (hsame ▸ hready entry hentry)
      refine ⟨h.distinct, h.fresh, h.unshadowed, h.returned, h.registered, h.length, fun key => ?_,
        fun key hkey => ?_⟩
      · split
        · rfl
        · next hnot => exact hnothing key hnot
      · exact hnothing key fun hmem => Nat.not_lt_of_le hkey (h.lt_nextKey hmem)

end Balanced

end Poller

namespace Session

variable {session other : Session} {id : PollerId}

-- The key that a poller gives out at an act. One that is not there yet gives none.
def Act.given? (id : PollerId) (session : Session) : Act → Option Nat
  | watch poller key line interest =>
      if poller = id ∧ id < session.pollerTable.length then
        (session.watch poller key line interest).1.toOption
      else none
  | _ => none

-- The key that it takes back.
def Act.taken? (id : PollerId) (session : Session) : Act → Option Nat
  | unwatch poller key =>
      if poller = id ∧ (session.unwatch poller key).1 = true then some key else none
  | _ => none

-- Whether it looks at its lines.
def Act.looks (id : PollerId) : Act → Bool
  | check poller | notice poller => poller == id
  | _ => false

def keysGiven (id : PollerId) : List Act → Session → List Nat
  | [], _ => []
  | act :: acts, session =>
      (act.given? id session).toList ++ keysGiven id acts (act.perform session)

def keysTaken (id : PollerId) : List Act → Session → List Nat
  | [], _ => []
  | act :: acts, session =>
      (act.taken? id session).toList ++ keysTaken id acts (act.perform session)

-- How things stood right after its latest look, if it looked at all.
def latestLook? (id : PollerId) : List Act → Session → Option Session
  | [], _ => none
  | act :: acts, session =>
      (latestLook? id acts (act.perform session)).or
        (if act.looks id then some (act.perform session) else none)

theorem poller_of_pollerTable (htable : other.pollerTable = session.pollerTable) :
    other.poller id = session.poller id := by
  rw [poller, poller, htable]

theorem poller_setPoller_self (f : Poller → Poller) (hf : f {} = {}) :
    (session.setPoller id (f (session.poller id))).poller id = f (session.poller id) := by
  simp only [setPoller, poller, List.getElem?_set_self']
  cases session.pollerTable[id]? with
  | none => exact hf.symm
  | some poller => rfl

theorem poller_setPoller_of_ne {index : PollerId} (hne : index ≠ id) (poller : Poller) :
    (session.setPoller index poller).poller id = session.poller id := by
  simp [setPoller, Session.poller, List.getElem?_set_ne hne]

theorem poller_unwatch (key : Nat) :
    (session.unwatch id key).2.poller id = ((session.poller id).remove key).2 :=
  poller_setPoller_self (fun poller => (poller.remove key).2) rfl

theorem poller_notice :
    (session.notice id).2.poller id = ((session.poller id).notice session.net.readiness).2 :=
  poller_setPoller_self (fun poller => (poller.notice session.net.readiness).2) rfl

theorem poller_addPoller (session : Session) (id : PollerId) (name : String)
    (interval : Duration) :
    ∃ interval', (session.addPoller name (.withInterval interval)).poller id =
      { session.poller id with interval := interval' } := by
  rcases Nat.lt_trichotomy id session.pollerTable.length with hlt | rfl | hgt
  · refine ⟨(session.poller id).interval, ?_⟩
    simp [addPoller, poller, List.getElem?_append_left hlt]
  · refine ⟨(Poller.withInterval interval).interval, ?_⟩
    simp [addPoller, poller, Poller.withInterval]
  · refine ⟨(session.poller id).interval, ?_⟩
    have hbeyond : (session.pollerTable ++ [Poller.withInterval interval]).length ≤ id := by
      rw [List.length_append]
      exact hgt
    simp only [addPoller, poller, List.getElem?_eq_none hbeyond,
      List.getElem?_eq_none (Nat.le_of_lt hgt)]

theorem watch_refused {key : String} {line : LineId} {interest : Events} {fault : Fault}
    (hwatch : (session.watch id key line interest).1 = .error fault) :
    (session.watch id key line interest).2 = session := by
  unfold watch at hwatch ⊢
  cases hadd : (session.poller id).add (session.net.source? line) interest with
  | error fault => rfl
  | ok made => simp [hadd] at hwatch

theorem Act.dealt (act : Act) (session : Session) (id : PollerId) :
    Poller.Dealt (session.poller id) ((act.perform session).poller id) (act.given? id session)
      (act.taken? id session) (act.looks id) := by
  have hsame {next : Session} (hpoller : next.poller id = session.poller id) :
      Poller.Dealt (session.poller id) (next.poller id) none none false := by
    rw [hpoller]
    exact .idle (session.poller id).interval
  have hlooked (found : List Watch)
      (hfound : ∀ watch ∈ found, watch ∈ (session.poller id).watches) :
      Poller.Dealt (session.poller id) { session.poller id with
        ready := Poller.found session.net.readiness found } none none true := by
    refine .looked _ fun entry hentry => ?_
    obtain ⟨watch, hwatch, hkey⟩ := Poller.mem_of_found hentry
    exact hkey ▸ List.mem_map_of_mem (hfound watch hwatch)
  cases act with
  | addPoller name interval =>
      obtain ⟨interval', hpoller⟩ := poller_addPoller session id name interval
      simp only [Act.perform, hpoller]
      exact .idle interval'
  | watch index key line interest =>
      cases hadd : (session.poller index).add (session.net.source? line) interest with
      | error fault =>
          simp only [Act.perform, Act.given?, Session.watch, hadd, Except.toOption, ite_self]
          exact hsame rfl
      | ok made =>
          obtain ⟨source, -, hkey, hnext⟩ := Poller.add_cases hadd
          simp only [Act.perform, Act.given?, Session.watch, hadd, Except.toOption]
          split
          · next hindex =>
              obtain ⟨rfl, hlt⟩ := hindex
              have hpoller : (session.setPoller index made.2).poller index = made.2 := by
                simp [setPoller, poller, hlt]
              have hgave : Poller.Dealt (session.poller index) _ _ none false :=
                .gave source interest
              rw [← hnext, ← hkey, ← hpoller] at hgave
              exact hgave
          · next hindex =>
              refine hsame ?_
              by_cases hsameIndex : index = id
              · subst hsameIndex
                have hbeyond := Nat.le_of_not_lt fun hlt => hindex ⟨rfl, hlt⟩
                exact poller_of_pollerTable (List.set_eq_of_length_le hbeyond)
              · exact poller_setPoller_of_ne hsameIndex made.2
  | unwatch index key =>
      by_cases hindex : index = id
      · subst hindex
        simp only [Act.perform, poller_unwatch, Act.taken?, true_and]
        split
        · next hkey => exact .took key (Poller.remove_fst.mp hkey)
        · next hkey => exact .missed key fun hmem => hkey (Poller.remove_fst.mpr hmem)
      · simp only [Act.taken?, hindex, false_and, if_false]
        exact hsame (poller_setPoller_of_ne hindex _)
  | check index =>
      by_cases hindex : index = id
      · subst hindex
        simp only [Act.perform, poller_check, Act.looks, beq_self_eq_true]
        exact hlooked _ fun _ hwatch => hwatch
      · simp only [Act.looks, beq_eq_false_iff_ne.mpr hindex]
        exact hsame (poller_setPoller_of_ne hindex _)
  | notice index =>
      by_cases hindex : index = id
      · subst hindex
        simp only [Act.perform, poller_notice, Act.looks, beq_self_eq_true]
        exact hlooked _ fun _ hwatch => (List.mem_filter.mp hwatch).1
      · simp only [Act.looks, beq_eq_false_iff_ne.mpr hindex]
        exact hsame (poller_setPoller_of_ne hindex _)
  | _ => exact hsame (poller_of_pollerTable (Act.pollerTable_perform rfl session))

-- What a whole run comes to, told from the account at its start.
theorem balanced_performAll (acts : List Act) {given taken : List Nat} {found : Nat → Events}
    (h : (session.poller id).Balanced given taken found) :
    ((performAll acts session).poller id).Balanced (given ++ keysGiven id acts session)
      (taken ++ keysTaken id acts session)
      ((latestLook? id acts session).elim found fun last => (last.poller id).eventsFor) := by
  induction acts generalizing session given taken found with
  | nil => simpa [performAll, keysGiven, keysTaken, latestLook?] using h
  | cons act acts ih =>
      have hrun : ((performAll (act :: acts) session).poller id).Balanced _ _ _ :=
        ih (h.deal (act.dealt session id))
      rw [List.append_assoc, List.append_assoc] at hrun
      simp only [keysGiven, keysTaken, latestLook?]
      cases hlatest : latestLook? id acts (act.perform session) with
      | some last =>
          rw [hlatest] at hrun
          exact hrun
      | none =>
          rw [hlatest] at hrun
          cases hlooks : act.looks id with
          | false =>
              rw [hlooks] at hrun
              exact hrun
          | true =>
              rw [hlooks] at hrun
              exact hrun

theorem balanced_after (host : Host) (acts : List Act) (id : PollerId) :
    ((after host acts).poller id).Balanced (keysGiven id acts (start host))
      (keysTaken id acts (start host))
      ((latestLook? id acts (start host)).elim (fun _ => {})
        fun last => (last.poller id).eventsFor) := by
  have hstart : ((start host).poller id).Balanced [] [] fun _ => {} := .new
  have h := balanced_performAll acts hstart
  rwa [List.nil_append, List.nil_append] at h

-- What a poll answers, and what there is under the keys then.
def polled (id : PollerId) (limit : Duration) (session : Session) :
    Option (Bool × List (Nat × Events)) :=
  (session.perform (.poll id limit fun found after => (found, (after.poller id).ready))).1

-- Lines that are as they were when somebody else looked are found as they were found then.
theorem found_congr {look look' : Source → Readiness} {watches : List Watch}
    (hlook : ∀ watch ∈ watches, look watch.source = look' watch.source) :
    Poller.found look watches = Poller.found look' watches :=
  List.filterMap_congr fun watch hwatch => by rw [hlook watch hwatch]

theorem polled_eq (id : PollerId) (limit : Duration) (session : Session) :
    let ready := Poller.found session.net.readiness (session.poller id).watches
    session.polled id limit =
      if !ready.isEmpty || (session.poller id).watches.isEmpty || limit.expires then
        some (!ready.isEmpty, ready)
      else none := by
  have hready : ((session.check id).2.poller id).ready =
      Poller.found session.net.readiness (session.poller id).watches := by
    rw [poller_check]
    rfl
  have hwatches : ((session.check id).2.poller id).watches = (session.poller id).watches := by
    rw [poller_check]
    rfl
  have hfound : (session.check id).1 =
      !(Poller.found session.net.readiness (session.poller id).watches).isEmpty := rfl
  simp only [polled, perform, Poller.isEmpty, hready, hwatches, hfound]
  split <;> rfl

-- In the middle of a rest only the descriptors are looked at.
theorem ready_notice_congr {index : PollerId}
    (hwatches : (other.poller index).watches = (session.poller id).watches)
    (hlook : ∀ watch ∈ (session.poller id).watches,
      other.net.readiness watch.source = session.net.readiness watch.source) :
    ((other.notice index).2.poller index).ready = ((session.notice id).2.poller id).ready := by
  rw [poller_notice, poller_notice, Poller.notice, Poller.notice, hwatches]
  exact found_congr fun watch hwatch => hlook watch (List.mem_filter.mp hwatch).1

theorem notice_fst (id : PollerId) (session : Session) :
    (session.notice id).1 = !((session.notice id).2.poller id).ready.isEmpty := by
  rw [poller_notice]
  rfl

-- What the keys of a poller are good for, whatever was done so far.
structure Books (session : Session) (id : PollerId) (given taken : List Nat)
    (latest? : Option Session) : Prop where
  distinct : given.Nodup
  registered : ∀ key, key ∈ (session.poller id).keys ↔ key ∈ given ∧ key ∉ taken
  length : (session.poller id).length + taken.length = given.length
  removes : ∀ key, (session.unwatch id key).1 = true ↔ key ∈ (session.poller id).keys
  removed : ∀ key, key ∉ ((session.unwatch id key).2.poller id).keys ∧
    ((session.unwatch id key).2.poller id).eventsFor key = {}
  spared : ∀ key other, other ≠ key →
    (∀ watch : Watch, watch.key = other →
      (watch ∈ ((session.unwatch id key).2.poller id).watches ↔
        watch ∈ (session.poller id).watches)) ∧
      ((session.unwatch id key).2.poller id).eventsFor other = (session.poller id).eventsFor other
  refused : ∀ key line interest fault, (session.watch id key line interest).1 = .error fault →
    (session.watch id key line interest).2 = session
  told : ∀ key, ((session.poller id).eventsFor key).isEmpty = false →
    key ∈ (session.poller id).keys ∧ ∃ last, latest? = some last ∧
      (last.poller id).eventsFor key = (session.poller id).eventsFor key
  -- how a poll turns out is for the watches and the lines to say, and not for earlier polls
  polls : ∀ (other : Session) (index : PollerId) (limit : Duration),
    (other.poller index).watches = (session.poller id).watches →
      (∀ watch ∈ (session.poller id).watches,
        other.net.readiness watch.source = session.net.readiness watch.source) →
        other.polled index limit = session.polled id limit ∧
          (other.notice index).1 = (session.notice id).1 ∧
            ((other.notice index).2.poller index).ready = ((session.notice id).2.poller id).ready

theorem pollers_keep_books (host : Host) (acts : List Act) (id : PollerId) :
    (after host acts).Books id (keysGiven id acts (start host)) (keysTaken id acts (start host))
      (latestLook? id acts (start host)) := by
  have h := balanced_after host acts id
  refine ⟨h.distinct, h.registered, h.length, fun key => Poller.remove_fst, fun key => ?_,
    fun key other hother => ⟨fun watch hwatch => ?_, ?_⟩,
    fun key line interest fault => watch_refused, fun key hkey => ?_,
    fun other index limit hwatches hlook => ⟨?_, ?_, ready_notice_congr hwatches hlook⟩⟩
  · rw [poller_unwatch, Poller.eventsFor_remove, if_pos rfl]
    exact ⟨fun hmem => (Poller.mem_keys_remove.mp hmem).2 rfl, rfl⟩
  · rw [poller_unwatch]
    exact ⟨fun hmem => (List.mem_filter.mp hmem).1, fun hmem =>
      List.mem_filter.mpr ⟨hmem, bne_iff_ne.mpr (hwatch ▸ hother)⟩⟩
  · rw [poller_unwatch, Poller.eventsFor_remove, if_neg hother]
  · obtain ⟨hregistered, hfound⟩ := h.told hkey
    refine ⟨hregistered, ?_⟩
    cases hlatest : latestLook? id acts (start host) with
    | none =>
        rw [hfound, hlatest] at hkey
        cases hkey
    | some last =>
        rw [hlatest] at hfound
        exact ⟨last, rfl, hfound.symm⟩
  · rw [polled_eq, polled_eq, hwatches, found_congr hlook]
  · rw [notice_fst, notice_fst, ready_notice_congr hwatches hlook]

end Session

end FramedLines
