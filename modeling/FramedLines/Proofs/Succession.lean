import FramedLines.Proofs.Rivals

-- Who can be dialed at a path while calls on it overlap. A listener whose calls have come through
-- is the only one there, but its file is not safe from a predecessor that has been slow to go.

namespace FramedLines

namespace Host

section Holders

variable {text : String} {number : Nat} {host other : Host} {listener : SocketListener}

-- How many listeners are open.
def standing (host : Host) : Nat := host.listeners.countP fun listener => !listener.closed

-- How often a path can be held, which is once while its key is known.
def holding (text : String) (host : Host) : Nat := if host.key text ∈ host.bound then 1 else 0

theorem holding_congr (hhome : other.files.home = host.files.home)
    (hbound : other.bound = host.bound) : other.holding text = host.holding text := by
  have hkey : other.key text = host.key text := by rw [key, key, hhome]
  rw [holding, holding, hkey, hbound]

theorem standing_pos (hlistener : host.listeners[number]? = some listener)
    (hopen : listener.closed = false) : 0 < host.standing :=
  List.countP_pos_iff.mpr ⟨listener, List.mem_of_getElem? hlistener, by simp [hopen]⟩

theorem standing_modify (hlisteners : other.listeners = host.listeners.modify number f)
    (hlistener : host.listeners[number]? = some listener) :
    other.standing + (!listener.closed).toNat = host.standing + (!(f listener).closed).toNat := by
  obtain ⟨others, hhost, hothers⟩ :=
    exists_countP_others hlistener fun listener => !listener.closed
  rw [standing, standing, hlisteners, modify_eq_set hlistener, hothers, hhost]
  omega

theorem standing_dropHandle (hlistener : host.listeners[number]? = some listener)
    (hopen : listener.closed = false) : (host.dropHandle number).standing + 1 = host.standing := by
  obtain ⟨connections, hdropped⟩ := dropHandle_eq number host
  have hcount := standing_modify (congrArg Host.listeners hdropped) hlistener
  rwa [hopen] at hcount

-- A dial that comes and goes does not count.
theorem standing_answered (endpoint : Endpoint) (dialed : Nat) (host : Host) :
    ((host.reach number .local endpoint).2.updateConnection dialed
      (Connection.close .first)).standing = host.standing := by
  cases hlistener : host.listeners[number]? with
  | none =>
      have hsame : (host.reach number .local endpoint).2.listeners = host.listeners := by
        simp only [reach, updateListener, List.modify_eq_set_getElem?, hlistener]
        rfl
      exact congrArg (List.countP _) hsame
  | some listener =>
      have hcount : (host.reach number .local endpoint).2.standing + _ = host.standing + _ :=
        standing_modify rfl hlistener
      exact Nat.add_right_cancel hcount

end Holders

-- What is held of a path stays what can be held of it, step by step.
theorem Errand.Effect.held {endpoint : Endpoint} {before after : Host} {errand next : Errand}
    (h : Effect endpoint before errand next after) {others : Nat}
    (hheld : before.standing + (others + errand.forgets.toNat) = before.holding endpoint.address) :
    after.standing + (others + next.forgets.toNat) = after.holding endpoint.address := by
  cases h with
  | bound cleared files hfree hcleared hchecked hfiles =>
      have hhome : files.home = before.files.home := hfiles.leads.1.trans hcleared.home_eq
      rw [holding, if_neg hfree] at hheld
      simp only [holding, key, hhome, List.mem_cons, true_or, if_true, standing,
        List.countP_append, List.countP_singleton, Bool.not_false, forgets] at hheld ⊢
      omega
  | refused fault => exact hheld
  | failed fault files hfree hcleared =>
      have hsame : Host.holding endpoint.address { before with files } =
          before.holding endpoint.address := holding_congr hcleared.home_eq rfl
      rw [hsame]
      exact hheld
  | answered fault listener hfree =>
      rw [standing_answered]
      exact hheld
  | dropped number listener hlistener hopen =>
      have hcount := standing_dropHandle hlistener hopen
      obtain ⟨connections, hdropped⟩ := dropHandle_eq number before
      have hsame : (before.dropHandle number).holding endpoint.address =
          before.holding endpoint.address := by
        rw [hdropped]
        rfl
      simp only [forgets, Bool.toNat_true, Bool.toNat_false] at hheld ⊢
      omega
  | late number => exact hheld
  | forgotten number =>
      have hone : before.holding endpoint.address ≤ 1 := by
        unfold holding
        split <;> omega
      have hnone : (before.forget endpoint.address).holding endpoint.address = 0 := by
        simp [holding, forget, key]
      rw [hnone]
      simp only [forgets, Bool.toNat_true, Bool.toNat_false] at hheld ⊢
      change before.standing + _ = 0
      omega
  | unlinked number =>
      have hstanding : (before.unlink endpoint.address).standing = before.standing := by
        rw [standing, listeners_unlink, standing]
      have hsame : (before.unlink endpoint.address).holding endpoint.address =
          before.holding endpoint.address := by
        rw [holding, holding, key_unlink, bound_unlink]
      rw [hstanding, hsame]
      exact hheld
  | stayed => exact hheld

theorem Errand.Effect.settled {endpoint : Endpoint} {before after : Host} {errand next : Errand}
    (h : Effect endpoint before errand next after) (hsettled : before.Settled) :
    after.Settled := by
  cases h with
  | bound cleared files hfree hcleared hchecked hfiles => exact hsettled.concat rfl rfl
  | answered fault answering hfree => exact hsettled.modify rfl fun _ => ⟨rfl, rfl⟩
  | dropped dropped listener hlistener hopen =>
      obtain ⟨connections, hdropped⟩ := dropHandle_eq dropped before
      rw [hdropped]
      intro index other hother
      rcases getElem?_modify_cases hother with ⟨-, old, hold, rfl⟩ | ⟨-, hold⟩
      · rfl
      · exact hsettled index other hold
  | unlinked _ =>
      rw [Settled, listeners_unlink]
      exact hsettled
  | _ => exact hsettled

namespace Traffic

variable {endpoint : Endpoint} {before after traffic : Traffic} {number unlinkers : Nat}

-- The path is held by the listener that is open there, or by the one that has let go of its handle
-- and not of the key. There is only ever one of them.
structure Kept (endpoint : Endpoint) (traffic : Traffic) : Prop where
  settled : ∀ (number : Nat) (listener : SocketListener),
    traffic.host.listeners[number]? = some listener → listener.isOpen = !listener.closed
  held : traffic.host.standing + traffic.errands.countP Errand.forgets =
    traffic.host.holding endpoint.address

theorem Kept.change (h : before.Kept endpoint) (hchange : Change endpoint before after) :
    after.Kept endpoint := by
  cases hchange with
  | idle => exact h
  | begun errand hforgets hunlinks =>
      refine ⟨h.settled, ?_⟩
      rw [begin, List.countP_append, List.countP_singleton, hforgets]
      exact h.held
  | advanced index errand next host herrand heffect =>
      obtain ⟨others, hbefore, hafter⟩ := exists_countP_others herrand Errand.forgets
      refine ⟨heffect.settled h.settled, ?_⟩
      rw [hafter]
      exact heffect.held (hbefore ▸ h.held)

theorem Kept.perform (h : traffic.Kept endpoint) (moves : List Move) :
    (moves.foldl (Traffic.perform endpoint) traffic).Kept endpoint := by
  induction moves generalizing traffic with
  | nil => exact h
  | cons move moves ih => exact ih (h.change (perform_change endpoint move traffic))

theorem kept_of (endpoint : Endpoint) (files : Files) (moves : List Move) :
    (of endpoint files moves).Kept endpoint := by
  apply Kept.perform
  refine ⟨?_, rfl⟩
  rintro number listener ⟨⟩

-- While a listener is open nobody else can listen at the path, and what its predecessors have left
-- to do takes its file away.
structure Reigns (endpoint : Endpoint) (number unlinkers : Nat) (traffic : Traffic) : Prop
    extends traffic.Kept endpoint where
  standing : ∃ listener, traffic.host.listeners[number]? = some listener ∧ listener.closed = false
  fit : Path.checked endpoint.address = .ok (Path.parse endpoint.address)
  fewer : traffic.unlinkers ≤ unlinkers
  place : ∃ location, traffic.host.files.locate (Path.parse endpoint.address) =
      .ok (.entry location false) ∧
    traffic.host.files.node? location =
      if traffic.unlinkers = unlinkers then some (.socket (some number)) else none

namespace Reigns

theorem mem_bound (h : traffic.Reigns endpoint number unlinkers) :
    traffic.host.key endpoint.address ∈ traffic.host.bound := by
  obtain ⟨listener, hlistener, hopen⟩ := h.standing
  have hpos := standing_pos hlistener hopen
  by_contra hfree
  have hheld := h.held
  rw [holding, if_neg hfree] at hheld
  omega

theorem counts (h : traffic.Reigns endpoint number unlinkers) :
    traffic.host.standing = 1 ∧ traffic.errands.countP Errand.forgets = 0 := by
  obtain ⟨listener, hlistener, hopen⟩ := h.standing
  have hpos := standing_pos hlistener hopen
  have hheld := h.held
  rw [holding, if_pos h.mem_bound] at hheld
  omega

theorem keep (h : before.Reigns endpoint number unlinkers) (hkept : after.Kept endpoint)
    (hhost : after.host = before.host) (hcount : after.unlinkers = before.unlinkers) :
    after.Reigns endpoint number unlinkers := by
  refine ⟨hkept, ?_, h.fit, hcount ▸ h.fewer, ?_⟩
  · rw [hhost]
    exact h.standing
  · rw [hhost, hcount]
    exact h.place

-- Whoever has only the file left to take away takes the one that is there.
theorem unlink (h : before.Reigns endpoint number unlinkers) (hkept : after.Kept endpoint)
    (hhost : after.host = before.host.unlink endpoint.address)
    (hcount : after.unlinkers + 1 = before.unlinkers) :
    after.Reigns endpoint number unlinkers := by
  have hfewer := h.fewer
  obtain ⟨location, hlocate, hnode⟩ := h.place
  refine ⟨hkept, ?_, h.fit, by omega, location, ?_⟩
  · rw [hhost, listeners_unlink]
    exact h.standing
  · rw [hhost, Host.unlink, if_neg (by omega)]
    by_cases hall : before.unlinkers = unlinkers
    · rw [if_pos hall] at hnode
      have hlocation := Files.ne_nil_of_locate hlocate
      have hleads := Files.leads_erase hlocation hnode rfl
      rw [Files.unlink_eq hlocate hnode (by simp)]
      exact ⟨hleads.locate hlocate, by rw [Files.node?_erase hlocation, if_pos rfl]⟩
    · rw [if_neg hall] at hnode
      have hgone : before.host.files.unlink (Path.parse endpoint.address) = .error .noEntry := by
        simp [Files.unlink, hlocate, hnode]
      rw [hgone]
      exact ⟨hlocate, hnode⟩

theorem change (h : before.Reigns endpoint number unlinkers)
    (hchange : Change endpoint before after)
    (hopen : ∀ errand ∈ after.errands, errand.closes ≠ some number) :
    after.Reigns endpoint number unlinkers := by
  have hkept := h.toKept.change hchange
  cases hchange with
  | idle => exact h
  | begun errand hforgets hunlinks =>
      have hcount : (before.begin errand).unlinkers = before.unlinkers := by
        simp [Traffic.unlinkers, begin, hunlinks]
      exact h.keep hkept rfl hcount
  | advanced index errand next host herrand heffect =>
      obtain ⟨others, hbefore, hafter⟩ := exists_countP_others herrand Errand.unlinks
      have hsame (hunlinks : next.unlinks = errand.unlinks) :
          (before.errands.set index next).countP Errand.unlinks = before.unlinkers := by
        rw [hafter, hunlinks, ← hbefore]
        rfl
      cases heffect with
      | bound cleared files hfree => exact absurd h.mem_bound hfree
      | refused fault => exact h.keep hkept rfl (hsame rfl)
      | failed fault files hfree => exact absurd h.mem_bound hfree
      | answered fault listener hfree => exact absurd h.mem_bound hfree
      | dropped other listener hlistener hstanding =>
          -- a second open listener is one too many, so it is this one that closes
          obtain ⟨own, hown, hownOpen⟩ := h.standing
          have hother : other ≠ number := by
            rintro rfl
            have hindex := (List.getElem?_eq_some_iff.mp herrand).1
            exact hopen _ (List.mem_set hindex _) rfl
          have hcount := standing_dropHandle hlistener hstanding
          obtain ⟨connections, hdropped⟩ := dropHandle_eq other before.host
          have hstill : (before.host.dropHandle other).listeners[number]? = some own := by
            rw [hdropped, getElem?_modify_of hown, if_neg hother]
          have hpos := standing_pos hstill hownOpen
          have hone := h.counts.1
          omega
      | late other => exact h.keep hkept rfl (hsame rfl)
      | forgotten other =>
          have hnone := List.countP_eq_zero.mp h.counts.2
          exact absurd rfl (hnone _ (List.mem_of_getElem? herrand))
      | unlinked other =>
          apply h.unlink hkept rfl
          simp only [Traffic.unlinkers, hafter, hbefore, Errand.unlinks, Bool.toNat_true,
            Bool.toNat_false]
      | stayed => exact h.keep hkept rfl (hsame rfl)

theorem perform (h : traffic.Reigns endpoint number unlinkers) (moves : List Move)
    (hopen : ∀ errand ∈ (moves.foldl (Traffic.perform endpoint) traffic).errands,
      errand.closes ≠ some number) :
    (moves.foldl (Traffic.perform endpoint) traffic).Reigns endpoint number unlinkers := by
  induction moves generalizing traffic with
  | nil => exact h
  | cons move moves ih =>
      have hchange := perform_change endpoint move traffic
      have hnow : ∀ errand ∈ (traffic.perform endpoint move).errands,
          errand.closes ≠ some number := by
        intro errand herrand hcloses
        obtain ⟨later, hlater, hsame⟩ := closes_perform moves herrand
        exact hopen later hlater (hsame.trans hcloses)
      exact ih (h.change hchange hnow) hopen

-- It begins when listening comes through.
theorem of_listened (h : before.Kept endpoint) (haddress : endpoint.address.isEmpty = false)
    {index : Nat} (hlistening : before.errands[index]? = some .listening)
    (hlistened : (before.advance endpoint index).errands[index]? = some (.listened (.ok number))) :
    (before.advance endpoint index).Reigns endpoint number before.unlinkers := by
  have hchange := perform_change endpoint (.step index) before
  have hkept := h.change hchange
  have hindex := (List.getElem?_eq_some_iff.mp hlistening).1
  obtain ⟨others, hbefore, hafter⟩ := exists_countP_others hlistening Errand.unlinks
  have heffect := Errand.step_effect endpoint .listening before.host
  simp only [Traffic.perform, advance, hlistening] at hkept hlistened ⊢
  generalize Errand.step endpoint before.host .listening = answer at *
  obtain ⟨next, host⟩ := answer
  rw [List.getElem?_set_self hindex, Option.some.injEq] at hlistened
  obtain rfl : next = .listened (.ok number) := hlistened
  have hcount : (before.errands.set index (.listened (.ok number))).countP Errand.unlinks =
      before.unlinkers := by
    rw [hafter]
    exact hbefore.symm
  cases heffect with
  | bound cleared files hfree hcleared hchecked hfiles =>
      obtain ⟨location, hlocate, hnode⟩ := hfiles.standing haddress
      refine ⟨hkept, ⟨_, List.getElem?_concat_length, rfl⟩, hchecked, Nat.le_of_eq hcount, location,
        hlocate, ?_⟩
      rw [Traffic.unlinkers, if_pos hcount]
      exact hnode

theorem find_eq (h : traffic.Reigns endpoint number unlinkers) :
    traffic.host.files.find (Path.parse endpoint.address) =
      if traffic.unlinkers = unlinkers then .ok (.socket (some number)) else .error .noEntry := by
  obtain ⟨location, hlocate, hnode⟩ := h.place
  by_cases hall : traffic.unlinkers = unlinkers
  · rw [if_pos hall] at hnode ⊢
    exact Files.find_socket hlocate hnode
  · rw [if_neg hall] at hnode ⊢
    exact Files.find_eq_error hlocate hnode

theorem dialLocal_eq (h : traffic.Reigns endpoint number unlinkers)
    (haddress : endpoint.address.isEmpty = false) :
    if traffic.unlinkers = unlinkers then
      ∃ dialed host, traffic.host.dialLocal endpoint = .ok (dialed, host)
    else traffic.host.dialLocal endpoint =
      .error (Fault.connectFailure endpoint.address (.os .noEntry)) := by
  have hfind := h.find_eq
  obtain ⟨listener, hlistener, hopen⟩ := h.standing
  have hlive : traffic.host.isLive number = true := by
    simp [isLive, hlistener, h.settled number listener hlistener, hopen]
  by_cases hall : traffic.unlinkers = unlinkers
  · rw [if_pos hall] at hfind ⊢
    have hconnect : traffic.host.connectPath endpoint endpoint.address =
        .ok (traffic.host.reach number .local endpoint) := by
      simp [connectPath, h.fit, haddress, hfind, hlive]
    exact ⟨_, _, by rw [dialLocal, hconnect]; rfl⟩
  · rw [if_neg hall] at hfind ⊢
    have hconnect : traffic.host.connectPath endpoint endpoint.address =
        .error (.os .noEntry) := by
      simp [connectPath, h.fit, haddress, hfind]
    rw [dialLocal, hconnect]
    rfl

end Reigns

-- Without a path there is no file, and nothing to dial.
theorem dialLocal_nowhere (host : Host) (scheme : Scheme) :
    host.dialLocal ⟨scheme, ""⟩ = .error (Fault.connectFailure "" (.os .invalid)) := rfl

-- Whoever listens at a path and has not begun to close can be dialed there as long as nobody takes
-- the file away who had already let go of the path when the listening came through. Once one of
-- them does, the file is gone and no dial finds the way.
theorem successor_stands_until_unlinked (files : Files) {endpoint : Endpoint}
    (haddress : endpoint.address ≠ "") {earlier later : List Move} {index number : Nat}
    (hlistening : (of endpoint files earlier).errands[index]? = some .listening)
    (hlistened : (of endpoint files (earlier ++ [.step index])).errands[index]? =
      some (.listened (.ok number)))
    (hopen : ∀ errand ∈ (of endpoint files (earlier ++ .step index :: later)).errands,
      errand.closes ≠ some number) :
    let before := of endpoint files earlier
    let after := of endpoint files (earlier ++ .step index :: later)
    after.unlinkers ≤ before.unlinkers ∧
    (after.unlinkers = before.unlinkers →
      after.host.files.find (Path.parse endpoint.address) = .ok (.socket (some number)) ∧
        ∃ dialed host, after.host.dialLocal endpoint = .ok (dialed, host)) ∧
    (after.unlinkers < before.unlinkers →
      after.host.files.find (Path.parse endpoint.address) = .error .noEntry ∧
        after.host.dialLocal endpoint =
          .error (Fault.connectFailure endpoint.address (.os .noEntry))) := by
  have hempty : endpoint.address.isEmpty = false := by simpa using haddress
  intro before after
  have hsplit : after =
      later.foldl (perform endpoint) ((of endpoint files earlier).advance endpoint index) := by
    simp only [after, of, List.foldl_append, List.foldl_cons]
    rfl
  have hbegun : (before.advance endpoint index).Reigns endpoint number before.unlinkers := by
    rw [of, List.foldl_append] at hlistened
    exact .of_listened (kept_of endpoint files earlier) hempty hlistening hlistened
  have hreigns : after.Reigns endpoint number before.unlinkers := by
    rw [hsplit]
    apply hbegun.perform
    rw [← hsplit]
    exact hopen
  have hfind := hreigns.find_eq
  have hdial := hreigns.dialLocal_eq hempty
  refine ⟨hreigns.fewer, fun hall => ?_, fun hgone => ?_⟩
  · rw [if_pos hall] at hfind hdial
    exact ⟨hfind, hdial⟩
  · rw [if_neg (Nat.ne_of_lt hgone)] at hfind hdial
    exact ⟨hfind, hdial⟩

-- Somebody closes, lets go of the path and has not taken the file away when a successor listens.
theorem successor_stands_until_unlinked_late :
    let endpoint : Endpoint := ⟨.local, "/s"⟩
    let earlier : List Move := [.listen, .step 0, .close 0, .step 1, .step 1, .listen]
    let early := of endpoint {} (earlier ++ [.step 2])
    let late := of endpoint {} (earlier ++ .step 2 :: [.step 1])
    (of endpoint {} earlier).errands[2]? = some .listening ∧
    early.errands[2]? = some (.listened (.ok 1)) ∧
    (∀ errand ∈ late.errands, errand.closes ≠ some 1) ∧
    late.unlinkers < (of endpoint {} earlier).unlinkers ∧
    (∃ dialed host, early.host.dialLocal endpoint = .ok (dialed, host)) ∧
    late.host.dialLocal endpoint = .error (Fault.connectFailure "/s" (.os .noEntry)) := by
  intro endpoint earlier early late
  have hlistening : (of endpoint {} earlier).errands[2]? = some .listening := by decide +kernel
  have hlistened : early.errands[2]? = some (.listened (.ok 1)) := by decide +kernel
  have hopen : ∀ errand ∈ late.errands, errand.closes ≠ some 1 := by decide +kernel
  have hfewer : late.unlinkers < (of endpoint {} earlier).unlinkers := by decide +kernel
  have hnow := @successor_stands_until_unlinked {} endpoint (by decide) earlier [] 2 1
    hlistening hlistened (by decide +kernel)
  have hlater := @successor_stands_until_unlinked {} endpoint (by decide) earlier [.step 1]
    2 1 hlistening hlistened hopen
  have hall : early.unlinkers = (of endpoint {} earlier).unlinkers := by decide +kernel
  obtain ⟨-, hstands, -⟩ := hnow
  obtain ⟨-, -, hgone⟩ := hlater
  exact ⟨hlistening, hlistened, hopen, hfewer, (hstands hall).2, (hgone hfewer).2⟩

-- The successor is still there and nobody has begun to close it, yet no dial gets through. And a
-- listener without a path cannot be dialed at all.
theorem late_unlink_strands_successor :
    let endpoint : Endpoint := ⟨.local, "/s"⟩
    let moves : List Move :=
      [.listen, .step 0, .close 0, .step 1, .step 1, .listen, .step 2, .step 1]
    let traffic := of endpoint {} moves
    traffic.errands = [.listened (.ok 0), .closed 0, .listened (.ok 1)] ∧
    traffic.host.isLive 1 = true ∧
    traffic.host.files.find (Path.parse "/s") = .error .noEntry ∧
    traffic.host.dialLocal endpoint = .error (Fault.connectFailure "/s" (.os .noEntry)) ∧
    (of ⟨.local, ""⟩ {} [.listen, .step 0]).errands = [.listened (.ok 0)] ∧
    (of ⟨.local, ""⟩ {} [.listen, .step 0]).host.dialLocal ⟨.local, ""⟩ =
      .error (Fault.connectFailure "" (.os .invalid)) := by
  refine ⟨by decide +kernel, by decide +kernel, by decide +kernel, by decide +kernel,
    by decide +kernel, ?_⟩
  exact dialLocal_nowhere _ .local

end Traffic

end Host

end FramedLines
