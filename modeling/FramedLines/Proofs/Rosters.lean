import FramedLines.Proofs.Listening

-- Who listens at which path, as the process knows it. That is kept through every act, even when
-- somebody else makes files where he likes.

namespace FramedLines

namespace Host

variable {before after host : Host}

-- What a step does to those who listen at paths, and to what is known of them.
inductive Roster (before after : Host) : Prop where
  | kept (hbound : after.bound = before.bound)
      (hlistens : ∀ number text, after.ListensAt number text ↔ before.ListensAt number text)
  | entered {text : String} (hfree : before.key text ∉ before.bound)
      (hbound : after.bound = before.key text :: before.bound)
      (hlistens : ∀ index path, after.ListensAt index path ↔
        before.ListensAt index path ∨ index = before.listeners.length ∧ path = text)
  | left {number : Nat} {text : String} (hnumber : before.ListensAt number text)
      (hbound : after.bound = before.bound.filter (· != before.key text))
      (hlistens : ∀ index path, after.ListensAt index path ↔
        before.ListensAt index path ∧ index ≠ number)

theorem roster_modify {f : SocketListener → SocketListener} {number : Nat}
    (hlisteners : after.listeners = before.listeners.modify number f)
    (hf : ∀ listener, (f listener).closed = listener.closed ∧
      (f listener).station = listener.station) (hbound : after.bound = before.bound) :
    before.Roster after :=
  .kept hbound (listensAt_modify hlisteners hf)

theorem roster_close {number : Nat} {listener : SocketListener}
    (hlistener : before.listeners[number]? = some listener) (hopen : listener.closed = false) :
    before.Roster (before.close number) := by
  obtain ⟨connections, hdropped⟩ := dropHandle_eq number before
  have hlistens := listensAt_close hlistener hopen
  cases hstation : listener.station with
  | port address =>
      refine .kept ?_ fun index path => (hlistens index path).trans (and_iff_left_of_imp ?_)
      · simp [close, hlistener, hopen, hstation, hdropped]
      · rintro ⟨other, hother, -, hpath⟩ rfl
        cases hlistener.symm.trans hother
        cases hstation.symm.trans hpath
  | path text =>
      refine .left ⟨listener, hlistener, hopen, hstation⟩ ?_ hlistens
      simp [close, hlistener, hopen, hstation, hdropped, forget, key]

theorem Effect.roster (h : before.Effect after) : before.Roster after := by
  cases h with
  | idle => exact .kept rfl fun _ _ => .rfl
  | listenedPort endpoint address interval nextPort =>
      refine .kept rfl fun index path => (listensAt_concat rfl rfl index path).trans ?_
      exact or_iff_left (by rintro ⟨-, ⟨⟩⟩)
  | listenedPath endpoint interval cleared files hfree hcleared hchecked hfiles =>
      refine .entered hfree rfl fun index path => (listensAt_concat rfl rfl index path).trans ?_
      rw [Station.path.injEq, @eq_comm _ endpoint.address]
  | cleared endpoint files hcleared => exact .kept rfl fun _ _ => .rfl
  | answered endpoint listener hlive =>
      exact roster_modify rfl (fun _ => ⟨rfl, rfl⟩) rfl
  | dialed endpoint listener family => exact roster_modify rfl (fun _ => ⟨rfl, rfl⟩) rfl
  | accepted number listener dialed pending hlistener hpending =>
      exact roster_modify rfl (fun _ => ⟨rfl, rfl⟩) rfl
  | called number side request c hconnection => exact .kept rfl fun _ _ => .rfl
  | closedLine number side => exact .kept rfl fun _ _ => .rfl
  | closed number listener hlistener hopen => exact roster_close hlistener hopen

theorem Effect.settled (h : before.Effect after) (hsettled : before.Settled) : after.Settled := by
  cases h with
  | listenedPort endpoint address interval nextPort => exact hsettled.concat rfl rfl
  | listenedPath endpoint interval cleared files hfree hcleared hchecked hfiles =>
      exact hsettled.concat rfl rfl
  | answered endpoint listener hlive => exact hsettled.modify rfl fun _ => ⟨rfl, rfl⟩
  | dialed endpoint listener family => exact hsettled.modify rfl fun _ => ⟨rfl, rfl⟩
  | accepted number listener dialed pending hlistener hpending =>
      exact hsettled.modify rfl fun _ => ⟨rfl, rfl⟩
  | closed number listener hlistener hopen => exact hsettled.close hlistener hopen
  | _ => exact hsettled

-- Nobody moves the place where relative paths start.
theorem Effect.home_eq (h : before.Effect after) : after.files.home = before.files.home := by
  cases h with
  | listenedPath endpoint interval cleared files hfree hcleared hchecked hfiles =>
      exact hfiles.leads.1.trans hcleared.home_eq
  | cleared endpoint files hcleared => exact hcleared.home_eq
  | closed number listener hlistener hopen =>
      obtain ⟨connections, hdropped⟩ := dropHandle_eq number before
      cases hstation : listener.station <;>
        simp [close, hlistener, hopen, hstation, hdropped, forget, home_unlink]
  | _ => rfl

-- What a process knows of its paths, wherever they lead by now.
structure Listed (host : Host) : Prop where
  settled : host.Settled
  entered : ∀ number text, host.ListensAt number text → host.key text ∈ host.bound
  single : ∀ one other text text', host.ListensAt one text → host.ListensAt other text' →
    host.key text = host.key text' → one = other

theorem Listed.roster (h : before.Listed) (hroster : before.Roster after)
    (hhome : after.files.home = before.files.home) (hsettled : after.Settled) : after.Listed := by
  have hkey (text : String) : after.key text = before.key text := by
    rw [key, key, hhome]
  cases hroster with
  | kept hbound hlistens =>
      refine ⟨hsettled, fun number text hnumber => ?_,
        fun one other text text' hone hother hsame => ?_⟩
      · rw [hbound, hkey]
        exact h.entered number text ((hlistens number text).mp hnumber)
      · rw [hkey, hkey] at hsame
        exact h.single one other text text' ((hlistens one text).mp hone)
          ((hlistens other text').mp hother) hsame
  | @entered text hfree hbound hlistens =>
      have hunused (index : Nat) (path : String) (hindex : before.ListensAt index path) :
          before.key path ≠ before.key text := fun hsame =>
        hfree (hsame ▸ h.entered index path hindex)
      refine ⟨hsettled, fun index path hindex => ?_,
        fun one other path path' hone hother hsame => ?_⟩
      · rw [hbound, hkey, List.mem_cons]
        rcases (hlistens index path).mp hindex with hold | ⟨-, rfl⟩
        · exact .inr (h.entered index path hold)
        · exact .inl rfl
      · rw [hkey, hkey] at hsame
        rcases (hlistens one path).mp hone with hone | ⟨rfl, rfl⟩ <;>
          rcases (hlistens other path').mp hother with hother | ⟨rfl, rfl⟩
        · exact h.single one other path path' hone hother hsame
        · exact absurd hsame (hunused one path hone)
        · exact absurd hsame.symm (hunused other path' hother)
        · rfl
  | @left number text hnumber hbound hlistens =>
      refine ⟨hsettled, fun index path hindex => ?_,
        fun one other path path' hone hother hsame => ?_⟩
      · obtain ⟨hold, hother⟩ := (hlistens index path).mp hindex
        rw [hbound, hkey, List.mem_filter, bne_iff_ne]
        exact ⟨h.entered index path hold,
          fun hsame => hother (h.single index number path text hold hnumber hsame)⟩
      · rw [hkey, hkey] at hsame
        exact h.single one other path path' ((hlistens one path).mp hone).1
          ((hlistens other path').mp hother).1 hsame

-- It does not matter what the files are.
theorem Listed.refile (h : host.Listed) {files : Files} (hhome : files.home = host.files.home) :
    Listed { host with files } :=
  h.roster (.kept rfl fun _ _ => .rfl) hhome h.settled

end Host

theorem Files.home_make (path : Path) (node : Node) (files : Files) :
    (files.make path node).home = files.home := by
  unfold make
  split <;> rfl

theorem Net.Step.listed {before after : Net} (h : Step False before after)
    (hlisted : before.host.Listed) : after.host.Listed := by
  cases h with
  | hubs h => exact hlisted
  | host h =>
      have heffect := h.effect
      exact hlisted.roster heffect.roster heffect.home_eq (heffect.settled hlisted.settled)
  | refiled hrefiles files => exact hrefiles.elim

namespace Session

-- Every act leaves the list in order, and so does somebody who makes files.
theorem Act.listed (act : Act) {session : Session} (h : session.net.host.Listed) :
    (act.perform session).net.host.Listed := by
  cases hrefiles : act.refiles with
  | false =>
      have hquiet : act.refiles = true → False := by simp [hrefiles]
      exact Net.kept_of_steps (P := fun net => net.host.Listed) Net.Step.listed
        (Net.steps_mono hquiet (act.steps session)) h
  | true =>
      cases act with
      | makeFile text node => exact h.refile (Files.home_make _ node _)
      | _ => cases hrefiles

theorem listed_after (files : Files) (hasRoute : Bool) (pace : Nat) (acts : List Act) :
    (after { files, hasRoute, pace } acts).net.host.Listed := by
  refine kept_after (P := fun session => session.net.host.Listed) (fun act _ h => act.listed h)
    ⟨?_, ?_, ?_⟩ acts
  · rintro number listener ⟨⟩
  · rintro number text ⟨listener, ⟨⟩, -⟩
  · rintro one other text text' ⟨listener, ⟨⟩, -⟩

end Session

end FramedLines
