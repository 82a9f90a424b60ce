import FramedLines.Proofs.Paths

-- Listening at paths, as a program meets it.

namespace FramedLines

namespace Host

variable {before after : Host}

-- Whoever binds a path leaves it to others to know that.
theorem Attempt.bound_eq {endpoint : Endpoint} {outcome : Except IoError Nat × Host}
    (h : before.Attempt endpoint outcome) : outcome.2.bound = before.bound := by
  cases h <;> rfl

theorem bound_listenLocal {endpoint : Endpoint} {result : Except Fault Nat}
    (hlisten : before.listenLocal endpoint = (result, after)) :
    match result with
    | .ok _ => after.bound = before.key endpoint.address :: before.bound
    | .error fault => fault.code = .listenFailure ∧ after.bound = before.bound := by
  have hbound := (attempt_bindOrReclaim endpoint before).bound_eq
  unfold listenLocal at hlisten
  simp only at hlisten
  split at hlisten
  · cases hlisten
    exact ⟨rfl, rfl⟩
  · rcases hattempt : before.bindOrReclaim endpoint with ⟨error | number, host⟩
    all_goals
      rw [hattempt] at hbound hlisten
      cases hlisten
    · exact ⟨rfl, hbound⟩
    · exact congrArg (_ :: ·) hbound

end Host

namespace Net

variable {origin : Files} {before after net : Net} {number : Nat} {text : String}

theorem Step.posted (h : Step False before after) (hposted : before.host.Posted origin) :
    after.host.Posted origin := by
  cases h with
  | hubs h => exact hposted
  | host h => exact h.effect.posted hposted
  | refiled hrefiles files => exact hrefiles.elim

-- What a program can rely on at the paths of its process.
structure MirrorsPaths (net : Net) : Prop where
  mirrored : ∀ key, key ∈ net.host.bound ↔
    ∃ number text, net.host.ListensAt number text ∧ net.host.key text = key
  single : ∀ one other text text', net.host.ListensAt one text → net.host.ListensAt other text' →
    net.host.key text = net.host.key text' → one = other
  refused : ∀ (interval : Duration) (endpoint : Endpoint),
    net.host.key endpoint.address ∈ net.host.bound →
      net.listen (.local interval) endpoint = (.error (Fault.listenFailure endpoint.address
        (.worded .addrInUse "path is already listening in this process")), net)
  failed : ∀ (interval : Duration) (endpoint : Endpoint) (fault : Fault) (next : Net),
    net.listen (.local interval) endpoint = (.error fault, next) →
      fault.code = .listenFailure ∧ next.host.bound = net.host.bound
  entered : ∀ (interval : Duration) (endpoint : Endpoint) (acceptor : AcceptorId) (next : Net),
    net.listen (.local interval) endpoint = (.ok acceptor, next) →
      next.host.bound = net.host.key endpoint.address :: net.host.bound
  forgotten : ∀ number text, net.host.ListensAt number text →
    net.host.key text ∉ (net.closeAcceptor (.socket number)).host.bound

-- A listener that closes leaves its path to others: its file goes, and one can listen there again.
structure Vacates (net : Net) (number : Nat) (text : String) : Prop where
  unlinked : text.isEmpty = false →
    net.host.files.find (Path.parse text) = .ok (.socket (some number)) ∧
      (net.closeAcceptor (.socket number)).host.files.find (Path.parse text) = .error .noEntry
  again : ∀ (interval : Duration) (endpoint : Endpoint), endpoint.address = text →
    ((net.closeAcceptor (.socket number)).listen (.local interval) endpoint).1 =
      .ok (.socket net.host.listeners.length)

-- Its path has lost its way: its file stays, and nobody can listen there.
structure Strands (net : Net) (number : Nat) (text : String) (errno : Errno) : Prop where
  stays : ∃ location, (net.closeAcceptor (.socket number)).host.files.node? location =
    some (.socket (some number))
  refused : ∀ (interval : Duration) (endpoint : Endpoint), endpoint.address = text →
    ((net.closeAcceptor (.socket number)).listen (.local interval) endpoint).1 =
      .error (Fault.listenFailure text (.os errno))

theorem mirrorsPaths (h : net.host.Posted origin) : net.MirrorsPaths := by
  refine ⟨h.mirrored, h.single, fun interval endpoint hbound => ?_,
    fun interval endpoint fault next hlisten => ?_,
    fun interval endpoint acceptor next hlisten => ?_,
    fun number text hnumber => (h.vacated hnumber).1⟩
  · simp [Net.listen, Host.listenLocal, hbound]
  · rcases hlocal : net.host.listenLocal endpoint with ⟨other | number, host⟩
    · simp only [Net.listen, hlocal] at hlisten
      cases hlisten
      exact Host.bound_listenLocal hlocal
    · simp only [Net.listen, hlocal] at hlisten
      cases hlisten
  · rcases hlocal : net.host.listenLocal endpoint with ⟨fault | number, host⟩
    · simp only [Net.listen, hlocal] at hlisten
      cases hlisten
    · simp only [Net.listen, hlocal] at hlisten
      cases hlisten
      exact Host.bound_listenLocal hlocal

theorem listen_closeAcceptor (interval : Duration) (endpoint : Endpoint) :
    ((net.closeAcceptor (.socket number)).listen (.local interval) endpoint).1 =
      ((net.host.close number).listenLocal endpoint).1.map AcceptorId.socket := by
  simp only [closeAcceptor, Net.listen]
  rcases (net.host.close number).listenLocal endpoint with ⟨fault | number, host⟩ <;> rfl

-- Its path is free again exactly when it still leads there.
theorem vacates_iff (h : net.host.Posted origin) (hnumber : net.host.ListensAt number text) :
    net.Vacates number text ↔ ∃ place, net.host.files.locate (Path.parse text) = .ok place := by
  constructor
  · intro hvacates
    have hagain := hvacates.again .zero ⟨.local, text⟩ rfl
    rw [listen_closeAcceptor, h.listenLocal_close hnumber] at hagain
    cases hlocate : net.host.files.locate (Path.parse text) with
    | ok place => exact ⟨place, rfl⟩
    | error errno =>
        rw [hlocate] at hagain
        cases hagain
  · rintro ⟨place, hlocate⟩
    refine ⟨fun htext => ?_, fun interval endpoint haddress => ?_⟩
    · obtain ⟨location, -, horigin⟩ := h.standing number text hnumber htext
      cases (h.worn.ways.locate hlocate).symm.trans horigin
      obtain ⟨hsocket, hthere, hnode⟩ := (h.vacated hnumber).2 location hlocate
      exact ⟨Files.find_socket hlocate hsocket, Files.find_eq_error hthere hnode⟩
    · subst haddress
      rw [listen_closeAcceptor, h.listenLocal_close hnumber, hlocate]
      rfl

theorem strands_of_lost (h : net.host.Posted origin) (hnumber : net.host.ListensAt number text)
    {errno : Errno} (hlost : net.host.files.locate (Path.parse text) = .error errno) :
    net.Strands number text errno := by
  have htext : text.isEmpty = false := by
    cases hempty : text.isEmpty with
    | false => rfl
    | true =>
        rw [String.isEmpty_iff.mp hempty] at hlost
        cases hlost
  obtain ⟨location, hsocket, -⟩ := h.standing number text hnumber htext
  refine ⟨⟨location, ?_⟩, fun interval endpoint haddress => ?_⟩
  · rw [closeAcceptor, h.close_lost hnumber hlost]
    exact hsocket
  · subst haddress
    rw [listen_closeAcceptor, h.listenLocal_close hnumber, hlost]
    rfl

-- It leads there as long as no link has been taken away.
theorem vacates_of_links (h : net.host.Posted origin) (hlinks : ∀ location target,
    origin.node? location = some (.link target) →
      net.host.files.node? location = some (.link target))
    (hnumber : net.host.ListensAt number text) : net.Vacates number text := by
  refine (vacates_iff h hnumber).mpr ?_
  cases hempty : text.isEmpty with
  | true =>
      rw [String.isEmpty_iff.mp hempty]
      exact ⟨_, rfl⟩
  | false =>
      obtain ⟨location, -, horigin⟩ := h.standing number text hnumber hempty
      exact ⟨_, (h.worn.leads hlinks).locate horigin⟩

end Net

namespace Session

theorem posted_after (files : Files) (hasRoute : Bool) (pace : Nat) {acts : List Act}
    (hacts : ∀ act ∈ acts, act.refiles = false) :
    (after { files, hasRoute, pace } acts).net.host.Posted files := by
  have hquiet : acts.any Act.refiles = true → False := by
    rw [List.any_eq_true]
    rintro ⟨act, hact, hrefiles⟩
    cases (hacts act hact).symm.trans hrefiles
  have hstart : (start { files, hasRoute, pace }).net.host.Posted files := by
    refine ⟨?_, fun key => ⟨?_, ?_⟩, ?_, ?_, ?_, .refl files⟩
    · rintro number listener ⟨⟩
    · rintro ⟨⟩
    · rintro ⟨number, text, ⟨listener, ⟨⟩, -⟩, -⟩
    · rintro one other text text' ⟨listener, ⟨⟩, -⟩
    · rintro number text ⟨listener, ⟨⟩, -⟩
    · rintro number text ⟨listener, ⟨⟩, -⟩
  have hsteps := Net.steps_mono hquiet (performAll_steps acts (start { files, hasRoute, pace }))
  exact Net.kept_of_steps (P := fun net => net.host.Posted files) Net.Step.posted hsteps hstart

-- A program whose files nobody else touches meanwhile. Its own listening takes links away where
-- nobody answers behind them, and with them the way to sockets that it listens at.
theorem paths_mirror_listeners (files : Files) (hasRoute : Bool) (pace : Nat) {acts : List Act}
    (hacts : ∀ act ∈ acts, act.refiles = false) :
    let net := (after { files, hasRoute, pace } acts).net
    net.MirrorsPaths ∧
    (∀ number text, net.host.ListensAt number text →
      (net.Vacates number text ↔ ∃ place, net.host.files.locate (Path.parse text) = .ok place) ∧
      ∀ errno, net.host.files.locate (Path.parse text) = .error errno →
        net.Strands number text errno) ∧
    ((∀ location target, files.node? location = some (.link target) →
        net.host.files.node? location = some (.link target)) →
      ∀ number text, net.host.ListensAt number text → net.Vacates number text) := by
  have h := posted_after files hasRoute pace hacts
  exact ⟨Net.mirrorsPaths h,
    fun number text hnumber =>
      ⟨Net.vacates_iff h hnumber, fun errno => Net.strands_of_lost h hnumber⟩,
    fun hlinks number text => Net.vacates_of_links h hlinks⟩

-- Somebody listens behind a link and again by another spelling, and then where the link stands.
theorem paths_mirror_listeners_behind_link :
    let files : Files :=
      { nodes := [(["d"], .directory), (["l"], .link ⟨false, ["d"], false⟩)] }
    let acts : List Act :=
      [.listen "a" (.local .zero) ⟨.local, "/l/s"⟩, .listen "b" (.local .zero) ⟨.local, "/./l/s"⟩,
        .listen "c" (.local .zero) ⟨.local, "/l/t"⟩, .dropAcceptor "c",
        .listen "d" (.local .zero) ⟨.local, "/l"⟩]
    let net := (after { files } acts).net
    (∀ act ∈ acts, act.refiles = false) ∧
      net.host.bound = [["/", "l"], ["/", "l", "s"]] ∧ net.MirrorsPaths ∧
      net.Vacates 2 "/l" ∧ net.Strands 0 "/l/s" .notDirectory := by
  intro files acts net
  have hacts : ∀ act ∈ acts, act.refiles = false := by decide
  obtain ⟨hmirrors, hpaths, -⟩ := paths_mirror_listeners files true 40 hacts
  have hfirst : net.host.ListensAt 0 "/l/s" := by decide +kernel
  have hlast : net.host.ListensAt 2 "/l" := by decide +kernel
  refine ⟨hacts, by decide +kernel, hmirrors, ?_, ?_⟩
  · exact (hpaths 2 "/l" hlast).1.mpr ⟨.entry ["l"] false, by decide +kernel⟩
  · exact (hpaths 0 "/l/s" hfirst).2 .notDirectory (by decide +kernel)

-- The socket is left in its directory for good, and the path of its listener is of no use.
theorem link_goes_and_socket_stays :
    let files : Files :=
      { nodes := [(["d"], .directory), (["l"], .link ⟨false, ["d"], false⟩)] }
    let acts : List Act :=
      [.listen "a" (.local .zero) ⟨.local, "/l/s"⟩, .listen "b" (.local .zero) ⟨.local, "/l"⟩]
    let net := (after { files } acts).net
    let closed := net.closeAcceptor (.socket 0)
    net.host.ListensAt 0 "/l/s" ∧ net.host.ListensAt 1 "/l" ∧
      closed.host.bound = [["/", "l"]] ∧
      closed.host.files.node? ["d", "s"] = some (.socket (some 0)) ∧
      (closed.listen (.local .zero) ⟨.local, "/l/s"⟩).1 =
        .error (Fault.listenFailure "/l/s" (.os .notDirectory)) ∧
      ¬ net.Vacates 0 "/l/s" := by
  intro files acts net closed
  have hagain : (closed.listen (.local .zero) ⟨.local, "/l/s"⟩).1 =
      .error (Fault.listenFailure "/l/s" (.os .notDirectory)) := by decide +kernel
  refine ⟨by decide +kernel, by decide +kernel, by decide +kernel, by decide +kernel, hagain,
    fun h => ?_⟩
  cases hagain.symm.trans (h.again .zero ⟨.local, "/l/s"⟩ rfl)

end Session

end FramedLines
