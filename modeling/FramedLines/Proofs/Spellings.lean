import FramedLines.Proofs.Clearing
import FramedLines.Proofs.Rosters

-- One path under many names. The process knows a path by its spelling, the host by where it leads,
-- and only as long as no spelling goes up or through a link are these the same.

namespace FramedLines

namespace Files

variable {files : Files} {location : List String} {node : Node} {text : String} {path : Path}

-- A spelling that goes neither up nor through a link, and where it leads.
structure Direct (files : Files) (path : Path) (location : List String) : Prop where
  there : ∃ trailing, files.resolve path = .ok (.entry location trailing)
  down : ".." ∉ path.parts
  through : ∀ parts ≠ [], parts <+: path.parts.filter (· != ".") →
    files.isLink (path.start files.home ++ parts) = false

-- The way down goes through all that is named.
theorem walk_down_eq {follows trailing mark : Bool}
    {onward : List String → Path → Except Errno Place} {start parts : List String}
    (hdown : ".." ∉ parts)
    (hthrough : ∀ front ≠ [], front <+: parts.filter (· != ".") →
      files.isLink (start ++ front) = false)
    (hwalk : files.walk follows trailing onward start parts = .ok (.entry location mark)) :
    location = start ++ parts.filter (· != ".") := by
  replace hwalk := walks_of_walk hwalk
  generalize hresult : Except.ok (Place.entry location mark) = result at hwalk
  induction hwalk with
  | ended start => cases hresult
  | here hrest ih => exact ih (List.not_mem_of_not_mem_cons hdown) hthrough hresult
  | up hrest ih => exact absurd List.mem_cons_self hdown
  | last hnamed hend =>
      cases hresult
      simp [hnamed.1]
  | @down start parts part _ hnamed hmore hdirectory hrest ih =>
      rw [List.filter_cons_of_pos (by simpa using hnamed.1)] at hthrough ⊢
      rw [ih (List.not_mem_of_not_mem_cons hdown) (fun front hfront hprefix => ?_) hresult,
        List.append_assoc, List.singleton_append]
      rw [List.append_assoc, List.singleton_append]
      exact hthrough _ (List.cons_ne_nil _ _) ((List.prefix_cons_inj part).mpr hprefix)
  | @link start parts part hnamed target hlink hmore =>
      rw [List.filter_cons_of_pos (by simpa using hnamed.1)] at hthrough
      have hplain := hthrough [part] (List.cons_ne_nil _ _) ⟨_, rfl⟩
      cases hplain.symm.trans (isLink_eq_true_iff.mpr ⟨target, hlink⟩)
  | blocked herrno => cases hresult

-- A path that leads to something is taken by that or by the link at its end.
theorem taken_of_resolve (hresolve : files.resolve path = .ok (.entry location path.trailing))
    (hnode : files.node? location = some node) (hdirectory : node ≠ .directory) :
    ∃ place other, files.locate path = .ok (.entry place path.trailing) ∧
      files.node? place = some other ∧ other ≠ .directory := by
  obtain ⟨before, hlocate, rfl | ⟨place, rfl, hislink⟩⟩ := locate_of_resolve hresolve
  · exact ⟨location, node, hlocate, hnode, hdirectory⟩
  · obtain ⟨target, hlink⟩ := isLink_eq_true_iff.mp hislink
    exact ⟨place, .link target, hlocate, hlink, by simp⟩

-- So a place has one key, however it is spelled.
theorem Direct.key_eq (h : files.Direct (Path.parse text) location) :
    Path.key files.home text = "/" :: location := by
  obtain ⟨trailing, hresolve⟩ := h.there
  have hplace : location =
      (Path.parse text).start files.home ++ (Path.parse text).parts.filter (· != ".") :=
    walk_down_eq h.down h.through hresolve
  have htext : text.isEmpty = false := by
    obtain ⟨before, hlocate, rfl | ⟨place, rfl, -⟩⟩ := locate_of_resolve hresolve
    all_goals exact isEmpty_of_locate hlocate
  rw [Path.key, hplace, Path.start]
  simp only [htext]
  split <;> simp_all

end Files

namespace Host

variable {host : Host} {endpoint : Endpoint} {location : List String} {number : Nat}

-- A name under which a dial comes through, and the process does not know where it leads.
structure Unknown (host : Host) (address : String) : Prop where
  unlisted : host.key address ∉ host.bound
  fit : Path.checked address = .ok (Path.parse address)
  plain : (Path.parse address).trailing = false

-- One more dial waits at a listener, from somebody who is gone again.
def planted (host : Host) (number : Nat) (endpoint : Endpoint) : Host :=
  (host.reach number .local endpoint).2.updateConnection host.connections.length
    (Connection.close .first)

theorem listenLocal_unknown
    (hresolve : host.files.resolve (Path.parse endpoint.address) =
      .ok (.entry location (Path.parse endpoint.address).trailing))
    (hsocket : host.files.node? location = some (.socket number))
    (hlive : host.isLive number = true) (h : host.Unknown endpoint.address) :
    host.listenLocal endpoint =
      (.error (Fault.listenFailure endpoint.address (.os .addressInUse)),
        host.planted number endpoint) := by
  obtain ⟨hunlisted, hfit, hplain⟩ := h
  obtain ⟨place, other, hlocate, hother, -⟩ := Files.taken_of_resolve hresolve hsocket (by simp)
  rw [hplain] at hresolve
  have hconnect := connectPath_live endpoint (Files.isEmpty_of_locate hlocate) hfit
    (Files.find_of_resolve hresolve hsocket) hlive
  simp [listenLocal, hunlisted, bindOrReclaim_taken hfit hlocate hother, reclaim, hconnect,
    planted, reach]

theorem listenLocal_known
    (hresolve : host.files.resolve (Path.parse endpoint.address) =
      .ok (.entry location (Path.parse endpoint.address).trailing))
    (hsocket : host.files.node? location = some (.socket number))
    (h : ¬ host.Unknown endpoint.address) :
    ∃ fault, host.listenLocal endpoint = (.error fault, host) := by
  by_cases hlisted : host.key endpoint.address ∈ host.bound
  · simp [listenLocal, hlisted]
  cases hfit : Path.checked endpoint.address with
  | error error =>
      have hkind : error.kind ≠ .addrInUse := by simp [Path.kind_of_checked hfit]
      simp [listenLocal, hlisted, bindOrReclaim, bindPath, hfit, hkind]
  | ok path =>
      obtain rfl := Path.eq_parse_of_checked hfit
      have hslash : (Path.parse endpoint.address).trailing = true := by
        by_contra hplain
        exact h ⟨hlisted, hfit, Bool.eq_false_iff.mpr hplain⟩
      obtain ⟨place, other, hlocate, hother, hdirectory⟩ :=
        Files.taken_of_resolve hresolve hsocket (by simp)
      -- A slash behind a socket leads nowhere, so nobody is met there.
      have hconnect : host.connectPath endpoint endpoint.address =
          .error (.os .notDirectory) := by
        simp [connectPath, hfit, Files.isEmpty_of_locate hlocate, Files.find, hresolve, hslash,
          hsocket]
      have hunlink : host.files.unlink (Path.parse endpoint.address) = .error .notDirectory := by
        cases other with
        | directory => exact absurd rfl hdirectory
        | _ => simp [Files.unlink, hlocate, hother, hslash]
      simp [listenLocal, hlisted, bindOrReclaim_taken hfit hlocate hother, reclaim, hconnect,
        hunlink]

theorem planted_ne (number : Nat) (endpoint : Endpoint) (host : Host) :
    host.planted number endpoint ≠ host := by
  intro h
  have hconnections := congrArg (fun host => host.connections.length) h
  simp [planted, reach, updateListener, updateConnection] at hconnections

-- Whoever waits for a connection there is given one.
theorem accept?_planted (hlive : host.isLive number = true) (hwaits : host.accept? number = none)
    (endpoint : Endpoint) :
    ∃ last, (host.planted number endpoint).accept? number =
      some (some host.connections.length, last) := by
  obtain ⟨listener, hlistener, hopen⟩ := (Option.any_eq_true _ _).mp hlive
  have hidle : listener.closed = false ∧ listener.pending = [] := by
    simp only [accept?, hlistener, hopen] at hwaits
    split at hwaits
    · cases hwaits
    · next hclosed =>
        split at hwaits
        · cases hwaits
        · next hpending => exact ⟨by simpa using hclosed, hpending⟩
  have hplanted : (host.planted number endpoint).listeners[number]? =
      some { listener with pending := [host.connections.length] } := by
    simp [planted, reach, updateListener, updateConnection, hlistener, hidle.2]
  simp [accept?, hplanted, hopen, hidle.1]

-- An open listener at a path, and the file that it made.
structure StandsAt (host : Host) (number : Nat) (text : String) (location : List String) :
    Prop where
  listens : host.ListensAt number text
  socket : host.files.node? location = some (.socket number)

theorem Listed.known (h : host.Listed) {text address : String}
    (hlistens : host.ListensAt number text) (hkey : host.key address = host.key text) :
    ¬ host.Unknown address :=
  fun hunknown => hunknown.unlisted (hkey ▸ h.entered number text hlistens)

end Host

namespace Session

-- Where somebody listens nobody else can, by whatever name he goes. But the process refuses only
-- the names that it knows, and these are the ways to spell one path. By any other the host is
-- asked, and then a connection is left behind.
theorem listening_again_fails (files : Files) (hasRoute : Bool) (pace : Nat) (acts : List Act)
    (interval : Duration) {number : Nat} {text : String} {location : List String}
    {endpoint : Endpoint} :
    let net := (after { files, hasRoute, pace } acts).net
    let path := Path.parse endpoint.address
    net.host.StandsAt number text location →
    net.host.files.resolve path = .ok (.entry location path.trailing) →
    ∃ fault next, net.listen (.local interval) endpoint = (.error fault, next) ∧
      fault.code = .listenFailure ∧
      (net.host.key endpoint.address = net.host.key text → next = net) ∧
      (net.host.files.Direct (Path.parse text) location → net.host.files.Direct path location →
        next = net) ∧
      (next = net ↔ ¬ net.host.Unknown endpoint.address) ∧
      (next ≠ net → next.host = net.host.planted number endpoint ∧
        (net.accept? (.socket number) = none → ∃ last, next.accept? (.socket number) =
          some (some (.socket net.host.connections.length .second), last))) := by
  intro net path hstands hresolve
  have hlisted : net.host.Listed := listed_after files hasRoute pace acts
  have hlive : net.host.isLive number = true := hlisted.settled.isLive hstands.listens
  have hknown : net.host.key endpoint.address = net.host.key text →
      ¬ net.host.Unknown endpoint.address := hlisted.known hstands.listens
  have hdirect (hone : net.host.files.Direct (Path.parse text) location)
      (hother : net.host.files.Direct path location) : ¬ net.host.Unknown endpoint.address :=
    hknown (hother.key_eq.trans hone.key_eq.symm)
  by_cases hunknown : net.host.Unknown endpoint.address
  · have hlisten := Host.listenLocal_unknown hresolve hstands.socket hlive hunknown
    let next : Net := { net with host := net.host.planted number endpoint }
    have hne : next ≠ net := fun hsame =>
      Host.planted_ne number endpoint net.host (congrArg Net.host hsame)
    refine ⟨Fault.listenFailure endpoint.address (.os .addressInUse), next,
      by simp [Net.listen, hlisten, next], rfl,
      fun hkey => absurd hunknown (hknown hkey),
      fun hone hother => absurd hunknown (hdirect hone hother),
      ⟨fun hsame => absurd hsame hne, fun hknown => absurd hunknown hknown⟩,
      fun _ => ⟨rfl, fun hwaits => ?_⟩⟩
    have hidle : net.host.accept? number = none := by simpa [Net.accept?] using hwaits
    obtain ⟨last, hlast⟩ := Host.accept?_planted hlive hidle endpoint
    exact ⟨{ net with host := last }, by simp [Net.accept?, hlast, next]⟩
  · obtain ⟨fault, hlisten⟩ := Host.listenLocal_known hresolve hstands.socket hunknown
    have hcode : fault.code = .listenFailure := (Host.bound_listenLocal hlisten).1
    refine ⟨fault, net, by simp [Net.listen, hlisten], hcode, fun _ => rfl, fun _ _ => rfl,
      ⟨fun _ => hunknown, fun _ => rfl⟩, fun hother => absurd rfl hother⟩

-- Somebody else's directory is enough of a way around, and a dot is not.
theorem listening_again_fails_around :
    let net := (after {} [.makeFile "d" .directory, .listen "a" (.local .zero) ⟨.local, "s"⟩]).net
    let around : Endpoint := ⟨.local, "d/../s"⟩
    let here : Endpoint := ⟨.local, ".//s"⟩
    net.host.StandsAt 0 "s" ["s"] ∧
      (∃ fault next, net.listen (.local .zero) around = (.error fault, next) ∧
        next.host = net.host.planted 0 around) ∧
      ∃ fault, net.listen (.local .zero) here = (.error fault, net) := by
  intro net around here
  have hstands : net.host.StandsAt 0 "s" ["s"] := ⟨by decide +kernel, by decide +kernel⟩
  have haround : net.host.files.resolve (Path.parse around.address) =
      .ok (.entry ["s"] (Path.parse around.address).trailing) := by
    decide +kernel
  have hhere : net.host.files.resolve (Path.parse here.address) =
      .ok (.entry ["s"] (Path.parse here.address).trailing) := by
    decide +kernel
  have hunknown : net.host.Unknown around.address :=
    ⟨by decide +kernel, by decide +kernel, by decide +kernel⟩
  obtain ⟨fault, next, hlisten, -, -, -, hsame, hplanted⟩ :=
    listening_again_fails {} true 40 _ .zero hstands haround
  obtain ⟨other, unchanged, hlisten', -, hkey, -⟩ :=
    listening_again_fails {} true 40 _ .zero hstands hhere
  obtain rfl := hkey (by decide +kernel)
  exact ⟨hstands, ⟨fault, next, hlisten, (hplanted fun h => hsame.mp h hunknown).1⟩,
    other, hlisten'⟩

-- The connection that was left behind is handed to whoever waits for one.
theorem refused_listen_is_accepted :
    let net := (after {} [.makeFile "d" .directory, .listen "a" (.local .zero) ⟨.local, "s"⟩]).net
    let outcome := net.listen (.local .zero) ⟨.local, "d/../s"⟩
    net.host.StandsAt 0 "s" ["s"] ∧
      net.host.files.resolve (Path.parse "d/../s") = .ok (.entry ["s"] false) ∧
      (∃ fault, outcome.1 = .error fault ∧ fault.code = .listenFailure) ∧
      net.accept? (.socket 0) = none ∧
      (outcome.2.accept? (.socket 0)).map Prod.fst = some (some (.socket 0 .second)) := by
  refine ⟨⟨?_, ?_⟩, ?_, ⟨_, rfl, ?_⟩, ?_, ?_⟩
  all_goals decide +kernel

end Session

end FramedLines
