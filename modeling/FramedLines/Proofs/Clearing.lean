import FramedLines.Proofs.Listening

-- What is taken away for whoever listens at a path: anything that stands there, is no directory,
-- and leads to nobody who answers. A link that stands there goes itself.

namespace FramedLines

-- A path names what it leads to, and the link that stands at its end.
def Files.Names (files : Files) (path : Path) (node : Node) : Prop :=
  files.find path = .ok node ∨
    ∃ location trailing, files.locate path = .ok (.entry location trailing) ∧
      files.node? location = some node

namespace Host

-- Somebody listens there.
def answers (host : Host) : Node → Bool
  | .socket (some number) => host.isLive number
  | _ => false

-- What gives way to whoever listens at an address.
structure Yields (host : Host) (address : String) (location : List String) (node : Node) :
    Prop where
  unlisted : host.key address ∉ host.bound
  fit : Path.checked address = .ok (Path.parse address)
  there : host.files.locate (Path.parse address) = .ok (.entry location false)
  standing : host.files.node? location = some node
  kind : node ≠ .directory
  dead : ∀ reached, host.files.find (Path.parse address) = .ok reached →
    host.answers reached = false

section Paths

variable {host : Host} {text : String} {location : List String} {node : Node} {number : Nat}

-- Where something stands it is looked at more closely.
theorem bindOrReclaim_taken {endpoint : Endpoint} {trailing : Bool}
    (hfit : Path.checked endpoint.address = .ok (Path.parse endpoint.address))
    (hlocate : host.files.locate (Path.parse endpoint.address) = .ok (.entry location trailing))
    (hnode : host.files.node? location = some node) :
    host.bindOrReclaim endpoint = host.reclaim endpoint (.os .addressInUse) := by
  have hbind : host.bindPath endpoint endpoint.address = .error (.os .addressInUse) := by
    simp [bindPath, hfit, Files.isEmpty_of_locate hlocate, Files.bind, hlocate, hnode]
  have hbusy : (IoError.os .addressInUse).kind = .addrInUse := rfl
  simp only [bindOrReclaim, hbind, if_pos hbusy]

theorem bindPath_free (host : Host) (endpoint : Endpoint)
    (hfit : Path.checked text = .ok (Path.parse text))
    (hlocate : host.files.locate (Path.parse text) = .ok (.entry location false))
    (hfree : host.files.node? location = none) :
    ∃ after, host.bindPath endpoint text = .ok (host.listeners.length, after) ∧
      after.files = host.files.put location (.socket host.listeners.length) := by
  simp [bindPath, hfit, Files.isEmpty_of_locate hlocate, Files.bind_eq hlocate hfree, addListener]

theorem bindPath_lost (host : Host) (endpoint : Endpoint) {errno : Errno}
    (htext : text.isEmpty = false) (hfit : Path.checked text = .ok (Path.parse text))
    (hlost : host.files.locate (Path.parse text) = .error errno) :
    host.bindPath endpoint text = .error (.os errno) := by
  simp [bindPath, hfit, htext, Files.bind, hlost]

theorem connectPath_live (endpoint : Endpoint) (htext : text.isEmpty = false)
    (hfit : Path.checked text = .ok (Path.parse text))
    (hfind : host.files.find (Path.parse text) = .ok (.socket (some number)))
    (hlive : host.isLive number = true) :
    host.connectPath endpoint text = .ok (host.reach number .local endpoint) := by
  simp [connectPath, hfit, htext, hfind, hlive]

-- A dial fails exactly where it leads to nobody.
theorem connectPath_eq_error_iff (endpoint : Endpoint) (htext : text.isEmpty = false)
    (hfit : Path.checked text = .ok (Path.parse text)) :
    (∃ error, host.connectPath endpoint text = .error error) ↔
      ∀ reached, host.files.find (Path.parse text) = .ok reached →
        host.answers reached = false := by
  constructor
  · rintro ⟨error, hconnect⟩ reached hfind
    cases reached with
    | socket listener =>
        cases listener with
        | none => rfl
        | some number =>
            cases hlive : host.isLive number with
            | false => exact hlive
            | true =>
                cases (connectPath_live endpoint htext hfit hfind hlive).symm.trans hconnect
    | _ => rfl
  · intro hdead
    cases hfind : host.files.find (Path.parse text) with
    | error errno => exact ⟨_, by simp [connectPath, hfit, htext, hfind]; rfl⟩
    | ok reached =>
        have hsilent := hdead reached hfind
        cases reached with
        | socket listener =>
            cases listener with
            | none => exact ⟨_, by simp [connectPath, hfit, htext, hfind]; rfl⟩
            | some number =>
                have hquiet : host.isLive number = false := hsilent
                exact ⟨_, by simp [connectPath, hfit, htext, hfind, hquiet]; rfl⟩
        | _ => exact ⟨_, by simp [connectPath, hfit, htext, hfind]; rfl⟩

end Paths

section Listen

variable {before after : Host} {endpoint : Endpoint} {location : List String} {node : Node}

-- What becomes of it. A socket takes its place, but a path may go through the very link that stands
-- at its end, and is lost with it.
inductive Replaces (before : Host) (endpoint : Endpoint) (location : List String) (node : Node) :
    Except Fault Nat → Files → Prop where
  | socket : Replaces before endpoint location node (.ok before.listeners.length)
      ((before.files.erase location).put location (.socket before.listeners.length))
  | nothing (errno : Errno) (target : Path) (hlink : node = .link target)
      (hlost : (before.files.erase location).locate (Path.parse endpoint.address) = .error errno) :
      Replaces before endpoint location node
        (.error (Fault.listenFailure endpoint.address (.os errno))) (before.files.erase location)

-- It goes, and then the path is bound.
theorem Yields.bindOrReclaim_eq (h : before.Yields endpoint.address location node) :
    before.bindOrReclaim endpoint =
      let cleared : Host := { before with files := before.files.erase location }
      match cleared.bindPath endpoint endpoint.address with
      | .ok (number, host) => (.ok number, host)
      | .error error => (.error error, cleared) := by
  have htext := Files.isEmpty_of_locate h.there
  obtain ⟨error, hconnect⟩ := (connectPath_eq_error_iff endpoint htext h.fit).mpr h.dead
  have hunlink := Files.unlink_eq h.there h.standing h.kind
  rw [bindOrReclaim_taken h.fit h.there h.standing]
  cases hagain : bindPath endpoint endpoint.address
      { before with files := before.files.erase location } <;>
    simp only [reclaim, hconnect, hunlink, hagain]

theorem Yields.replaces (h : before.Yields endpoint.address location node)
    {result : Except Fault Nat} (hlisten : before.listenLocal endpoint = (result, after)) :
    before.Replaces endpoint location node result after.files := by
  have hlocation := Files.ne_nil_of_locate h.there
  have hattempt := h.bindOrReclaim_eq
  simp only [listenLocal, List.contains_iff_mem, h.unlisted, if_false] at hattempt hlisten
  cases hthere : (before.files.erase location).locate (Path.parse endpoint.address) with
  | ok place =>
      obtain rfl : .entry location false = place :=
        Except.ok.inj (h.there.symm.trans ((Files.erase_leads hlocation).locate hthere))
      have hfree : (before.files.erase location).node? location = none :=
        (Files.node?_erase hlocation before.files).trans (if_pos rfl)
      obtain ⟨grown, hagain, hfiles⟩ := bindPath_free
        { before with files := before.files.erase location } endpoint h.fit hthere hfree
      rw [hagain] at hattempt
      rw [hattempt] at hlisten
      cases hlisten
      exact hfiles ▸ .socket
  | error errno =>
      obtain ⟨target, rfl⟩ : ∃ target, node = .link target := by
        cases hway : node.isWay with
        | false =>
            cases hthere.symm.trans ((Files.leads_erase hlocation h.standing hway).locate h.there)
        | true =>
            cases node with
            | link target => exact ⟨target, rfl⟩
            | directory => exact absurd rfl h.kind
            | _ => cases hway
      have hagain := bindPath_lost { before with files := before.files.erase location } endpoint
        (Files.isEmpty_of_locate h.there) h.fit hthere
      rw [hagain] at hattempt
      rw [hattempt] at hlisten
      cases hlisten
      exact .nothing errno target rfl hthere

-- Only that is ever cleared away.
theorem Cleared.yields {files : Files} (h : before.Cleared endpoint files)
    (hfree : before.key endpoint.address ∉ before.bound) :
    files = before.files ∨
      ∃ location node, before.Yields endpoint.address location node ∧
        files = before.files.erase location := by
  rcases h with rfl | ⟨hfit, htext, hconnect, hunlink⟩
  · exact .inl rfl
  · obtain ⟨location, node, hlocate, hnode, hkind, rfl⟩ := Files.unlink_cases hunlink
    have hdead := (connectPath_eq_error_iff endpoint htext hfit).mp hconnect
    exact .inr ⟨location, node, ⟨hfree, hfit, hlocate, hnode, hkind, hdead⟩, rfl⟩

-- With nothing there to give way, listening fails and leaves the files alone, or it comes by a
-- place that was free.
theorem files_listenLocal {result : Except Fault Nat}
    (hstays : ∀ location node, ¬ before.Yields endpoint.address location node)
    (hlisten : before.listenLocal endpoint = (result, after)) :
    match result with
    | .ok number => before.files.Bound endpoint.address number after.files
    | .error _ => after.files = before.files := by
  unfold listenLocal at hlisten
  simp only at hlisten
  split at hlisten
  · cases hlisten
    rfl
  · next hfree =>
      have hattempt := attempt_bindOrReclaim endpoint before
      rw [List.contains_iff_mem] at hfree
      have hclear {files : Files} (hcleared : before.Cleared endpoint files) :
          files = before.files := by
        rcases hcleared.yields hfree with hsame | ⟨location, node, hyields, -⟩
        · exact hsame
        · exact absurd hyields (hstays location node)
      generalize before.bindOrReclaim endpoint = attempt at hattempt hlisten
      cases hattempt with
      | bound cleared files hcleared hchecked hfiles =>
          cases hlisten
          rwa [hclear hcleared] at hfiles
      | failed error files hcleared =>
          cases hlisten
          exact hclear hcleared
      | answered error listener hlive =>
          cases hlisten
          rfl

end Listen

end Host

namespace Net

variable {before after : Net} {endpoint : Endpoint} {result : Except Fault AcceptorId}

theorem listen_local {interval : Duration}
    (hlisten : before.listen (.local interval) endpoint = (result, after)) :
    ∃ made host, before.host.listenLocal endpoint = (made, host) ∧
      result = made.map AcceptorId.socket ∧ after.host.files = host.files := by
  rcases hlocal : before.host.listenLocal endpoint with ⟨fault | number, host⟩
  all_goals
    simp only [listen, hlocal] at hlisten
    cases hlisten
    exact ⟨_, host, rfl, rfl, rfl⟩

-- To listen at a path takes away nothing but a socket that nobody listens at any more, and it fails
-- where there is anything but a socket.
structure SparesFiles (before : Net) (endpoint : Endpoint) (result : Except Fault AcceptorId)
    (after : Net) : Prop where
  removed : ∀ location node, before.host.files.node? location = some node →
    after.host.files.node? location ≠ some node →
    (∃ listener, node = .socket listener) ∧ before.host.answers node = false
  refused : ∀ node, endpoint.address.isEmpty = false →
    before.host.files.Names (Path.parse endpoint.address) node →
    (∀ listener, node ≠ .socket listener) →
    (∃ fault, result = .error fault ∧ fault.code = .listenFailure) ∧
      after.host.files = before.host.files

theorem listen_yields {interval : Duration} {location : List String} {node : Node}
    (hyields : before.host.Yields endpoint.address location node)
    (hlisten : before.listen (.local interval) endpoint = (result, after)) :
    ∃ made, result = made.map AcceptorId.socket ∧
      before.host.Replaces endpoint location node made after.host.files := by
  obtain ⟨made, host, hlocal, rfl, hsame⟩ := listen_local hlisten
  exact ⟨made, rfl, hsame ▸ hyields.replaces hlocal⟩

-- Nothing else is touched.
theorem node?_of_replaces {location : List String} {node : Node} {made : Except Fault Nat}
    (hyields : before.host.Yields endpoint.address location node)
    (hafter : before.host.Replaces endpoint location node made after.host.files) :
    (∀ other ≠ location,
      after.host.files.node? other = before.host.files.node? other) ∧
    (after.host.files.node? location = none ∨
      ∃ listener, after.host.files.node? location = some (.socket listener)) := by
  have hlocation := Files.ne_nil_of_locate hyields.there
  generalize after.host.files = files at hafter
  cases hafter with
  | socket =>
      refine ⟨fun other hother => ?_, .inr ⟨some before.host.listeners.length, ?_⟩⟩
      · rw [Files.node?_put hlocation, if_neg hother, Files.node?_erase hlocation, if_neg hother]
      · rw [Files.node?_put hlocation, if_pos rfl]
  | nothing errno target hlink hlost =>
      refine ⟨fun other hother => ?_, .inl ?_⟩
      · rw [Files.node?_erase hlocation, if_neg hother]
      · rw [Files.node?_erase hlocation, if_pos rfl]

-- Where nothing gives way, everything stays, and nobody listens where something stands.
theorem listen_stays {interval : Duration}
    (hstays : ∀ location node, ¬ before.host.Yields endpoint.address location node)
    (hlisten : before.listen (.local interval) endpoint = (result, after)) :
    (∀ location node, before.host.files.node? location = some node →
      after.host.files.node? location = some node) ∧
    (∀ fault, result = .error fault → fault.code = .listenFailure ∧
      after.host.files = before.host.files) ∧
    ∀ node, endpoint.address.isEmpty = false →
      before.host.files.Names (Path.parse endpoint.address) node →
      ∃ fault, result = .error fault := by
  obtain ⟨made, host, hlocal, rfl, hsame⟩ := listen_local hlisten
  have hfiles := Host.files_listenLocal hstays hlocal
  have hcode := Host.bound_listenLocal hlocal
  rw [hsame]
  cases made with
  | error fault =>
      have hfiles : host.files = before.host.files := hfiles
      refine ⟨fun location node hnode => by rwa [hfiles], ?_, fun _ _ _ => ⟨fault, rfl⟩⟩
      rintro _ ⟨⟩
      exact ⟨hcode.1, hfiles⟩
  | ok number =>
      have hfiles : before.host.files.Bound endpoint.address number host.files := hfiles
      refine ⟨fun location node => hfiles.kept, fun fault hfault => (by cases hfault),
        fun node haddress hnames => ?_⟩
      rcases hfiles with ⟨hempty, -⟩ | ⟨-, hbind⟩
      · cases haddress.symm.trans hempty
      · obtain ⟨location, hlocate, hfree, -⟩ := Files.bind_cases hbind
        rcases hnames with hfind | ⟨other, trailing, hother, hnode⟩
        · cases hfind.symm.trans (Files.find_eq_error hlocate hfree)
        · cases hlocate.symm.trans hother
          cases hfree.symm.trans hnode

-- Whatever is no directory and leads to nobody who answers gives way to whoever listens where it
-- stands, and nothing else ever does. So files are safe only where nothing but a socket stands
-- there.
theorem listening_clears_what_is_dead (interval : Duration)
    (hlisten : before.listen (.local interval) endpoint = (result, after)) :
    (∀ location node, before.host.Yields endpoint.address location node →
      ∃ made, result = made.map AcceptorId.socket ∧
        before.host.Replaces endpoint location node made after.host.files) ∧
    ((∀ location node, ¬ before.host.Yields endpoint.address location node) →
      (∀ location node, before.host.files.node? location = some node →
        after.host.files.node? location = some node) ∧
      (∀ fault, result = .error fault → fault.code = .listenFailure ∧
        after.host.files = before.host.files) ∧
      ∀ node, endpoint.address.isEmpty = false →
        before.host.files.Names (Path.parse endpoint.address) node →
        ∃ fault, result = .error fault) ∧
    (before.SparesFiles endpoint result after ↔
      ∀ location node, before.host.Yields endpoint.address location node →
        ∃ listener, node = .socket listener) := by
  refine ⟨fun location node hyields => listen_yields hyields hlisten,
    fun hstays => listen_stays hstays hlisten, fun hspares location node hyields => ?_,
    fun hsockets => ?_⟩
  · obtain ⟨made, -, hreplaces⟩ := listen_yields hyields hlisten
    obtain ⟨-, hgone⟩ := node?_of_replaces hyields hreplaces
    by_cases hsame : after.host.files.node? location = some node
    · rcases hgone with hnone | ⟨listener, hsocket⟩
      · cases hsame.symm.trans hnone
      · exact ⟨listener, Option.some.inj (hsame.symm.trans hsocket)⟩
    · exact (hspares.removed location node hyields.standing hsame).1
  · by_cases hsome : ∃ location node, before.host.Yields endpoint.address location node
    · obtain ⟨location, node, hyields⟩ := hsome
      obtain ⟨listener, rfl⟩ := hsockets location node hyields
      have hfind := Files.find_socket hyields.there hyields.standing
      obtain ⟨made, -, hreplaces⟩ := listen_yields hyields hlisten
      obtain ⟨hothers, -⟩ := node?_of_replaces hyields hreplaces
      refine ⟨fun other node hnode hgone => ?_, fun node _ hnames hother => ?_⟩
      · by_cases hhere : other = location
        · subst hhere
          cases hyields.standing.symm.trans hnode
          exact ⟨⟨listener, rfl⟩, hyields.dead _ hfind⟩
        · exact absurd ((hothers other hhere).trans hnode) hgone
      · rcases hnames with hreached | ⟨place, trailing, hplace, hnode⟩
        · cases hfind.symm.trans hreached
          exact absurd rfl (hother listener)
        · cases hyields.there.symm.trans hplace
          cases hyields.standing.symm.trans hnode
          exact absurd rfl (hother listener)
    · obtain ⟨hkept, hfailed, htaken⟩ :=
        listen_stays (fun location node hyields => hsome ⟨location, node, hyields⟩) hlisten
      refine ⟨fun location node hnode hgone => absurd (hkept location node hnode) hgone,
        fun node haddress hnames _ => ?_⟩
      obtain ⟨fault, hfault⟩ := htaken node haddress hnames
      obtain ⟨hcode, hsame⟩ := hfailed fault hfault
      exact ⟨⟨fault, hfault, hcode⟩, hsame⟩

-- A socket that was left behind gives way, and the directory beside it does not.
theorem listening_clears_what_is_dead_socket :
    let files : Files := { nodes := [(["s"], .socket none), (["d"], .directory)] }
    let net : Net := { host := { files } }
    let first := net.listen (.local .zero) ⟨.local, "/s"⟩
    let second := net.listen (.local .zero) ⟨.local, "d/."⟩
    (net.host.Yields "/s" ["s"] (.socket none) ∧ first.1 = .ok (.socket 0) ∧
      first.2.host.files.node? ["s"] = some (.socket (some 0)) ∧
      net.SparesFiles ⟨.local, "/s"⟩ first.1 first.2) ∧
    (files.find (Path.parse "d/.") = .ok .directory ∧ (∃ fault, second.1 = .error fault) ∧
      second.2.host.files.node? ["d"] = some .directory) := by
  intro files net first second
  have hreached : files.find (Path.parse "/s") = .ok (.socket none) := by decide
  have hyields : net.host.Yields "/s" ["s"] (.socket none) := by
    refine ⟨by decide, by decide, by decide, by decide, by decide, fun reached hfind => ?_⟩
    cases hreached.symm.trans hfind
    rfl
  have hstays : ∀ location node, ¬ net.host.Yields "d/." location node := by
    intro location node h
    have hfolder : files.locate (Path.parse "d/.") = .ok (.folder ["d"]) := by decide
    cases hfolder.symm.trans h.there
  have hfind : files.find (Path.parse "d/.") = .ok .directory := by decide
  have hfirst : net.listen (.local .zero) ⟨.local, "/s"⟩ = (first.1, first.2) := rfl
  have hsecond : net.listen (.local .zero) ⟨.local, "d/."⟩ = (second.1, second.2) := rfl
  obtain ⟨hclears, -, hspares⟩ := listening_clears_what_is_dead .zero hfirst
  obtain ⟨-, hkeeps, -⟩ := listening_clears_what_is_dead .zero hsecond
  have hsockets : ∀ location node, net.host.Yields "/s" location node →
      ∃ listener, node = .socket listener := by
    intro location node h
    cases h.there.symm.trans hyields.there
    exact ⟨none, Option.some.inj (h.standing.symm.trans hyields.standing)⟩
  obtain ⟨made, hmade, hreplaces⟩ := hclears ["s"] (.socket none) hyields
  have hnumber : first.1 = .ok (.socket 0) := rfl
  obtain ⟨hkept, -, hrefused⟩ := hkeeps hstays
  have hrefused := hrefused .directory (by decide) (.inl hfind)
  have hkept := hkept ["d"] .directory (by decide)
  exact ⟨⟨hyields, hnumber, by decide, hspares.mpr hsockets⟩, hfind, hrefused, hkept⟩

-- And so does a file that is no socket at all.
theorem regular_file_is_cleared :
    let files : Files := { nodes := [(["f"], .regular [0])] }
    let net : Net := { host := { files } }
    let outcome := net.listen (.local .zero) ⟨.local, "/f"⟩
    outcome.1 = .ok (.socket 0) ∧ files.find (Path.parse "/f") = .ok (.regular [0]) ∧
      outcome.2.host.files.find (Path.parse "/f") = .ok (.socket (some 0)) ∧
      ¬ net.SparesFiles ⟨.local, "/f"⟩ outcome.1 outcome.2 := by
  intro files net outcome
  have hafter : outcome.2.host.files.node? ["f"] = some (.socket (some 0)) := rfl
  refine ⟨rfl, rfl, rfl, fun h => ?_⟩
  obtain ⟨⟨listener, hsocket⟩, -⟩ :=
    h.removed ["f"] (.regular [0]) rfl (by rw [hafter]; decide)
  cases hsocket

end Net

end FramedLines
