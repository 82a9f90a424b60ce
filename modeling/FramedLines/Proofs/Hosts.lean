import FramedLines.Proofs.Sessions

-- What the operations of a host come to. Each is opened up here once, and told from then on by what
-- it does to the files, the listeners and the connections.

namespace FramedLines

theorem ok_of_mapError {f : ε → δ} {result : Except ε α} {value : α}
    (h : result.mapError f = .ok value) : result = .ok value := by
  cases result with
  | error error => cases h
  | ok other => exact congrArg Except.ok (Except.ok.inj h)

-- What is fit to be a path is taken as it is spelled.
theorem Path.eq_parse_of_checked {text : String} {path : Path}
    (hchecked : Path.checked text = .ok path) : path = Path.parse text := by
  unfold Path.checked at hchecked
  simp only at hchecked
  split at hchecked
  · cases hchecked
  · split at hchecked
    · cases hchecked
    · exact (Except.ok.inj hchecked).symm

theorem Path.kind_of_checked {text : String} {error : IoError}
    (hchecked : Path.checked text = .error error) : error.kind = .invalidInput := by
  unfold Path.checked at hchecked
  simp only at hchecked
  split at hchecked
  · cases hchecked
    rfl
  · split at hchecked <;> cases hchecked
    rfl

-- The files with a new listener at a path. One without a path has no file.
def Files.Bound (before : Files) (text : String) (number : Nat) (after : Files) : Prop :=
  text.isEmpty = true ∧ after = before ∨
    text.isEmpty = false ∧ before.bind (Path.parse text) number = .ok after

namespace Host

variable {before after : Host} {endpoint : Endpoint} {number : Nat} {text : String}

theorem connectPath_cases (hconnect : before.connectPath endpoint text = .ok (number, after)) :
    ∃ listener, before.isLive listener = true ∧
      (number, after) = before.reach listener .local endpoint := by
  unfold connectPath at hconnect
  split at hconnect
  · cases hconnect
  · split at hconnect
    · cases hconnect
    · split at hconnect
      · cases hconnect
      · next listener _ =>
          split at hconnect
          · next hlive => exact ⟨listener, hlive, (Except.ok.inj hconnect).symm⟩
          · cases hconnect
      · cases hconnect

theorem bindPath_cases (hbind : before.bindPath endpoint text = .ok (number, after)) :
    Path.checked text = .ok (Path.parse text) ∧ number = before.listeners.length ∧
      ∃ files, before.files.Bound text number files ∧
        after = { (before.addListener endpoint (.path text)).2 with files } := by
  unfold bindPath at hbind
  split at hbind
  · cases hbind
  · next path hchecked =>
      obtain rfl := Path.eq_parse_of_checked hchecked
      simp only at hbind
      split at hbind
      · next hempty =>
          cases hbind
          exact ⟨hchecked, rfl, before.files, .inl ⟨hempty, rfl⟩, rfl⟩
      · next hempty =>
          split at hbind
          · cases hbind
          · next files hfiles =>
              cases hbind
              exact ⟨hchecked, rfl, files, .inr ⟨by simpa using hempty, hfiles⟩, rfl⟩

-- A path is only ever taken by others if it can be one.
theorem checked_of_busy {busy : IoError} (hbind : before.bindPath endpoint text = .error busy)
    (hbusy : busy.kind = .addrInUse) :
    Path.checked text = .ok (Path.parse text) ∧ text.isEmpty = false := by
  unfold bindPath at hbind
  split at hbind
  · next error hchecked =>
      cases hbind
      cases (Path.kind_of_checked hchecked).symm.trans hbusy
  · next path hchecked =>
      obtain rfl := Path.eq_parse_of_checked hchecked
      simp only at hbind
      split at hbind
      · cases hbind
      · next hempty => exact ⟨hchecked, by simpa using hempty⟩

-- The files without what stood at a path where nobody answered.
def Cleared (before : Host) (endpoint : Endpoint) (files : Files) : Prop :=
  files = before.files ∨
    Path.checked endpoint.address = .ok (Path.parse endpoint.address) ∧
      endpoint.address.isEmpty = false ∧
      (∃ error, before.connectPath endpoint endpoint.address = .error error) ∧
      before.files.unlink (Path.parse endpoint.address) = .ok files

-- How it ends when somebody tries to listen at a path: it is bound, perhaps after something was
-- cleared away, or it is not, or somebody else answered there.
inductive Attempt (before : Host) (endpoint : Endpoint) : Except IoError Nat × Host → Prop where
  | bound (cleared files : Files) (hcleared : before.Cleared endpoint cleared)
      (hchecked : Path.checked endpoint.address = .ok (Path.parse endpoint.address))
      (hfiles : cleared.Bound endpoint.address before.listeners.length files) :
      Attempt before endpoint (.ok before.listeners.length,
        { (before.addListener endpoint (.path endpoint.address)).2 with files })
  | failed (error : IoError) (files : Files) (hcleared : before.Cleared endpoint files) :
      Attempt before endpoint (.error error, { before with files })
  | answered (error : IoError) (listener : Nat) (hlive : before.isLive listener = true) :
      Attempt before endpoint (.error error,
        (before.reach listener .local endpoint).2.updateConnection before.connections.length
          (Connection.close .first))

theorem attempt_bindOrReclaim (endpoint : Endpoint) (before : Host) :
    before.Attempt endpoint (before.bindOrReclaim endpoint) := by
  unfold bindOrReclaim
  cases hbind : before.bindPath endpoint endpoint.address with
  | ok made =>
      obtain ⟨hchecked, hnumber, files, hfiles, hafter⟩ := bindPath_cases hbind
      rw [hnumber] at hfiles
      simp only [hnumber, hafter]
      exact .bound before.files files (.inl rfl) hchecked hfiles
  | error busy =>
      simp only
      split
      · next hbusy =>
          obtain ⟨hchecked, hempty⟩ := checked_of_busy hbind hbusy
          unfold reclaim
          rcases hconnect : before.connectPath endpoint endpoint.address with
            refusal | ⟨dialed, host⟩
          · cases hunlink : before.files.unlink (Path.parse endpoint.address) with
            | error errno =>
                simp only [hconnect, hunlink]
                exact .failed _ before.files (.inl rfl)
            | ok cleared =>
                have hcleared : before.Cleared endpoint cleared :=
                  .inr ⟨hchecked, hempty, ⟨refusal, hconnect⟩, hunlink⟩
                cases hagain : { before with files := cleared }.bindPath endpoint
                    endpoint.address with
                | error error =>
                    simp only [hconnect, hunlink, hagain]
                    exact .failed error cleared hcleared
                | ok made =>
                    obtain ⟨-, hnumber, files, hfiles, hafter⟩ := bindPath_cases hagain
                    rw [hnumber] at hfiles
                    simp only [hconnect, hunlink, hagain, hnumber, hafter]
                    exact .bound cleared files hcleared hchecked hfiles
          · obtain ⟨listener, hlive, hreach⟩ := connectPath_cases hconnect
            have hdialed : dialed = before.connections.length := congrArg Prod.fst hreach
            have hhost : host = (before.reach listener .local endpoint).2 :=
              congrArg Prod.snd hreach
            simp only [hconnect, hdialed, hhost]
            exact .answered busy listener hlive
      · exact .failed busy before.files (.inl rfl)

-- What a step does to a host.
inductive Effect (before : Host) : Host → Prop where
  | idle : Effect before before
  | listenedPort (endpoint : Endpoint) (address : InetAddress) (interval : Duration)
      (nextPort : Nat) :
      Effect before { before with
        nextPort
        listeners := before.listeners ++ [{ endpoint, station := .port address, interval }]
        descriptors := install (.listener before.listeners.length) before.descriptors }
  | listenedPath (endpoint : Endpoint) (interval : Duration) (cleared files : Files)
      (hfree : before.key endpoint.address ∉ before.bound)
      (hcleared : before.Cleared endpoint cleared)
      (hchecked : Path.checked endpoint.address = .ok (Path.parse endpoint.address))
      (hfiles : cleared.Bound endpoint.address before.listeners.length files) :
      Effect before { before with
        files
        bound := before.key endpoint.address :: before.bound
        listeners := before.listeners ++
          [{ endpoint, station := .path endpoint.address, interval }]
        descriptors := install (.listener before.listeners.length) before.descriptors }
  | cleared (endpoint : Endpoint) (files : Files) (hcleared : before.Cleared endpoint files) :
      Effect before { before with files }
  | answered (endpoint : Endpoint) (listener : Nat) (hlive : before.isLive listener = true) :
      Effect before
        ((before.reach listener .local endpoint).2.updateConnection before.connections.length
          (Connection.close .first))
  | dialed (endpoint : Endpoint) (listener : Nat) (family : SocketFamily) :
      Effect before
        ((before.reach listener family endpoint).2.openHandle
          (.line before.connections.length .first))
  | accepted (number : Nat) (listener : SocketListener) (dialed : Nat) (pending : List Nat)
      (hlistener : before.listeners[number]? = some listener)
      (hpending : listener.pending = dialed :: pending) :
      Effect before
        ((before.updateListener number fun listener => { listener with pending }).openHandle
          (.line dialed .second))
  | called (number : Nat) (side : End) (request : Connection.Call) (c : Connection)
      (hconnection : before.connections[number]? = some c) :
      Effect before (before.updateConnection number fun _ => (request.perform side c).2)
  | closedLine (number : Nat) (side : End) : Effect before (before.closeLine number side)
  | closed (number : Nat) (listener : SocketListener)
      (hlistener : before.listeners[number]? = some listener) (hopen : listener.closed = false) :
      Effect before (before.close number)

theorem effect_listenLocal {result : Except Fault Nat} (interval : Duration)
    (hlisten : before.listenLocal endpoint = (result, after)) :
    match result with
    | .ok number => Effect before (after.setInterval number interval)
    | .error _ => Effect before after := by
  unfold listenLocal at hlisten
  simp only at hlisten
  split at hlisten
  · cases hlisten
    exact .idle
  · next hfree =>
      have hattempt := attempt_bindOrReclaim endpoint before
      rw [List.contains_iff_mem] at hfree
      generalize before.bindOrReclaim endpoint = attempt at hattempt hlisten
      cases hattempt with
      | bound cleared files hcleared hchecked hfiles =>
          cases hlisten
          have h :=
            Effect.listenedPath endpoint interval cleared files hfree hcleared hchecked hfiles
          simpa [setInterval, updateListener, addListener, openHandle, modify_concat, key] using h
      | failed error files hcleared =>
          cases hlisten
          exact .cleared endpoint files hcleared
      | answered error listener hlive =>
          cases hlisten
          exact .answered endpoint listener hlive

theorem effect_listenTcp (interval : Duration)
    (hlisten : before.listenTcp endpoint = .ok (number, after)) :
    Effect before (after.setInterval number interval) := by
  have hbind : before.bindPort endpoint = .ok (number, after) := ok_of_mapError hlisten
  unfold bindPort at hbind
  split at hbind
  · cases hbind
  · split at hbind
    · cases hbind
    · next address _ _ _ =>
        simp only at hbind
        split at hbind <;> simp only at hbind <;> split at hbind <;> cases hbind
        · have h : Effect before _ :=
            .listenedPort ⟨.tcp, InetAddress.text { address with port := before.nextPort }⟩
              { address with port := before.nextPort } interval (before.nextPort + 1)
          simpa [setInterval, updateListener, addListener, openHandle, modify_concat] using h
        · have h : Effect before _ :=
            .listenedPort ⟨.tcp, address.text⟩ address interval before.nextPort
          simpa [setInterval, updateListener, addListener, openHandle, modify_concat] using h

theorem effect_accept? {dialed? : Option Nat}
    (haccept : before.accept? number = some (dialed?, after)) : Effect before after := by
  unfold accept? at haccept
  split at haccept
  · cases haccept
    exact .idle
  · next listener hlistener =>
      split at haccept
      · cases haccept
        exact .idle
      · split at haccept
        · next dialed pending hpending =>
            cases haccept
            exact .accepted number listener dialed pending hlistener hpending
        · cases haccept

theorem effect_connectPort (hconnect : before.connectPort endpoint = .ok (number, after)) :
    ∃ listener, (number, after) = before.reach listener .tcp endpoint := by
  unfold connectPort at hconnect
  split at hconnect
  · cases hconnect
  · split at hconnect
    · cases hconnect
    · split at hconnect
      · next listener _ => exact ⟨listener, (Except.ok.inj hconnect).symm⟩
      · cases hconnect

-- The near end of a dial gets a descriptor of its own.
theorem effect_hold {outcome : Except IoError (Nat × Host)} {family : SocketFamily}
    (hreach : ∀ dialed host, outcome = .ok (dialed, host) →
      ∃ listener, (dialed, host) = before.reach listener family endpoint)
    (hhold : hold outcome = .ok (number, after)) : Effect before after := by
  rcases outcome with error | ⟨dialed, host⟩
  · cases hhold
  · obtain ⟨listener, hreach⟩ := hreach dialed host rfl
    obtain rfl := (Prod.mk.inj (Except.ok.inj hhold)).2
    have hdialed : dialed = before.connections.length := congrArg Prod.fst hreach
    have hhost : host = (before.reach listener family endpoint).2 := congrArg Prod.snd hreach
    rw [hdialed, hhost]
    exact .dialed endpoint listener family

theorem connection_of_hold {outcome : Except IoError (Nat × Host)} {family : SocketFamily}
    (hreach : ∀ dialed host, outcome = .ok (dialed, host) →
      ∃ listener, (dialed, host) = before.reach listener family endpoint)
    (hhold : hold outcome = .ok (number, after)) :
    ∃ answering : Endpoint, after.connections[number]? =
      some ⟨.sockets { family }, { endpoint }, { endpoint := answering }⟩ := by
  rcases outcome with error | ⟨dialed, host⟩
  · cases hhold
  · obtain ⟨listener, hreach⟩ := hreach dialed host rfl
    cases hreach
    cases hhold
    exact ⟨_, List.getElem?_concat_length⟩

theorem effect_dialTcp (hdial : before.dialTcp endpoint = .ok (number, after)) :
    Effect before after :=
  effect_hold (fun _ _ => effect_connectPort) (ok_of_mapError hdial)

theorem reach_connectPath (hconnect : before.connectPath endpoint text = .ok (number, after)) :
    ∃ listener, (number, after) = before.reach listener .local endpoint := by
  obtain ⟨listener, -, hreach⟩ := connectPath_cases hconnect
  exact ⟨listener, hreach⟩

theorem effect_dialLocal (hdial : before.dialLocal endpoint = .ok (number, after)) :
    Effect before after :=
  effect_hold (fun _ _ => reach_connectPath) (ok_of_mapError hdial)

theorem effect_close (number : Nat) (before : Host) : Effect before (before.close number) := by
  cases hlistener : before.listeners[number]? with
  | none =>
      simp only [close, hlistener]
      exact .idle
  | some listener =>
      cases hclosed : listener.closed with
      | true =>
          simp only [close, hlistener, hclosed, if_true]
          exact .idle
      | false => exact .closed number listener hlistener hclosed

-- The handle of a listener goes, and the dials that wait at it are told.
theorem dropHandle_eq (number : Nat) (host : Host) : ∃ connections,
    host.dropHandle number = { host with
      connections
      listeners := host.listeners.modify number fun listener =>
        { listener with closed := true, isOpen := false, pending := [] }
      descriptors := host.descriptors.map fun entry => entry.filter (· != .listener number) } := by
  have htold (waiting : List Nat) (host : Host) : ∃ connections,
      waiting.foldl (fun host dialed =>
        host.updateConnection dialed (Connection.refuse .second)) host =
          { host with connections } := by
    induction waiting generalizing host with
    | nil => exact ⟨host.connections, rfl⟩
    | cons dialed waiting ih => exact ih _
  exact htold _ _

@[simp] theorem listeners_unlink (text : String) (host : Host) :
    (host.unlink text).listeners = host.listeners := by
  unfold unlink
  split <;> rfl

@[simp] theorem connections_unlink (text : String) (host : Host) :
    (host.unlink text).connections = host.connections := by
  unfold unlink
  split <;> rfl

theorem close_of_closed {listener : SocketListener} {host : Host}
    (hlistener : host.listeners[number]? = some listener) (hclosed : listener.closed = true) :
    host.close number = host := by
  simp only [close, hlistener, hclosed, if_true]

theorem listeners_close {listener : SocketListener} {host : Host}
    (hlistener : host.listeners[number]? = some listener) (hopen : listener.closed = false) :
    (host.close number).listeners = host.listeners.modify number fun listener =>
      { listener with closed := true, isOpen := false, pending := [] } := by
  obtain ⟨connections, hdropped⟩ := dropHandle_eq number host
  cases hstation : listener.station <;> simp [close, hlistener, hopen, hstation, forget, hdropped]

section Connections

variable {P : Connection → Prop}

theorem forall_updateConnection {f : Connection → Connection} (hf : ∀ c, P c → P (f c))
    (hall : ∀ c ∈ before.connections, P c) (number : Nat) :
    ∀ c ∈ (before.updateConnection number f).connections, P c := by
  intro c hc
  obtain ⟨index, hindex⟩ := List.getElem?_of_mem hc
  rcases getElem?_modify_cases hindex with ⟨-, old, hold, rfl⟩ | ⟨-, hold⟩
  · exact hf old (hall old (List.mem_of_getElem? hold))
  · exact hall c (List.mem_of_getElem? hold)

theorem forall_close (hrefuse : ∀ c, P c → P (c.refuse .second))
    (hall : ∀ c ∈ before.connections, P c) (number : Nat) :
    ∀ c ∈ (before.close number).connections, P c := by
  have htold (waiting : List Nat) (host : Host) (hall : ∀ c ∈ host.connections, P c) :
      ∀ c ∈ (waiting.foldl (fun host dialed =>
        host.updateConnection dialed (Connection.refuse .second)) host).connections, P c := by
    induction waiting generalizing host with
    | nil => exact hall
    | cons dialed waiting ih => exact ih _ (forall_updateConnection hrefuse hall dialed)
  have hdropped : ∀ c ∈ (before.dropHandle number).connections, P c := htold _ _ hall
  unfold close
  split
  · exact hall
  · split
    · exact hall
    · split
      · rw [connections_unlink]
        exact hdropped
      · exact hdropped

-- What new connections have, and calls and refusals keep, all connections have.
theorem Effect.forall_connections
    (hnew : ∀ (family : SocketFamily) (first second : Endpoint),
      P ⟨.sockets { family }, { endpoint := first }, { endpoint := second }⟩)
    (hcall : ∀ (side : End) (request : Connection.Call) (c : Connection),
      P c → P (request.perform side c).2)
    (hrefuse : ∀ c, P c → P (c.refuse .second)) (h : before.Effect after)
    (hall : ∀ c ∈ before.connections, P c) : ∀ c ∈ after.connections, P c := by
  have hreached (listener : Nat) (family : SocketFamily) (endpoint : Endpoint) :
      ∀ c ∈ (before.reach listener family endpoint).2.connections, P c := by
    simp only [reach, updateListener, List.forall_mem_append, List.forall_mem_singleton]
    exact ⟨hall, hnew family endpoint _⟩
  cases h with
  | idle => exact hall
  | listenedPort endpoint address interval nextPort => exact hall
  | listenedPath endpoint interval cleared files hfree hcleared hchecked hfiles => exact hall
  | cleared endpoint files hcleared => exact hall
  | answered endpoint listener hlive =>
      exact forall_updateConnection (fun c => hcall .first .close c) (hreached listener _ _) _
  | dialed endpoint listener family => exact hreached listener family endpoint
  | accepted number listener dialed pending hlistener hpending => exact hall
  | called number side request c hconnection =>
      have hc := hcall side request c (hall c (List.mem_of_getElem? hconnection))
      exact forall_updateConnection (fun _ _ => hc) hall number
  | closedLine number side => exact forall_updateConnection (fun c => hcall side .close c) hall _
  | closed number listener hlistener hopen => exact forall_close hrefuse hall number

end Connections

end Host

theorem Net.HostStep.effect {before after : Host} (h : HostStep before after) :
    before.Effect after := by
  cases h with
  | listenedTcp endpoint interval number host hlisten =>
      exact Host.effect_listenTcp interval hlisten
  | listenedLocal endpoint interval number host hlisten =>
      exact Host.effect_listenLocal interval hlisten
  | refusedLocal endpoint fault _ hlisten => exact Host.effect_listenLocal .zero hlisten
  | dialedTcp endpoint number _ hdial => exact Host.effect_dialTcp hdial
  | dialedLocal endpoint number _ hdial => exact Host.effect_dialLocal hdial
  | accepted number dialed? _ haccept => exact Host.effect_accept? haccept
  | called number side request c hconnection => exact .called number side request c hconnection
  | closedLine number side => exact .closedLine number side
  | closed number => exact Host.effect_close number before

end FramedLines
