import FramedLines.Proofs.Files

-- The paths that a process listens on. It knows them by their keys, and it knows those of its open
-- listeners and no others.

namespace FramedLines

namespace Host

variable {origin : Files} {before after host : Host} {number other : Nat} {text : String}
  {key : List String}

-- An open listener at a path as it was spelled.
def ListensAt (host : Host) (number : Nat) (text : String) : Prop :=
  ∃ listener, host.listeners[number]? = some listener ∧ listener.closed = false ∧
    listener.station = .path text

instance (host : Host) (number : Nat) (text : String) : Decidable (host.ListensAt number text) :=
  inferInstanceAs (Decidable (∃ listener ∈ host.listeners[number]?, listener.closed = false ∧
    listener.station = .path text))

-- What a process knows of its paths, and what stands where they led in the files that it started
-- with. Nobody has made a way since or taken a directory away.
structure Posted (origin : Files) (host : Host) : Prop where
  settled : ∀ (number : Nat) (listener : SocketListener),
    host.listeners[number]? = some listener → listener.isOpen = !listener.closed
  mirrored : ∀ key, key ∈ host.bound ↔
    ∃ number text, host.ListensAt number text ∧ host.key text = key
  single : ∀ one other text text', host.ListensAt one text → host.ListensAt other text' →
    host.key text = host.key text' → one = other
  fit : ∀ number text, host.ListensAt number text → Path.checked text = .ok (Path.parse text)
  standing : ∀ number text, host.ListensAt number text → text.isEmpty = false →
    ∃ location, host.files.node? location = some (.socket (some number)) ∧
      origin.locate (Path.parse text) = .ok (.entry location false)
  worn : origin.Worn host.files

theorem ListensAt.text_unique {text' : String} (h : host.ListensAt number text)
    (h' : host.ListensAt number text') : text = text' := by
  obtain ⟨listener, hlistener, -, hstation⟩ := h
  obtain ⟨_, hlistener', -, hstation'⟩ := h'
  cases hlistener.symm.trans hlistener'
  exact Station.path.inj (hstation.symm.trans hstation')

-- Listeners that are still the same where it counts.
theorem listensAt_modify {f : SocketListener → SocketListener}
    (hlisteners : after.listeners = before.listeners.modify number f)
    (hf : ∀ listener, (f listener).closed = listener.closed ∧
      (f listener).station = listener.station) (index : Nat) (path : String) :
    after.ListensAt index path ↔ before.ListensAt index path := by
  constructor
  · rintro ⟨listener, hlistener, hopen, hstation⟩
    rw [hlisteners] at hlistener
    rcases getElem?_modify_cases hlistener with ⟨-, old, hold, rfl⟩ | ⟨-, hold⟩
    · exact ⟨old, hold, (hf old).1 ▸ hopen, (hf old).2 ▸ hstation⟩
    · exact ⟨listener, hold, hopen, hstation⟩
  · rintro ⟨old, hold, hopen, hstation⟩
    refine ⟨_, hlisteners ▸ getElem?_modify_of hold number f, ?_⟩
    split
    · exact ⟨(hf old).1.trans hopen, (hf old).2.trans hstation⟩
    · exact ⟨hopen, hstation⟩

-- One more listener, and it may listen at a path.
theorem listensAt_concat {listener : SocketListener}
    (hlisteners : after.listeners = before.listeners ++ [listener])
    (hopen : listener.closed = false) (index : Nat) (path : String) :
    after.ListensAt index path ↔ before.ListensAt index path ∨
      index = before.listeners.length ∧ listener.station = .path path := by
  constructor
  · rintro ⟨other, hother, hother', hpath⟩
    rw [hlisteners] at hother
    rcases getElem?_concat_cases hother with hold | ⟨rfl, rfl⟩
    · exact .inl ⟨other, hold, hother', hpath⟩
    · exact .inr ⟨rfl, hpath⟩
  · rintro (⟨other, hother, hrest⟩ | ⟨rfl, hpath⟩)
    · refine ⟨other, ?_, hrest⟩
      rw [hlisteners, List.getElem?_append_left (List.getElem?_eq_some_iff.mp hother).1]
      exact hother
    · exact ⟨listener, by rw [hlisteners, List.getElem?_concat_length], hopen, hpath⟩

-- A listener that has closed listens at no path any more, and the others still do.
theorem listensAt_close {listener : SocketListener}
    (hlistener : host.listeners[number]? = some listener) (hopen : listener.closed = false)
    (index : Nat) (path : String) :
    (host.close number).ListensAt index path ↔ host.ListensAt index path ∧ index ≠ number := by
  have hlisteners := listeners_close hlistener hopen
  constructor
  · rintro ⟨other, hother, hother', hstation⟩
    rw [hlisteners] at hother
    rcases getElem?_modify_cases hother with ⟨-, old, -, rfl⟩ | ⟨hne, hold⟩
    · cases hother'
    · exact ⟨⟨other, hold, hother', hstation⟩, hne.symm⟩
  · rintro ⟨⟨other, hother, hrest⟩, hne⟩
    refine ⟨other, ?_, hrest⟩
    rw [hlisteners, getElem?_modify_of hother, if_neg hne.symm]

-- Between its steps a listener is closed or has its handle.
def Settled (host : Host) : Prop :=
  ∀ (number : Nat) (listener : SocketListener),
    host.listeners[number]? = some listener → listener.isOpen = !listener.closed

section Settled

theorem Settled.modify (h : before.Settled) {f : SocketListener → SocketListener}
    (hlisteners : after.listeners = before.listeners.modify number f)
    (hf : ∀ listener, (f listener).closed = listener.closed ∧
      (f listener).isOpen = listener.isOpen) : after.Settled := by
  intro index listener hlistener
  rw [hlisteners] at hlistener
  rcases getElem?_modify_cases hlistener with ⟨-, old, hold, rfl⟩ | ⟨-, hold⟩
  · rw [(hf old).1, (hf old).2]
    exact h index old hold
  · exact h index listener hold

theorem Settled.concat (h : before.Settled) {listener : SocketListener}
    (hlisteners : after.listeners = before.listeners ++ [listener])
    (hlistener : listener.isOpen = !listener.closed) : after.Settled := by
  intro index other hother
  rw [hlisteners] at hother
  rcases getElem?_concat_cases hother with hold | ⟨-, rfl⟩
  · exact h index other hold
  · exact hlistener

theorem Settled.close (h : host.Settled) {listener : SocketListener}
    (hlistener : host.listeners[number]? = some listener) (hopen : listener.closed = false) :
    (host.close number).Settled := by
  intro index other hother
  rw [listeners_close hlistener hopen] at hother
  rcases getElem?_modify_cases hother with ⟨-, old, -, rfl⟩ | ⟨-, hold⟩
  · rfl
  · exact h index other hold

theorem Settled.isLive (h : host.Settled) (hnumber : host.ListensAt number text) :
    host.isLive number = true := by
  obtain ⟨listener, hlistener, hopen, -⟩ := hnumber
  simp [Host.isLive, hlistener, h number listener hlistener, hopen]

end Settled

section Homes

-- Where relative paths start stays the same, and so do the keys.
theorem Cleared.home_eq {endpoint : Endpoint} {files : Files} (h : before.Cleared endpoint files) :
    files.home = before.files.home := by
  rcases h with rfl | ⟨-, -, -, hunlink⟩
  · rfl
  · obtain ⟨location, node, -, -, -, rfl⟩ := Files.unlink_cases hunlink
    rfl

theorem home_unlink (text : String) (host : Host) :
    (host.unlink text).files.home = host.files.home := by
  unfold unlink
  cases hunlink : host.files.unlink (Path.parse text) with
  | error errno => rfl
  | ok files =>
      obtain ⟨location, node, -, -, -, rfl⟩ := Files.unlink_cases hunlink
      rfl

theorem key_unlink (text other : String) (host : Host) :
    (host.unlink text).key other = host.key other := by
  rw [key, home_unlink, key]

@[simp] theorem bound_unlink (text : String) (host : Host) :
    (host.unlink text).bound = host.bound := by
  unfold unlink
  split <;> rfl

end Homes

-- What a listener at a path leaves of the files. Its own goes if the path still leads there.
inductive Leaves (host : Host) (number : Nat) (text : String) : Files → Prop where
  | unnamed (hempty : text.isEmpty = true) : Leaves host number text host.files
  | removed (location : List String)
      (hsocket : host.files.node? location = some (.socket (some number)))
      (hlocate : host.files.locate (Path.parse text) = .ok (.entry location false)) :
      Leaves host number text (host.files.erase location)
  | lost (errno : Errno) (hlost : host.files.locate (Path.parse text) = .error errno) :
      Leaves host number text host.files

namespace Leaves

variable {files : Files}

theorem home_eq (h : host.Leaves number text files) : files.home = host.files.home := by
  cases h <;> rfl

theorem worn (h : host.Leaves number text files) (hworn : origin.Worn host.files) :
    origin.Worn files := by
  cases h with
  | unnamed hempty => exact hworn
  | removed location hsocket hlocate =>
      exact hworn.erase (Files.ne_nil_of_locate hlocate) hsocket (by simp)
  | lost errno hlost => exact hworn

-- Whatever else stands there stays.
theorem kept (h : host.Leaves number text files) {location : List String} {node : Node}
    (hnode : host.files.node? location = some node) (hother : node ≠ .socket (some number)) :
    files.node? location = some node := by
  cases h with
  | unnamed hempty => exact hnode
  | removed place hsocket hlocate =>
      rw [Files.node?_erase (Files.ne_nil_of_locate hlocate), if_neg, hnode]
      rintro rfl
      exact hother (Option.some.inj (hnode.symm.trans hsocket))
  | lost errno hlost => exact hnode

end Leaves

namespace Posted

-- Nothing happened to the paths.
theorem keep (h : before.Posted origin) (hfiles : after.files = before.files)
    (hbound : after.bound = before.bound)
    (hsettled : ∀ (number : Nat) (listener : SocketListener),
      after.listeners[number]? = some listener → listener.isOpen = !listener.closed)
    (hlistens : ∀ number text, after.ListensAt number text ↔ before.ListensAt number text) :
    after.Posted origin := by
  obtain ⟨-, hmirrored, hsingle, hfit, hstanding, hworn⟩ := h
  refine ⟨hsettled, ?_, ?_, ?_, ?_, hfiles ▸ hworn⟩
  · simpa only [hbound, hlistens, Host.key, hfiles] using hmirrored
  · simpa only [hlistens, Host.key, hfiles] using hsingle
  · simpa only [hlistens] using hfit
  · simpa only [hlistens, hfiles] using hstanding

theorem modify (h : before.Posted origin) {f : SocketListener → SocketListener}
    (hlisteners : after.listeners = before.listeners.modify number f)
    (hf : ∀ listener, (f listener).closed = listener.closed ∧
      (f listener).isOpen = listener.isOpen ∧ (f listener).station = listener.station)
    (hfiles : after.files = before.files) (hbound : after.bound = before.bound) :
    after.Posted origin := by
  exact h.keep hfiles hbound
    (Settled.modify h.settled hlisteners fun listener => ⟨(hf listener).1, (hf listener).2.1⟩)
    (listensAt_modify hlisteners fun listener => ⟨(hf listener).1, (hf listener).2.2⟩)

-- A new listener that listens at no path.
theorem listenPort (h : before.Posted origin) {listener : SocketListener} {address : InetAddress}
    (hstation : listener.station = .port address) (hopen : listener.closed = false)
    (hsettled : listener.isOpen = !listener.closed)
    (hlisteners : after.listeners = before.listeners ++ [listener])
    (hfiles : after.files = before.files) (hbound : after.bound = before.bound) :
    after.Posted origin := by
  refine h.keep hfiles hbound (Settled.concat h.settled hlisteners hsettled) fun index text => ?_
  simp [listensAt_concat hlisteners hopen, hstation]

-- What answers at a path is not cleared away: where a listener of this process stands, a dial would
-- have come through. But the way there may be lost.
theorem clear (h : before.Posted origin) {endpoint : Endpoint} {files : Files}
    (hcleared : before.Cleared endpoint files) : Posted origin { before with files } := by
  rcases hcleared with rfl | ⟨hchecked, hempty, ⟨error, hconnect⟩, hunlink⟩
  · exact h
  obtain ⟨location, node, hlocate, hnode, hdirectory, rfl⟩ := Files.unlink_cases hunlink
  have hlocation := Files.ne_nil_of_locate hlocate
  obtain ⟨hsettled, hmirrored, hsingle, hfit, hstanding, hworn⟩ := h
  refine ⟨hsettled, hmirrored, hsingle, hfit, fun number text hlistens htext => ?_,
    hworn.erase hlocation hnode hdirectory⟩
  obtain ⟨place, hsocket, horigin⟩ := hstanding number text hlistens htext
  have hne : place ≠ location := by
    rintro rfl
    obtain rfl : Node.socket (some number) = node := Option.some.inj (hsocket.symm.trans hnode)
    have hlive := Settled.isLive hsettled hlistens
    simp [connectPath, hchecked, hempty, Files.find_socket hlocate hnode, hlive] at hconnect
  exact ⟨place, by rw [Files.node?_erase hlocation, if_neg hne, hsocket], horigin⟩

-- A new listener at a path whose key was free.
theorem listenPath (h : before.Posted origin) {listener : SocketListener} {files : Files}
    (hchecked : Path.checked text = .ok (Path.parse text)) (hfree : before.key text ∉ before.bound)
    (hfiles : before.files.Bound text before.listeners.length files)
    (hopen : listener.closed = false) (hstation : listener.station = .path text)
    (hsettled : listener.isOpen = true)
    (hlisteners : after.listeners = before.listeners ++ [listener])
    (hafter : after.files = files) (hbound : after.bound = before.key text :: before.bound) :
    after.Posted origin := by
  subst hafter
  have hkey (text : String) : after.key text = before.key text := by
    rw [key, key, hfiles.leads.home]
  have hlistens (number : Nat) (path : String) : after.ListensAt number path ↔
      before.ListensAt number path ∨ number = before.listeners.length ∧ path = text := by
    rw [listensAt_concat hlisteners hopen, hstation, Station.path.injEq, eq_comm (a := text)]
  have hunused (number : Nat) (path : String) (hlistens : before.ListensAt number path) :
      before.key path ≠ before.key text := fun hsame =>
    hfree ((h.mirrored _).mpr ⟨number, path, hlistens, hsame⟩)
  refine ⟨Settled.concat h.settled hlisteners (by rw [hsettled, hopen]; rfl), fun key => ?_,
    fun one other path path' hone hother hsame => ?_, fun number path hnumber => ?_,
    fun number path hnumber hpath => ?_, h.worn.bound hfiles⟩
  · rw [hbound, List.mem_cons, h.mirrored]
    constructor
    · rintro (rfl | ⟨number, path, hnumber, rfl⟩)
      · exact ⟨_, text, (hlistens _ _).mpr (.inr ⟨rfl, rfl⟩), hkey text⟩
      · exact ⟨number, path, (hlistens _ _).mpr (.inl hnumber), hkey path⟩
    · rintro ⟨number, path, hnumber, rfl⟩
      rcases (hlistens _ _).mp hnumber with hold | ⟨-, rfl⟩
      · exact .inr ⟨number, path, hold, (hkey path).symm⟩
      · exact .inl (hkey path)
  · rw [hkey, hkey] at hsame
    rcases (hlistens _ _).mp hone with hone | ⟨rfl, rfl⟩ <;>
      rcases (hlistens _ _).mp hother with hother | ⟨rfl, rfl⟩
    · exact h.single one other path path' hone hother hsame
    · exact absurd hsame (hunused one path hone)
    · exact absurd hsame.symm (hunused other path' hother)
    · rfl
  · rcases (hlistens _ _).mp hnumber with hold | ⟨-, rfl⟩
    · exact h.fit number path hold
    · exact hchecked
  · rcases (hlistens _ _).mp hnumber with hold | ⟨rfl, rfl⟩
    · obtain ⟨location, hsocket, horigin⟩ := h.standing number path hold hpath
      exact ⟨location, hfiles.kept hsocket, horigin⟩
    · obtain ⟨location, hlocate, hsocket⟩ := hfiles.standing hpath
      exact ⟨location, hsocket, (h.worn.bound hfiles).ways.locate hlocate⟩

-- What is left when a listener at a path has closed.
theorem close_eq (h : host.Posted origin) (hlistens : host.ListensAt number text) :
    ∃ connections descriptors files, host.Leaves number text files ∧
      host.close number = { host with
        connections, descriptors, files
        bound := host.bound.filter (· != host.key text)
        listeners := host.listeners.modify number fun listener =>
          { listener with closed := true, isOpen := false, pending := [] } } := by
  obtain ⟨connections, hdropped⟩ := dropHandle_eq number host
  obtain ⟨listener, hlistener, hopen, hstation⟩ := id hlistens
  have hclose : host.close number = ((host.dropHandle number).forget text).unlink text := by
    simp [close, hlistener, hopen, hstation]
  let descriptors := host.descriptors.map fun entry => entry.filter (· != .listener number)
  have hunlinked : host.close number = unlink text { host with
      connections, descriptors
      bound := host.bound.filter (· != host.key text)
      listeners := host.listeners.modify number fun listener =>
        { listener with closed := true, isOpen := false, pending := [] } } := by
    rw [hclose, hdropped]
    rfl
  rw [hunlinked]
  cases hempty : text.isEmpty with
  | true =>
      obtain rfl : text = "" := String.isEmpty_iff.mp hempty
      exact ⟨connections, _, host.files, .unnamed rfl, rfl⟩
  | false =>
      obtain ⟨location, hsocket, horigin⟩ := h.standing number text hlistens hempty
      rcases h.worn.locate_or horigin with hlocate | ⟨errno, hlost⟩
      · have hunlink := Files.unlink_eq hlocate hsocket (by simp)
        refine ⟨connections, descriptors, _, .removed location hsocket hlocate, ?_⟩
        simp only [unlink, hunlink]
      · have hunlink : host.files.unlink (Path.parse text) = .error errno := by
          simp [Files.unlink, hlost]
        refine ⟨connections, descriptors, _, .lost errno hlost, ?_⟩
        simp only [unlink, hunlink]

theorem closePort (h : host.Posted origin) {listener : SocketListener} {address : InetAddress}
    (hlistener : host.listeners[number]? = some listener) (hopen : listener.closed = false)
    (hstation : listener.station = .port address) : (host.close number).Posted origin := by
  obtain ⟨connections, hdropped⟩ := dropHandle_eq number host
  have hclose : host.close number = host.dropHandle number := by
    simp [Host.close, hlistener, hopen, hstation]
  refine h.keep (by rw [hclose, hdropped]) (by rw [hclose, hdropped])
    (Settled.close h.settled hlistener hopen) fun index path => ?_
  refine (listensAt_close hlistener hopen index path).trans (and_iff_left_of_imp ?_)
  rintro ⟨other, hother, -, hpath⟩ rfl
  cases hlistener.symm.trans hother
  cases hstation.symm.trans hpath

theorem closePath (h : host.Posted origin) (hnumber : host.ListensAt number text) :
    (host.close number).Posted origin := by
  obtain ⟨listener, hlistener, hopen, -⟩ := id hnumber
  obtain ⟨connections, descriptors, files, hleaves, hclose⟩ := h.close_eq hnumber
  have hlistens := listensAt_close hlistener hopen
  have hfiles : (host.close number).files = files := by rw [hclose]
  have hkey (path : String) : (host.close number).key path = host.key path := by
    rw [key, hfiles, hleaves.home_eq, key]
  refine ⟨Settled.close h.settled hlistener hopen, fun key => ?_,
    fun one other path path' hone hother hsame => ?_, fun index path hindex => ?_,
    fun index path hindex hpath => ?_, hfiles ▸ hleaves.worn h.worn⟩
  · have hbound : (host.close number).bound = host.bound.filter (· != host.key text) := by
      rw [hclose]
    rw [hbound, List.mem_filter, bne_iff_ne, h.mirrored]
    constructor
    · rintro ⟨⟨index, path, hindex, rfl⟩, hother⟩
      refine ⟨index, path, (hlistens index path).mpr ⟨hindex, ?_⟩, hkey path⟩
      rintro rfl
      exact hother (congrArg host.key (hindex.text_unique hnumber))
    · rintro ⟨index, path, hindex, rfl⟩
      obtain ⟨hold, hother⟩ := (hlistens index path).mp hindex
      refine ⟨⟨index, path, hold, (hkey path).symm⟩, fun hsame => hother ?_⟩
      exact h.single index number path text hold hnumber ((hkey path).symm.trans hsame)
  · rw [hkey, hkey] at hsame
    exact h.single one other path path' ((hlistens one path).mp hone).1
      ((hlistens other path').mp hother).1 hsame
  · exact h.fit index path ((hlistens index path).mp hindex).1
  · obtain ⟨hold, hother⟩ := (hlistens index path).mp hindex
    obtain ⟨place, hsocket, horigin⟩ := h.standing index path hold hpath
    have hnode : Node.socket (some index) ≠ .socket (some number) := by simpa using hother
    exact ⟨place, hfiles ▸ hleaves.kept hsocket hnode, horigin⟩

theorem close (h : host.Posted origin) {listener : SocketListener}
    (hlistener : host.listeners[number]? = some listener) (hopen : listener.closed = false) :
    (host.close number).Posted origin := by
  cases hstation : listener.station with
  | port address => exact h.closePort hlistener hopen hstation
  | path text => exact h.closePath ⟨listener, hlistener, hopen, hstation⟩

-- The path is not known any more, and where it still led there is nothing.
theorem vacated (h : host.Posted origin) (hnumber : host.ListensAt number text) :
    host.key text ∉ (host.close number).bound ∧
      ∀ location, host.files.locate (Path.parse text) = .ok (.entry location false) →
        host.files.node? location = some (.socket (some number)) ∧
          (host.close number).files.locate (Path.parse text) = .ok (.entry location false) ∧
            (host.close number).files.node? location = none := by
  obtain ⟨connections, descriptors, files, hleaves, hclose⟩ := h.close_eq hnumber
  rw [hclose]
  refine ⟨by simp, fun location hlocate => ?_⟩
  cases hleaves with
  | unnamed hempty =>
      obtain rfl : text = "" := String.isEmpty_iff.mp hempty
      cases hlocate
  | removed place hsocket hplace =>
      cases hlocate.symm.trans hplace
      have hlocation := Files.ne_nil_of_locate hlocate
      exact ⟨hsocket, (Files.leads_erase hlocation hsocket rfl).locate hlocate,
        (Files.node?_erase hlocation host.files).trans (if_pos rfl)⟩
  | lost errno hlost => cases hlocate.symm.trans hlost

-- Where the way is lost the file is not found.
theorem close_lost (h : host.Posted origin) (hnumber : host.ListensAt number text) {errno : Errno}
    (hlost : host.files.locate (Path.parse text) = .error errno) :
    (host.close number).files = host.files := by
  obtain ⟨connections, descriptors, files, hleaves, hclose⟩ := h.close_eq hnumber
  rw [hclose]
  cases hleaves with
  | unnamed hempty => rfl
  | removed place hsocket hplace => cases hlost.symm.trans hplace
  | lost errno hlost => rfl

-- Somebody else can listen there, unless the way is lost.
theorem listenLocal_close (h : host.Posted origin) {endpoint : Endpoint}
    (hnumber : host.ListensAt number endpoint.address) :
    ((host.close number).listenLocal endpoint).1 =
      match host.files.locate (Path.parse endpoint.address) with
      | .ok _ => .ok host.listeners.length
      | .error errno => .error (Fault.listenFailure endpoint.address (.os errno)) := by
  obtain ⟨listener, hlistener, hopen, -⟩ := id hnumber
  obtain ⟨connections, descriptors, files, hleaves, hclose⟩ := h.close_eq hnumber
  obtain ⟨hfree, hvacant⟩ := h.vacated hnumber
  have hkey : (host.close number).key endpoint.address = host.key endpoint.address := by
    simp only [hclose, key, hleaves.home_eq]
  have hlength : (host.close number).listeners.length = host.listeners.length := by
    rw [listeners_close hlistener hopen, List.length_modify]
  have hbound (hbind : ∃ after, (host.close number).bindPath endpoint endpoint.address =
      .ok (host.listeners.length, after)) :
      ((host.close number).listenLocal endpoint).1 = .ok host.listeners.length := by
    obtain ⟨after, hbind⟩ := hbind
    simp [listenLocal, hkey, hfree, bindOrReclaim, hbind]
  cases hleaves with
  | unnamed hempty =>
      have hroot : host.files.locate (Path.parse endpoint.address) =
          .ok (.folder host.files.home) := by
        rw [String.isEmpty_iff.mp hempty]
        rfl
      rw [hroot]
      refine hbound ?_
      simp only [bindPath, h.fit number _ hnumber, addListener, hlength]
      exact ⟨_, if_pos hempty⟩
  | removed location hsocket hlocate =>
      obtain ⟨-, hthere, hnode⟩ := hvacant location hlocate
      rw [hlocate]
      refine hbound ?_
      simp [bindPath, h.fit number _ hnumber, addListener, hlength,
        Files.isEmpty_of_locate hlocate, Files.bind_eq hthere hnode]
  | lost errno hlost =>
      have hempty : endpoint.address.isEmpty = false := by
        cases hempty : endpoint.address.isEmpty with
        | false => rfl
        | true =>
            rw [String.isEmpty_iff.mp hempty] at hlost
            cases hlost
      have hsame : (host.close number).files = host.files := h.close_lost hnumber hlost
      have hbind : (host.close number).bindPath endpoint endpoint.address =
          .error (.os errno) := by
        simp [bindPath, h.fit number _ hnumber, hempty, Files.bind, hsame, hlost]
      have hkind : (IoError.os errno).kind ≠ .addrInUse := Files.kind_of_locate hlost
      simp [listenLocal, hkey, hfree, bindOrReclaim, hbind, hkind, hlost]

end Posted

theorem Effect.posted (h : before.Effect after) (hposted : before.Posted origin) :
    after.Posted origin := by
  cases h with
  | idle => exact hposted
  | listenedPort endpoint address interval nextPort =>
      exact hposted.listenPort rfl rfl rfl rfl rfl rfl
  | listenedPath endpoint interval cleared files hfree hcleared hchecked hfiles =>
      have hkey : Host.key { before with files := cleared } endpoint.address =
          before.key endpoint.address := by
        rw [key, key, hcleared.home_eq]
      refine (hposted.clear hcleared).listenPath hchecked (hkey ▸ hfree) hfiles ?_ ?_ ?_ rfl rfl ?_
      · rfl
      · rfl
      · rfl
      · exact congrArg (· :: before.bound) hkey.symm
  | cleared endpoint files hcleared => exact hposted.clear hcleared
  | answered endpoint listener hlive => exact hposted.modify rfl (fun _ => ⟨rfl, rfl, rfl⟩) rfl rfl
  | dialed endpoint listener family => exact hposted.modify rfl (fun _ => ⟨rfl, rfl, rfl⟩) rfl rfl
  | accepted number listener dialed pending hlistener hpending =>
      exact hposted.modify rfl (fun _ => ⟨rfl, rfl, rfl⟩) rfl rfl
  | called number side request c hconnection =>
      exact hposted.keep rfl rfl hposted.settled fun _ _ => .rfl
  | closedLine number side => exact hposted.keep rfl rfl hposted.settled fun _ _ => .rfl
  | closed number listener hlistener hopen => exact hposted.close hlistener hopen

end Host

end FramedLines
