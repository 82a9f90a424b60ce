import FramedLines.Proofs.Hosts

-- Where paths lead while sockets come and go. Ways go through directories and links. Nobody who
-- listens ever makes one of these or takes a directory away, but links do go, and ways are lost.

namespace FramedLines

-- Ways go through it.
def Node.isWay : Node → Bool
  | .directory | .link _ => true
  | _ => false

theorem Path.trailing_append {path : Path} {parts : List String} (hmore : parts ≠ [])
    (trailing : Bool) : (path.append parts trailing).trailing = trailing := by
  simp [append, hmore]

namespace Files

variable {files after : Files} {location other : List String} {path : Path} {place : Place}
  {node : Node}

theorem node?_put (hlocation : location ≠ []) (node : Node) (files : Files) :
    (files.put location node).node? other =
      if other = location then some node else files.node? other := by
  unfold node? put
  by_cases hother : other = location
  · subst hother
    simp [hlocation]
  · simp [hother, List.lookup_cons, lookup_filter_ne, beq_eq_false_iff_ne.mpr hother]

theorem node?_erase (hlocation : location ≠ []) (files : Files) :
    (files.erase location).node? other = if other = location then none else files.node? other := by
  unfold node? erase
  by_cases hother : other = location
  · subst hother
    simp [hlocation, lookup_filter_ne]
  · simp [hother, lookup_filter_ne]

theorem isLink_eq_true_iff : files.isLink location = true ↔
    ∃ target, files.node? location = some (.link target) := by
  unfold isLink
  split
  · next target hlink => simp [hlink]
  · next hother => simpa using hother

section Walk

variable {follows trailing : Bool} {onward others : List String → Path → Except Errno Place}
  {part : String} {parts : List String}

-- How a path is followed, part by part.
inductive Walks (files : Files) (follows trailing : Bool)
    (onward : List String → Path → Except Errno Place) :
    (location parts : List String) → Except Errno Place → Prop where
  | ended (location : List String) :
      Walks files follows trailing onward location [] (.ok (.folder location))
  | here {location parts : List String} {result : Except Errno Place}
      (hrest : Walks files follows trailing onward location parts result) :
      Walks files follows trailing onward location ("." :: parts) result
  | up {location parts : List String} {result : Except Errno Place}
      (hrest : Walks files follows trailing onward location.dropLast parts result) :
      Walks files follows trailing onward location (".." :: parts) result
  | last {location : List String} {part : String} (hnamed : part ≠ "." ∧ part ≠ "..")
      (hend : follows = false ∨ files.isLink (location ++ [part]) = false) :
      Walks files follows trailing onward location [part]
        (.ok (.entry (location ++ [part]) trailing))
  | down {location parts : List String} {part : String} {result : Except Errno Place}
      (hnamed : part ≠ "." ∧ part ≠ "..") (hmore : parts ≠ [])
      (hdirectory : files.node? (location ++ [part]) = some .directory)
      (hrest : Walks files follows trailing onward (location ++ [part]) parts result) :
      Walks files follows trailing onward location (part :: parts) result
  | link {location parts : List String} {part : String} (hnamed : part ≠ "." ∧ part ≠ "..")
      {target : Path} (hlink : files.node? (location ++ [part]) = some (.link target))
      (hmore : parts ≠ [] ∨ follows = true) :
      Walks files follows trailing onward location (part :: parts)
        (onward location (target.append parts trailing))
  | blocked {location parts : List String} {part : String} {errno : Errno}
      (herrno : errno = .notDirectory ∨ errno = .noEntry) :
      Walks files follows trailing onward location (part :: parts) (.error errno)

theorem walks_of_walk {result : Except Errno Place}
    (hwalk : files.walk follows trailing onward location parts = result) :
    Walks files follows trailing onward location parts result := by
  subst hwalk
  induction parts generalizing location with
  | nil => exact .ended location
  | cons part parts ih =>
      unfold walk
      split
      · next hhere => exact hhere ▸ .here ih
      · next hhere =>
          split
          · next hup => exact hup ▸ .up ih
          · next hup =>
              simp only
              split
              · next hlast =>
                  rw [Bool.and_eq_true, List.isEmpty_iff, Bool.not_eq_true',
                    Bool.and_eq_false_iff] at hlast
                  obtain ⟨rfl, hend⟩ := hlast
                  exact .last ⟨hhere, hup⟩ hend
              · next hlast =>
                  rw [Bool.and_eq_true, List.isEmpty_iff, Bool.not_eq_true',
                    Bool.and_eq_false_iff] at hlast
                  split
                  · next hdirectory =>
                      refine .down ⟨hhere, hup⟩ (fun hempty => hlast ⟨hempty, .inr ?_⟩)
                        hdirectory ih
                      simp [isLink, hdirectory]
                  · next target hlink =>
                      refine .link ⟨hhere, hup⟩ hlink ?_
                      by_cases hempty : parts = []
                      · exact .inr (by simpa using fun h => hlast ⟨hempty, .inl h⟩)
                      · exact .inl hempty
                  · exact .blocked (.inl rfl)
                  · exact .blocked (.inr rfl)

theorem walk_here : files.walk follows trailing onward location ("." :: parts) =
    files.walk follows trailing onward location parts := by
  rw [walk, if_pos rfl]

theorem walk_up : files.walk follows trailing onward location (".." :: parts) =
    files.walk follows trailing onward location.dropLast parts := by
  rw [walk, if_neg (by decide), if_pos rfl]

theorem walk_last (hnamed : part ≠ "." ∧ part ≠ "..")
    (hend : follows = false ∨ files.isLink (location ++ [part]) = false) :
    files.walk follows trailing onward location [part] =
      .ok (.entry (location ++ [part]) trailing) := by
  rcases hend with hend | hend <;> simp [walk, hnamed, hend]

theorem walk_down (hnamed : part ≠ "." ∧ part ≠ "..") (hmore : parts ≠ [])
    (hdirectory : files.node? (location ++ [part]) = some .directory) :
    files.walk follows trailing onward location (part :: parts) =
      files.walk follows trailing onward (location ++ [part]) parts := by
  rw [walk, if_neg hnamed.1, if_neg hnamed.2]
  simp [hmore, hdirectory]

theorem walk_link (hnamed : part ≠ "." ∧ part ≠ "..") {target : Path}
    (hlink : files.node? (location ++ [part]) = some (.link target))
    (hmore : parts ≠ [] ∨ follows = true) :
    files.walk follows trailing onward location (part :: parts) =
      onward location (target.append parts trailing) := by
  have hislink : files.isLink (location ++ [part]) = true :=
    isLink_eq_true_iff.mpr ⟨target, hlink⟩
  rcases hmore with hmore | hmore <;> simp [walk, hnamed, hmore, hlink, hislink]

end Walk

-- Every way through the one is a way through the other.
structure Leads (files after : Files) : Prop where
  home : after.home = files.home
  stays : ∀ location node, node.isWay = true → files.node? location = some node →
    after.node? location = some node

namespace Leads

theorem refl (files : Files) : files.Leads files := ⟨rfl, fun _ _ _ hstands => hstands⟩

theorem trans {middle : Files} (h : files.Leads middle) (hmore : middle.Leads after) :
    files.Leads after :=
  ⟨hmore.home.trans h.home,
    fun location node hway hstands => hmore.stays _ _ hway (h.stays location node hway hstands)⟩

variable {trailing : Bool} {onward others : List String → Path → Except Errno Place}
  {start parts : List String}

theorem walk (h : files.Leads after)
    (honward : ∀ location path place, onward location path = .ok place →
      others location path = .ok place)
    (hwalk : files.walk false trailing onward start parts = .ok place) :
    after.walk false trailing others start parts = .ok place := by
  replace hwalk := walks_of_walk hwalk
  generalize hresult : Except.ok place = result at hwalk
  induction hwalk with
  | ended location => rfl
  | here hrest ih => exact walk_here.trans (ih hresult)
  | up hrest ih => exact walk_up.trans (ih hresult)
  | last hnamed hend => exact walk_last hnamed (.inl rfl)
  | down hnamed hmore hdirectory hrest ih =>
      exact (walk_down hnamed hmore (h.stays _ _ rfl hdirectory)).trans (ih hresult)
  | link hnamed hlink hmore =>
      rw [walk_link hnamed (h.stays _ _ rfl hlink) hmore]
      exact (honward _ _ _ hresult.symm).trans hresult
  | blocked herrno => cases hresult

theorem lead (h : files.Leads after) {links : Nat}
    (hlead : files.lead false links start path = .ok place) :
    after.lead false links start path = .ok place := by
  induction links generalizing start path place with
  | zero => exact h.walk (fun _ _ _ hloop => by cases hloop) hlead
  | succ links ih => exact h.walk (fun _ _ _ => ih) hlead

theorem locate (h : files.Leads after) (hlocate : files.locate path = .ok place) :
    after.locate path = .ok place := by
  rw [Files.locate, h.home]
  exact h.lead hlocate

end Leads

section Ends

variable {follows trailing : Bool} {onward others : List String → Path → Except Errno Place}
  {start parts : List String}

-- A name in a directory is never the root.
theorem ne_nil_of_walk {place : List String} {mark : Bool}
    (honward : ∀ location path, onward location path = .ok (.entry place mark) → place ≠ [])
    (hwalk : files.walk follows trailing onward start parts = .ok (.entry place mark)) :
    place ≠ [] := by
  replace hwalk := walks_of_walk hwalk
  generalize hresult : Except.ok (Place.entry place mark) = result at hwalk
  induction hwalk with
  | ended location => cases hresult
  | last hnamed hend =>
      cases hresult
      exact List.append_ne_nil_of_right_ne_nil _ (List.cons_ne_nil _ _)
  | here hrest ih | up hrest ih | down hnamed hmore hdirectory hrest ih => exact ih hresult
  | link hnamed hlink hmore => exact honward _ _ hresult.symm
  | blocked herrno => cases hresult

theorem ne_nil_of_lead {links : Nat} {place : List String} {mark : Bool}
    (hlead : files.lead follows links start path = .ok (.entry place mark)) : place ≠ [] := by
  induction links generalizing start path with
  | zero => exact ne_nil_of_walk (fun _ _ hloop => by cases hloop) hlead
  | succ links ih => exact ne_nil_of_walk (fun _ _ => ih) hlead

theorem ne_nil_of_locate (hlocate : files.locate path = .ok (.entry location trailing)) :
    location ≠ [] := ne_nil_of_lead hlocate

theorem isEmpty_of_locate {text : String} (hlocate : files.locate (Path.parse text) =
    .ok (.entry location trailing)) : text.isEmpty = false := by
  cases hempty : text.isEmpty with
  | false => rfl
  | true =>
      obtain rfl : text = "" := String.isEmpty_iff.mp hempty
      cases hlocate

-- Nobody is told that an address is in use for want of a way.
theorem kind_of_walk {errno : Errno}
    (honward : ∀ location path, onward location path = .error errno → errno.kind ≠ .addrInUse)
    (hwalk : files.walk follows trailing onward start parts = .error errno) :
    errno.kind ≠ .addrInUse := by
  replace hwalk := walks_of_walk hwalk
  generalize hresult : Except.error errno = result at hwalk
  induction hwalk with
  | ended location => cases hresult
  | last hnamed hend => cases hresult
  | here hrest ih | up hrest ih | down hnamed hmore hdirectory hrest ih => exact ih hresult
  | link hnamed hlink hmore => exact honward _ _ hresult.symm
  | blocked herrno =>
      cases hresult
      rcases herrno with rfl | rfl <;> decide

theorem kind_of_locate {errno : Errno} (hlocate : files.locate path = .error errno) :
    errno.kind ≠ .addrInUse := by
  have hlead (links : Nat) : ∀ start path, files.lead false links start path = .error errno →
      errno.kind ≠ .addrInUse := by
    induction links with
    | zero =>
        refine fun _ _ => kind_of_walk fun _ _ hloop => ?_
        cases hloop
        decide
    | succ links ih => exact fun _ _ => kind_of_walk ih
  exact hlead _ _ _ hlocate

-- A link stands at the end.
def endsAtLink (files : Files) : Place → Bool
  | .folder _ => false
  | .entry location _ => files.isLink location

-- Where no link stands at the end there is none to be followed.
theorem walk_true_of_false
    (honward : ∀ location path, onward location path = .ok place →
      others location path = .ok place)
    (hend : files.endsAtLink place = false)
    (hwalk : files.walk false trailing onward start parts = .ok place) :
    files.walk true trailing others start parts = .ok place := by
  replace hwalk := walks_of_walk hwalk
  generalize hresult : Except.ok place = result at hwalk
  induction hwalk with
  | ended location => rfl
  | here hrest ih => exact walk_here.trans (ih hresult)
  | up hrest ih => exact walk_up.trans (ih hresult)
  | last hnamed _ =>
      cases hresult
      exact walk_last hnamed (.inr hend)
  | down hnamed hmore hdirectory hrest ih =>
      exact (walk_down hnamed hmore hdirectory).trans (ih hresult)
  | link hnamed hlink hmore =>
      rw [walk_link hnamed hlink (.inr rfl)]
      exact (honward _ _ hresult.symm).trans hresult
  | blocked herrno => cases hresult

theorem resolve_of_locate (hlocate : files.locate path = .ok place)
    (hend : files.endsAtLink place = false) : files.resolve path = .ok place := by
  have hlead (links : Nat) : ∀ start path, files.lead false links start path = .ok place →
      files.lead true links start path = .ok place := by
    induction links with
    | zero =>
        exact fun _ _ => walk_true_of_false (fun _ _ hloop => by cases hloop) hend
    | succ links ih => exact fun _ _ => walk_true_of_false ih hend
  exact hlead _ _ _ hlocate

-- What a path comes to before the link at its end is followed, if there is one.
def Precedes (files : Files) (trailing : Bool) (before after : Place) : Prop :=
  before = after ∨ ∃ location, before = .entry location trailing ∧ files.isLink location = true

theorem walk_false_of_true
    (honward : ∀ location path, others location path = .ok place →
      ∃ before, onward location path = .ok before ∧ files.Precedes path.trailing before place)
    (hwalk : files.walk true trailing others start parts = .ok place) :
    ∃ before, files.walk false trailing onward start parts = .ok before ∧
      files.Precedes trailing before place := by
  replace hwalk := walks_of_walk hwalk
  generalize hresult : Except.ok place = result at hwalk
  induction hwalk with
  | ended location => exact ⟨place, hresult.symm, .inl rfl⟩
  | here hrest ih =>
      rw [walk_here]
      exact ih hresult
  | up hrest ih =>
      rw [walk_up]
      exact ih hresult
  | last hnamed _ => exact ⟨place, (walk_last hnamed (.inl rfl)).trans hresult.symm, .inl rfl⟩
  | down hnamed hmore hdirectory hrest ih =>
      rw [walk_down hnamed hmore hdirectory]
      exact ih hresult
  | @link location parts part hnamed target hlink _ =>
      by_cases hmore : parts = []
      · subst hmore
        have hislink : files.isLink (location ++ [part]) = true :=
          isLink_eq_true_iff.mpr ⟨target, hlink⟩
        exact ⟨_, walk_last hnamed (.inl rfl), .inr ⟨_, rfl, hislink⟩⟩
      · rw [walk_link hnamed hlink (.inl hmore)]
        obtain ⟨before, hbefore, hprecedes⟩ := honward _ _ hresult.symm
        rw [Path.trailing_append hmore] at hprecedes
        exact ⟨before, hbefore, hprecedes⟩
  | blocked herrno => cases hresult

theorem locate_of_resolve (hresolve : files.resolve path = .ok place) :
    ∃ before, files.locate path = .ok before ∧ files.Precedes path.trailing before place := by
  have hlead (links : Nat) : ∀ start path, files.lead true links start path = .ok place →
      ∃ before, files.lead false links start path = .ok before ∧
        files.Precedes path.trailing before place := by
    induction links with
    | zero =>
        exact fun _ _ => walk_false_of_true fun _ _ hloop => by cases hloop
    | succ links ih => exact fun _ _ => walk_false_of_true ih
  exact hlead _ _ _ hresolve

end Ends

theorem bind_cases {number : Nat} (hbind : files.bind path number = .ok after) :
    ∃ location, files.locate path = .ok (.entry location false) ∧ files.node? location = none ∧
      after = files.put location (.socket number) := by
  unfold bind at hbind
  split at hbind
  · cases hbind
  · cases hbind
  · next location trailing hlocate =>
      split at hbind
      · cases hbind
      · next hfree =>
          cases trailing with
          | true => cases hbind
          | false =>
              refine ⟨location, hlocate, by simpa using hfree, ?_⟩
              exact (Except.ok.inj hbind).symm

theorem unlink_cases (hunlink : files.unlink path = .ok after) :
    ∃ location node, files.locate path = .ok (.entry location false) ∧
      files.node? location = some node ∧ node ≠ .directory ∧ after = files.erase location := by
  unfold unlink at hunlink
  split at hunlink
  · cases hunlink
  · cases hunlink
  · next location trailing hlocate =>
      split at hunlink
      · cases hunlink
      · cases hunlink
      · next node hdirectory hnode =>
          cases trailing with
          | true => cases hunlink
          | false =>
              refine ⟨location, node, hlocate, hnode, hdirectory, ?_⟩
              exact (Except.ok.inj hunlink).symm

theorem find_of_resolve (hresolve : files.resolve path = .ok (.entry location false))
    (hnode : files.node? location = some node) : files.find path = .ok node := by
  simp [find, hresolve, hnode]

theorem find_eq (hlocate : files.locate path = .ok (.entry location false))
    (hnode : files.node? location = some node) (hend : files.isLink location = false) :
    files.find path = .ok node :=
  find_of_resolve (resolve_of_locate hlocate hend) hnode

theorem find_socket {listener : Option Nat}
    (hlocate : files.locate path = .ok (.entry location false))
    (hnode : files.node? location = some (.socket listener)) :
    files.find path = .ok (.socket listener) :=
  find_eq hlocate hnode (by simp [isLink, hnode])

theorem find_eq_error (hlocate : files.locate path = .ok (.entry location false))
    (hnode : files.node? location = none) : files.find path = .error .noEntry := by
  have hend : files.endsAtLink (.entry location false) = false := by
    simp [endsAtLink, isLink, hnode]
  simp [find, resolve_of_locate hlocate hend, hnode]

theorem unlink_eq (hlocate : files.locate path = .ok (.entry location false))
    (hnode : files.node? location = some node) (hdirectory : node ≠ .directory) :
    files.unlink path = .ok (files.erase location) := by
  cases node with
  | directory => exact absurd rfl hdirectory
  | _ => simp [unlink, hlocate, hnode]

theorem bind_eq (hlocate : files.locate path = .ok (.entry location false))
    (hfree : files.node? location = none) (number : Nat) :
    files.bind path number = .ok (files.put location (.socket number)) := by
  simp [bind, hlocate, hfree]

-- A new socket leaves all ways as they were.
theorem leads_put (hlocation : location ≠ []) (hfree : files.node? location = none) (node : Node) :
    files.Leads (files.put location node) := by
  refine ⟨rfl, fun other way _ hother => ?_⟩
  rw [node?_put hlocation, if_neg, hother]
  rintro rfl
  cases hfree.symm.trans hother

theorem put_leads (hlocation : location ≠ []) (hnode : node.isWay = false) :
    (files.put location node).Leads files := by
  refine ⟨rfl, fun other way hway hother => ?_⟩
  rw [node?_put hlocation] at hother
  split at hother
  · cases hother
    cases hnode.symm.trans hway
  · exact hother

-- What goes leaves no way where there was none, and all ways if none went through it.
theorem erase_leads (hlocation : location ≠ []) : (files.erase location).Leads files := by
  refine ⟨rfl, fun other way _ hother => ?_⟩
  rw [node?_erase hlocation] at hother
  split at hother
  · cases hother
  · exact hother

theorem leads_erase (hlocation : location ≠ []) (hnode : files.node? location = some node)
    (hway : node.isWay = false) : files.Leads (files.erase location) := by
  refine ⟨rfl, fun other way hother hstands => ?_⟩
  rw [node?_erase hlocation, if_neg, hstands]
  rintro rfl
  cases hnode.symm.trans hstands
  cases hway.symm.trans hother

namespace Bound

variable {text : String} {number : Nat}

theorem leads (h : files.Bound text number after) : files.Leads after := by
  rcases h with ⟨-, rfl⟩ | ⟨-, hbind⟩
  · exact .refl _
  · obtain ⟨location, hlocate, hfree, rfl⟩ := bind_cases hbind
    exact leads_put (ne_nil_of_locate hlocate) hfree _

theorem back (h : files.Bound text number after) : after.Leads files := by
  rcases h with ⟨-, rfl⟩ | ⟨-, hbind⟩
  · exact .refl _
  · obtain ⟨location, hlocate, -, rfl⟩ := bind_cases hbind
    exact put_leads (ne_nil_of_locate hlocate) rfl

-- A socket takes the place of nothing.
theorem kept (h : files.Bound text number after) (hnode : files.node? other = some node) :
    after.node? other = some node := by
  rcases h with ⟨-, rfl⟩ | ⟨-, hbind⟩
  · exact hnode
  · obtain ⟨location, hlocate, hfree, rfl⟩ := bind_cases hbind
    rw [node?_put (ne_nil_of_locate hlocate), if_neg, hnode]
    rintro rfl
    cases hfree.symm.trans hnode

theorem standing (h : files.Bound text number after) (htext : text.isEmpty = false) :
    ∃ location, after.locate (Path.parse text) = .ok (.entry location false) ∧
      after.node? location = some (.socket (some number)) := by
  have hleads := h.leads
  rcases h with ⟨hempty, -⟩ | ⟨-, hbind⟩
  · rw [htext] at hempty
    cases hempty
  · obtain ⟨location, hlocate, hfree, rfl⟩ := bind_cases hbind
    refine ⟨location, hleads.locate hlocate, ?_⟩
    rw [node?_put (ne_nil_of_locate hlocate), if_pos rfl]

end Bound

-- What is left of files where nobody has made a way or taken a directory away.
structure Worn (files after : Files) : Prop where
  ways : after.Leads files
  directories : ∀ location, files.node? location = some .directory →
    after.node? location = some .directory

namespace Worn

theorem refl (files : Files) : files.Worn files := ⟨.refl files, fun _ hstands => hstands⟩

theorem erase (h : files.Worn after) (hlocation : location ≠ [])
    (hnode : after.node? location = some node) (hdirectory : node ≠ .directory) :
    files.Worn (after.erase location) := by
  refine ⟨(erase_leads hlocation).trans h.ways, fun other hother => ?_⟩
  have hstands := h.directories other hother
  rw [node?_erase hlocation, if_neg, hstands]
  rintro rfl
  cases hnode.symm.trans hstands
  exact hdirectory rfl

theorem bound {last : Files} {text : String} {number : Nat} (h : files.Worn after)
    (hbound : after.Bound text number last) : files.Worn last :=
  ⟨hbound.back.trans h.ways, fun location hstands => hbound.kept (h.directories location hstands)⟩

-- While the links still stand, nothing is lost.
theorem leads (h : files.Worn after) (hlinks : ∀ location target,
    files.node? location = some (.link target) → after.node? location = some (.link target)) :
    files.Leads after := by
  refine ⟨h.ways.home.symm, fun location node hway hstands => ?_⟩
  cases node with
  | directory => exact h.directories location hstands
  | link target => exact hlinks location target hstands
  | regular | socket | special => cases hway

-- A path leads where it did, or it has lost its way.
theorem locate_or (h : files.Worn after) (hlocate : files.locate path = .ok place) :
    after.locate path = .ok place ∨ ∃ errno, after.locate path = .error errno := by
  cases hafter : after.locate path with
  | error errno => exact .inr ⟨errno, rfl⟩
  | ok other =>
      cases (h.ways.locate hafter).symm.trans hlocate
      exact .inl rfl

end Worn

end Files

end FramedLines
