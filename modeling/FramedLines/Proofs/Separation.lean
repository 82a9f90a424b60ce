import FramedLines.Proofs.Owners
import FramedLines.Proofs.Sessions
import Mathlib.Logic.Function.Basic

-- Owners of hubs do not get in each other's way. What one of them gets to see is the same whether
-- the others do anything or not, even where they use the same addresses.

namespace FramedLines

-- A net, and what every owner holds in it.
structure Realm (ω : Type) where
  net : Net
  holding : ω → Option Holding

namespace Realm

variable {ω : Type}

-- Nobody holds anything in it yet, whoever else may.
def of (net : Net) : Realm ω := ⟨net, fun _ => none⟩

variable [DecidableEq ω]

def perform (owner : ω) (deed : Deed) (realm : Realm ω) : Report × Realm ω :=
  let (report, holding, net) := deed.perform realm.net (realm.holding owner)
  (report, ⟨net, Function.update realm.holding owner holding⟩)

-- One deed after another, and what their owners get to see.
def performAll (realm : Realm ω) : List (ω × Deed) → List (ω × Report)
  | [] => []
  | (owner, deed) :: deeds =>
      let (report, next) := realm.perform owner deed
      (owner, report) :: next.performAll deeds

-- What an owner has.
def estate (owner : ω) (realm : Realm ω) : Option Estate :=
  (realm.holding owner).bind fun holding =>
    (realm.net.hubs[holding.hub]?).map fun hub => ⟨hub, holding.maker⟩

-- Every owner has a hub of its own.
structure Parted (realm : Realm ω) : Prop where
  bounded : ∀ owner holding, realm.holding owner = some holding →
    holding.hub < realm.net.hubs.length
  single : ∀ one other holding holding', realm.holding one = some holding →
    realm.holding other = some holding' → holding.hub = holding'.hub → one = other

end Realm

namespace Net

-- Nothing has happened to any hub but one.
structure Spares (number : Nat) (before after : Net) : Prop where
  length_eq : after.hubs.length = before.hubs.length
  others : ∀ other ≠ number, after.hubs[other]? = before.hubs[other]?

namespace Spares

variable {number : Nat} {before after : Net}

theorem of_hubs (hhubs : after.hubs = before.hubs) : Spares number before after :=
  ⟨by rw [hhubs], fun other _ => by rw [hhubs]⟩

theorem modify (f : Hub → Hub) :
    Spares number before { before with hubs := before.hubs.modify number f } := by
  refine ⟨List.length_modify .., fun other hother => ?_⟩
  rw [List.getElem?_modify]
  simp [Ne.symm hother]

theorem setHub (hub : Hub) : Spares number before (before.setHub number hub) := by
  refine ⟨List.length_set .., fun other hother => ?_⟩
  exact List.getElem?_set_ne (Ne.symm hother)

theorem listen {transport : Transport} (htransport : ∀ hub, transport = .inproc hub → hub = number)
    (endpoint : Endpoint) : Spares number before (before.listen transport endpoint).2 := by
  cases transport with
  | inproc hub =>
      obtain rfl := htransport hub rfl
      simp only [Net.listen]
      split
      · exact setHub _
      · exact of_hubs rfl
  | tcp interval =>
      simp only [Net.listen]
      split <;> exact of_hubs rfl
  | «local» interval =>
      simp only [Net.listen]
      split <;> exact of_hubs rfl

theorem dial {transport : Transport} (htransport : ∀ hub, transport = .inproc hub → hub = number)
    {endpoint : Endpoint} {id : LineId} (hdial : before.dial transport endpoint = .ok (id, after)) :
    Spares number before after := by
  cases dialed_of_dial hdial with
  | @hub hub _ _ _ =>
      obtain rfl := htransport hub rfl
      exact setHub _
  | tcp | «local» => exact of_hubs rfl

end Spares

end Net

namespace Deed

variable {net : Net} {holding : Holding}

theorem spares_enroll {outcome : Except Fault AcceptorId × Net} {number : Nat}
    (h : Net.Spares number net outcome.2) : Net.Spares number net (enroll outcome).2 := by
  obtain ⟨result, after⟩ := outcome
  cases result <;> exact h

theorem spares_attach {outcome : Except Failure (LineId × Net)} {number : Nat}
    (h : ∀ id after, outcome = .ok (id, after) → Net.Spares number net after) :
    Net.Spares number net (attach net outcome).2 := by
  rcases outcome with failure | ⟨id, after⟩
  · exact .of_hubs rfl
  · exact h id after rfl

theorem hub_of_manager? {manager : Manager} (hmanager : holding.manager? = some manager) :
    manager.hub = holding.hub := by
  unfold Holding.manager? at hmanager
  split at hmanager <;> cases hmanager
  rfl

theorem hub_of_transport {manager : Manager} {scheme : Scheme} {hub : Nat}
    (htransport : manager.transport scheme = .inproc hub) : hub = manager.hub := by
  cases scheme <;> cases htransport
  rfl

theorem hub_of_transport? {transport : Transport} (htransport : holding.transport? = some transport)
    {hub : Nat} (hhub : transport = .inproc hub) : hub = holding.hub := by
  unfold Holding.transport? at htransport
  split at htransport <;> cases htransport
  cases hhub
  rfl

section Makers

variable {manager : Manager}

theorem spares_listen (hmanager : holding.manager? = some manager) (endpoint : Endpoint) :
    Net.Spares holding.hub net (manager.listen endpoint net).2 := by
  apply Net.Spares.listen
  intro hub hhub
  rw [hub_of_transport hhub, hub_of_manager? hmanager]

theorem spares_dial (hmanager : holding.manager? = some manager) {endpoint : Endpoint} {id : LineId}
    {after : Net} (hdial : manager.dial endpoint net = .ok (id, after)) :
    Net.Spares holding.hub net after := by
  refine Net.Spares.dial (fun hub hhub => ?_) hdial
  rw [hub_of_transport hhub, hub_of_manager? hmanager]

end Makers

-- Whatever an owner does, it does to its own hub, or to none.
theorem spares_carryOut (deed : Deed) (net : Net) (holding : Holding) :
    Net.Spares holding.hub net (deed.carryOut net holding).2 := by
  have hidle : Net.Spares holding.hub net net := .of_hubs rfl
  cases deed with
  | serve uri =>
      simp only [carryOut]
      cases hmanager : holding.manager? with
      | none => exact hidle
      | some manager =>
          apply spares_enroll
          unfold Manager.createServer
          cases Endpoint.parse uri with
          | error fault => exact hidle
          | ok endpoint => exact spares_listen hmanager endpoint
  | call uri =>
      simp only [carryOut]
      cases hmanager : holding.manager? with
      | none => exact hidle
      | some manager =>
          apply spares_attach
          intro id after hcall
          unfold Manager.createClient at hcall
          cases hparse : Endpoint.parse uri with
          | error fault => simp [hparse] at hcall
          | ok endpoint =>
              rw [hparse] at hcall
              exact spares_dial hmanager hcall
  | listen endpoint =>
      simp only [carryOut]
      cases hmanager : holding.manager? with
      | none => exact hidle
      | some manager => exact spares_enroll (spares_listen hmanager endpoint)
  | dial endpoint =>
      simp only [carryOut]
      cases hmanager : holding.manager? with
      | none => exact hidle
      | some manager => exact spares_attach fun id after => spares_dial hmanager
  | bind endpoint =>
      simp only [carryOut]
      cases htransport : holding.transport? with
      | none => exact hidle
      | some transport =>
          exact spares_enroll (.listen (fun _ => hub_of_transport? htransport) endpoint)
  | connect endpoint =>
      simp only [carryOut]
      cases htransport : holding.transport? with
      | none => exact hidle
      | some transport =>
          exact spares_attach fun id after => .dial fun _ => hub_of_transport? htransport
  | wait listener limit =>
      simp only [carryOut]
      rcases haccept : net.accept? (.hub holding.hub listener) with _ | ⟨line?, after⟩
      · exact hidle
      · obtain ⟨⟨dialed?, hub⟩, -, hafter⟩ := Option.map_eq_some_iff.mp haccept
        cases hafter
        cases dialed? <;> exact .setHub hub
  | close listener => exact .modify _
  | ask connection side request =>
      simp only [carryOut, Net.atLine]
      cases net.connection? (.hub holding.hub connection side) with
      | none => exact hidle
      | some c => exact .modify _
  | _ => exact hidle

-- What is founded is a new hub behind all others, and nobody founds anything else.
theorem found?_cases (deed : Deed) (net : Net) :
    deed.found? net = none ∧ deed.settled? = none ∨
      ∃ hub maker, deed.found? net = some (⟨net.hubs.length, maker⟩,
        { net with hubs := net.hubs ++ [hub] }) ∧ deed.settled? = some ⟨hub, maker⟩ := by
  cases deed with
  | foundManager config => exact .inr ⟨_, _, rfl, rfl⟩
  | foundTransport bufferSize => exact .inr ⟨_, _, rfl, rfl⟩
  | _ => exact .inl ⟨rfl, rfl⟩

end Deed

namespace Realm

variable {ω : Type} [DecidableEq ω] {realm : Realm ω} {owner other : ω} {net : Net}
  {holding : Holding} {hub : Hub} {maker : Maker}

omit [DecidableEq ω] in
theorem estate_eq (hholding : realm.holding owner = some holding)
    (hhub : realm.net.hubs[holding.hub]? = some hub) :
    realm.estate owner = some ⟨hub, holding.maker⟩ := by
  simp [estate, hholding, hhub]

-- Whoever changes what it holds, the others hold what they did.
theorem estate_update_of_ne (hother : other ≠ owner) (holding? : Option Holding)
    (hhubs : ∀ held, realm.holding other = some held →
      net.hubs[held.hub]? = realm.net.hubs[held.hub]?) :
    Realm.estate other ⟨net, Function.update realm.holding owner holding?⟩ =
      realm.estate other := by
  simp only [estate, Function.update_of_ne hother]
  cases hheld : realm.holding other with
  | none => rfl
  | some held => simp only [Option.bind_some, hhubs held hheld]

theorem estate_update (hhub : net.hubs[holding.hub]? = some hub) :
    Realm.estate owner ⟨net, Function.update realm.holding owner (some holding)⟩ =
      some ⟨hub, holding.maker⟩ := by
  simp [estate, hhub]

namespace Parted

-- A hub that nobody else holds is held, or stays so.
theorem update (h : realm.Parted) (hlength : realm.net.hubs.length ≤ net.hubs.length)
    (hbound : holding.hub < net.hubs.length)
    (hfree : ∀ other held, other ≠ owner → realm.holding other = some held →
      held.hub ≠ holding.hub) :
    Realm.Parted ⟨net, Function.update realm.holding owner (some holding)⟩ := by
  have hheld (someone : ω) (held : Holding)
      (hsome : Function.update realm.holding owner (some holding) someone = some held) :
      someone = owner ∧ held = holding ∨
        someone ≠ owner ∧ realm.holding someone = some held := by
    by_cases hsomeone : someone = owner
    · subst hsomeone
      rw [Function.update_self, Option.some.injEq] at hsome
      exact .inl ⟨rfl, hsome.symm⟩
    · rw [Function.update_of_ne hsomeone] at hsome
      exact .inr ⟨hsomeone, hsome⟩
  constructor
  · intro someone held hsome
    rcases hheld someone held hsome with ⟨-, rfl⟩ | ⟨-, hold⟩
    · exact hbound
    · exact Nat.lt_of_lt_of_le (h.bounded someone held hold) hlength
  · intro one other held held' hone hother hsame
    rcases hheld one held hone with ⟨rfl, rfl⟩ | ⟨hne, hold⟩ <;>
      rcases hheld other held' hother with ⟨rfl, rfl⟩ | ⟨hne', hold'⟩
    · rfl
    · exact absurd hsame.symm (hfree other held' hne' hold')
    · exact absurd hsame (hfree one held hne hold)
    · exact h.single one other held held' hold hold' hsame

-- A new owner gets a new hub.
theorem found (h : realm.Parted) :
    Realm.Parted ⟨{ realm.net with hubs := realm.net.hubs ++ [hub] },
      Function.update realm.holding owner (some ⟨realm.net.hubs.length, maker⟩)⟩ := by
  apply h.update
  · simp
  · simp
  · intro other held _ hheld
    exact Nat.ne_of_lt (h.bounded other held hheld)

theorem keep (h : realm.Parted) (hholding : realm.holding owner = some holding)
    (hspares : Net.Spares holding.hub realm.net net) :
    Realm.Parted ⟨net, Function.update realm.holding owner (some { holding with maker })⟩ := by
  apply h.update
  · exact Nat.le_of_eq hspares.length_eq.symm
  · rw [hspares.length_eq]
    exact h.bounded owner holding hholding
  · intro other held hother hheld hsame
    exact hother (h.single other owner held holding hheld hholding hsame)

end Parted

-- What a deed of one owner comes to: nothing for the others, and for itself what it would come
-- to if there were no others.
structure Stepped (owner : ω) (deed : Deed) (before : Realm ω) : Prop where
  parted : (before.perform owner deed).2.Parted
  others : ∀ other ≠ owner, (before.perform owner deed).2.estate other = before.estate other
  own : deed.isInproc = true →
    ((before.perform owner deed).1, (before.perform owner deed).2.estate owner) =
      deed.exert (before.estate owner)

theorem stepped_of_none (h : realm.Parted) (hholding : realm.holding owner = none) (deed : Deed) :
    realm.Stepped owner deed := by
  have hestate : realm.estate owner = none := by rw [estate, hholding, Option.bind_none]
  rcases deed.found?_cases realm.net with ⟨hfound, hsettled⟩ | ⟨hub, maker, hfound, hsettled⟩
  · have hperform : realm.perform owner deed = (.absent, realm) := by
      have hsame : Function.update realm.holding owner none = realm.holding :=
        Function.update_eq_self_iff.mpr hholding.symm
      simp only [perform, Deed.perform, hholding, hfound, hsame]
    refine ⟨?_, ?_, fun _ => ?_⟩
    · rw [hperform]
      exact h
    · intro other _
      rw [hperform]
    · rw [hperform, hestate, Deed.exert, hsettled]
  · have hperform : realm.perform owner deed = (.done,
        ⟨{ realm.net with hubs := realm.net.hubs ++ [hub] },
          Function.update realm.holding owner (some ⟨realm.net.hubs.length, maker⟩)⟩) := by
      simp only [perform, Deed.perform, hholding, hfound]
    refine ⟨?_, ?_, fun _ => ?_⟩
    · rw [hperform]
      exact h.found
    · intro other hother
      rw [hperform]
      apply estate_update_of_ne hother
      intro held hheld
      exact List.getElem?_append_left (h.bounded other held hheld)
    · have hfresh : (realm.net.hubs ++ [hub])[realm.net.hubs.length]? = some hub :=
        List.getElem?_concat_length
      rw [hperform, hestate, Deed.exert, hsettled, estate_update hfresh]

theorem stepped_of_some (h : realm.Parted) (hholding : realm.holding owner = some holding)
    (deed : Deed) : realm.Stepped owner deed := by
  have hbound := h.bounded owner holding hholding
  have hspares := deed.spares_carryOut realm.net holding
  have hperform : realm.perform owner deed = ((deed.carryOut realm.net holding).1,
      ⟨(deed.carryOut realm.net holding).2, Function.update realm.holding owner
        (some { holding with maker := deed.remaining holding.maker })⟩) := by
    simp only [perform, Deed.perform, hholding]
  refine ⟨?_, ?_, fun hinproc => ?_⟩
  · rw [hperform]
    exact h.keep hholding hspares
  · intro other hother
    rw [hperform]
    apply estate_update_of_ne hother
    intro held hheld
    apply hspares.others
    intro hsame
    exact hother (h.single other owner held holding hheld hholding hsame)
  · have hhub : realm.net.hubs[holding.hub]? = some realm.net.hubs[holding.hub] :=
      List.getElem?_eq_getElem hbound
    have hcarry := Deed.carryOut_eq hhub hinproc
    rw [hperform, hcarry, estate_eq hholding hhub, Deed.exert]
    exact congrArg (Prod.mk _) (estate_update (Net.hubs_setHub hhub _))

theorem Parted.stepped (h : realm.Parted) (owner : ω) (deed : Deed) : realm.Stepped owner deed := by
  cases hholding : realm.holding owner with
  | none => exact stepped_of_none h hholding deed
  | some holding => exact stepped_of_some h hholding deed

-- What somebody gets to see of its own deeds who is alone.
def exertAll : Option Estate → List Deed → List Report
  | _, [] => []
  | estate?, deed :: deeds =>
      let (report, next?) := deed.exert estate?
      report :: exertAll next? deeds

-- The deeds of one owner, or what it got to see.
def belonging (owner : ω) (entries : List (ω × α)) : List α :=
  (entries.filter fun entry => entry.1 = owner).map Prod.snd

theorem belonging_cons_self (item : α) (entries : List (ω × α)) :
    belonging owner ((owner, item) :: entries) = item :: belonging owner entries := by
  simp [belonging]

theorem belonging_cons_of_ne (hother : other ≠ owner) (item : α) (entries : List (ω × α)) :
    belonging owner ((other, item) :: entries) = belonging owner entries := by
  simp [belonging, hother]

-- What an owner gets to see in a run comes of its own deeds and of what it has.
theorem belonging_performAll (h : realm.Parted) (deeds : List (ω × Deed))
    (hinproc : ∀ entry ∈ deeds, entry.1 = owner → entry.2.isInproc = true) :
    belonging owner (realm.performAll deeds) =
      exertAll (realm.estate owner) (belonging owner deeds) := by
  induction deeds generalizing realm with
  | nil => rfl
  | cons entry deeds ih =>
      obtain ⟨actor, deed⟩ := entry
      obtain ⟨hparted, hothers, hown⟩ := h.stepped actor deed
      have hrest := ih hparted fun entry hentry => hinproc entry (List.mem_cons_of_mem _ hentry)
      by_cases hactor : actor = owner
      · subst hactor
        have hexert := hown (hinproc _ List.mem_cons_self rfl)
        simp only [performAll, belonging_cons_self, exertAll, ← hexert, hrest]
      · simp only [performAll, belonging_cons_of_ne hactor, hrest, hothers owner (Ne.symm hactor)]

-- What a manager or a transport gets to see does not tell whether there are others.
theorem managers_do_not_interfere (net : Net) {deeds : List (ω × Deed)} (owner : ω)
    (hinproc : ∀ entry ∈ deeds, entry.1 = owner → entry.2.isInproc = true) :
    belonging owner ((Realm.of net).performAll deeds) =
      belonging owner ((Realm.of net).performAll (deeds.filter fun entry => entry.1 = owner)) := by
  have hparted : (Realm.of net : Realm ω).Parted := by
    constructor
    · rintro owner holding ⟨⟩
    · rintro one other holding holding' ⟨⟩
  have hown : ∀ entry ∈ deeds.filter fun entry => entry.1 = owner, entry.1 = owner →
      entry.2.isInproc = true := fun entry hentry =>
    hinproc entry (List.mem_of_mem_filter hentry)
  have hall := belonging_performAll hparted deeds hinproc
  have halone := belonging_performAll hparted _ hown
  rw [hall, halone, belonging, belonging, List.filter_filter]
  simp only [Bool.and_self]

-- A manager and a transport that use one address, the transport until it is let go.
theorem managers_do_not_interfere_same_address :
    let deeds : List (String × Deed) :=
      [("manager", .foundManager {}), ("transport", .foundTransport 1),
        ("manager", .serve "inproc://x"), ("transport", .connect ⟨.inproc, "x"⟩),
        ("transport", .bind ⟨.inproc, "x"⟩), ("transport", .connect ⟨.tcp, "x"⟩),
        ("manager", .call "inproc://x"), ("transport", .retire), ("transport", .close 0),
        ("manager", .wait 0 .zero), ("manager", .ask 0 .first (.write [1] 40)),
        ("manager", .ask 0 .second (.read 1))]
    (∀ entry ∈ deeds, entry.1 = "manager" → entry.2.isInproc = true) ∧
    belonging "manager" ((Realm.of {}).performAll deeds) =
      belonging "manager"
        ((Realm.of {}).performAll (deeds.filter fun entry => entry.1 = "manager")) := by
  intro deeds
  have hinproc : ∀ entry ∈ deeds, entry.1 = "manager" → entry.2.isInproc = true := by
    decide +kernel
  exact ⟨hinproc, managers_do_not_interfere {} "manager" hinproc⟩

end Realm

end FramedLines
