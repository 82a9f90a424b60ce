import FramedLines.Proofs.Conduct
import FramedLines.Proofs.Hosts
import Mathlib.Data.List.Infix

-- Connections over every scheme: what their holders get to see of them does not tell over which
-- one they were made.

namespace FramedLines

namespace Connection

variable {c one other : Connection} {side viewer : End} {act : Act}
  {capacity? : End → Option Nat}

-- Connections that look alike from both ends, which are both there. Over the other one nothing is
-- ever held back.
structure Level (capacity? : End → Option Nat) (one other : Connection) : Prop where
  alike : ∀ side, Alike side one other
  isOpen : ∀ side, (one.line side).closed = false
  mine : one.link.Live
  yours : other.link.Live
  bounded : ∀ side, one.link.capacity? side = capacity? side
  unbounded : ∀ side, other.link.capacity? side = none

namespace Level

theorem relink (h : Level capacity? one other) {mine yours : Link} (hmine : one.link.Kin mine)
    (hyours : other.link.Kin yours) (hoctets : ∀ side, mine.octets side = yours.octets side)
    (hlimit : ∀ side, mine.readLimit side = yours.readLimit side) :
    Level capacity? { one with link := mine } { other with link := yours } := by
  constructor
  · intro side
    constructor
    · simpa only [line_link] using (h.alike side).options
    · simpa only [line_link] using (h.alike side).closed
    · exact hoctets side
    · exact hlimit side
  · intro side
    rw [line_link]
    exact h.isOpen side
  · exact hmine.live h.mine
  · exact hyours.live h.yours
  · exact fun side => (hmine.capacity? side).trans (h.bounded side)
  · exact fun side => (hyours.capacity? side).trans (h.unbounded side)

theorem withOctets (h : Level capacity? one other) (side : End) (octets : Bytes) :
    Level capacity? (one.withOctets side octets) (other.withOctets side octets) := by
  apply h.relink (Link.kin_setOctets side octets _) (Link.kin_setOctets side octets _)
  · intro viewer
    rcases End.eq_or_eq_other viewer side with rfl | rfl
    · simp only [Link.octets_setOctets]
    · simpa only [Link.octets_setOctets_other] using (h.alike side.other).octets
  · intro viewer
    simpa only [Link.readLimit_setOctets] using (h.alike viewer).readLimit

theorem told (h : Level capacity? one other) (side : End) (spent : Nat) :
    Level capacity? (one.told side spent) (other.told side spent) := by
  apply h.relink (Link.kin_told side _ _) (Link.kin_told side _ _)
  · intro viewer
    simpa only [Link.octets_told] using (h.alike viewer).octets
  · intro viewer
    simpa only [Link.readLimit_told] using (h.alike viewer).readLimit

-- What fits on the one fits on the other.
theorem write (h : Level capacity? one other) (side : End) (data : Bytes) (spent : Nat)
    (hroom : ∀ capacity ∈ capacity? side.other,
      (other.write side data spent).2.link.buffered side.other ≤ capacity) :
    (one.write side data spent).1 = (other.write side data spent).1 ∧
      Level capacity? (one.write side data spent).2 (other.write side data spent).2 := by
  have hrefusal : (one.line side).refusal? data spent = (other.line side).refusal? data spent := by
    rw [Line.refusal?, Line.refusal?, Line.sendLimit, Line.sendLimit, (h.alike side).options,
      (h.alike side).closed]
  cases hturned : (other.line side).refusal? data spent with
  | some fault =>
      rw [write_of_refusal hturned, write_of_refusal (hrefusal.trans hturned)]
      exact ⟨rfl, h⟩
  | none =>
      have hunbounded : other.link.Holds side.other
          (other.link.octets side.other ++ data).length := by
        intro capacity hcapacity
        rw [h.unbounded] at hcapacity
        cases hcapacity
      rw [write_of_live h.yours hturned hunbounded] at hroom ⊢
      have hoctets := (h.alike side.other).octets
      have hholds : one.link.Holds side.other (one.link.octets side.other ++ data).length := by
        intro capacity hcapacity
        rw [h.bounded] at hcapacity
        have hfits := hroom capacity hcapacity
        rwa [Link.buffered_eq, Connection.withOctets, Link.octets_setOctets, ← hoctets] at hfits
      rw [write_of_live h.mine (hrefusal.trans hturned) hholds, hoctets]
      exact ⟨rfl, (h.told side spent).withOctets side.other _⟩

theorem configured (h : Level capacity? one other) (side : End) (option : LineOption)
    (value : Option Duration) :
    Level capacity? (one.configured side option value) (other.configured side option value) := by
  have hmine := Link.kin_configured side option ((one.line side).options.set option value) one.link
  have hyours :=
    Link.kin_configured side option ((other.line side).options.set option value) other.link
  constructor
  · exact fun viewer => (h.alike viewer).configured (h.alike side).options option value
  · intro viewer
    rw [line_configured]
    split
    · exact h.isOpen side
    · exact h.isOpen viewer
  · rw [link_configured]
    exact hmine.live h.mine
  · rw [link_configured]
    exact hyours.live h.yours
  · intro viewer
    rw [link_configured, hmine.capacity?, h.bounded]
  · intro viewer
    rw [link_configured, hyours.capacity?, h.unbounded]

-- What one act preserves.
theorem perform (h : Level capacity? one other) (side : End) (hact : act ≠ .close)
    (hroom : ∀ viewer, ∀ capacity ∈ capacity? viewer,
      (act.perform side other).2.link.buffered viewer ≤ capacity) :
    (act.perform side one).1 = (act.perform side other).1 ∧
      Level capacity? (act.perform side one).2 (act.perform side other).2 := by
  cases hwrites : act.writes with
  | true =>
      rcases Act.perform_of_writes hwrites with ⟨report, hperform⟩ | ⟨data, spent, tell, hperform⟩
      · rw [hperform, hperform]
        exact ⟨rfl, h⟩
      · rw [hperform] at hroom
        obtain ⟨hsame, hlevel⟩ := h.write side data spent (hroom side.other)
        rw [hperform, hperform]
        exact ⟨congrArg tell hsame, hlevel⟩
  | false =>
      have hshift := (h.alike side).shift (h.mine.clear side) (h.yours.clear side) hact hwrites
      refine ⟨hshift.report_eq, ?_⟩
      generalize act.perform side one = mine at hshift
      generalize act.perform side other = yours at hshift
      cases hshift with
      | idle => exact h
      | took _ rest => exact h.withOctets side rest
      | set _ option value => exact h.configured side option value

-- What a run of acts preserves.
theorem run (h : Level capacity? one other) {acts : List (End × Act)}
    (hacts : ∀ entry ∈ acts, entry.2 ≠ .close)
    (hroom : ∀ front, front <+: acts → ∀ viewer, ∀ capacity ∈ capacity? viewer,
      (other.after front).link.buffered viewer ≤ capacity) :
    reports acts one = reports acts other ∧
      Level capacity? (one.after acts) (other.after acts) := by
  induction acts generalizing one other with
  | nil => exact ⟨rfl, h⟩
  | cons entry acts ih =>
      obtain ⟨side, act⟩ := entry
      have hact : act ≠ .close := hacts (side, act) List.mem_cons_self
      have hfirst : [(side, act)] <+: (side, act) :: acts := by simp
      obtain ⟨hsame, hlevel⟩ := h.perform side hact (hroom [(side, act)] hfirst)
      have hothers : ∀ entry ∈ acts, entry.2 ≠ .close := fun entry hentry =>
        hacts entry (List.mem_cons_of_mem _ hentry)
      obtain ⟨hrest, hlast⟩ := ih hlevel hothers fun front hfront =>
        hroom ((side, act) :: front) (List.cons_prefix_cons.mpr ⟨rfl, hfront⟩)
      exact ⟨by simp only [reports, hsame, hrest], hlast⟩

-- One end lets go that has read everything.
theorem close (h : Level capacity? one other) (hread : one.link.octets side = []) :
    Bereft side.other (one.close side) (other.close side) := by
  have hopen := h.isOpen side
  have hopen' := (h.alike side).closed.symm.trans hopen
  have hread' := (h.alike side).octets.symm.trans hread
  rw [close_eq hopen, close_eq hopen']
  constructor
  · constructor
    · simpa only [line_setLine_other, line_link] using (h.alike side.other).options
    · simpa only [line_setLine_other, line_link] using (h.alike side.other).closed
    · simpa only [link_setLine, Link.octets_release_other] using (h.alike side.other).octets
    · simpa only [link_setLine, Link.readLimit_release_other] using (h.alike side.other).readLimit
  · rw [link_setLine]
    exact Link.clear_release h.mine hread
  · rw [link_setLine]
    exact Link.clear_release h.yours hread'

theorem reports_after_close (h : Level capacity? one other) (hread : one.link.octets side = [])
    {rooms : List Nat} (hrooms : ∀ room ∈ rooms, room ≠ 0) :
    reports (rooms.map fun room => (side.other, .read room)) (one.close side) =
      (drain rooms (one.link.octets side.other)).map fun octets => .octets (some (.ok octets)) := by
  have hclosed := close_eq (h.isOpen side)
  have hopen : ((one.close side).line side.other).closed = false := by
    rw [hclosed, line_setLine_other, line_link]
    exact h.isOpen side.other
  have hleft : (one.close side).link.octets side.other = one.link.octets side.other := by
    rw [hclosed, link_setLine, Link.octets_release_other]
  rw [reports_drain (h.close hread).mine hopen hrooms, hleft]

end Level

section Made

-- The connection is as a dial of some manager over the scheme has made it.
def MadeOver (scheme : Scheme) (c : Connection) : Prop :=
  ∃ (manager : Manager) (endpoint : Endpoint) (before after : Net) (id : LineId),
    endpoint.scheme = scheme ∧ manager.dial endpoint before = .ok (id, after) ∧
      after.connection? id = some c

-- A connection as it is made: over pipes or over sockets, between two new lines.
inductive Laid : Scheme → Connection → Prop where
  | inproc {capacity : Nat} {duplex : Duplex} (hpair : Duplex.pair capacity = .ok duplex)
      (first second : Endpoint) :
      Laid .inproc ⟨.pipes duplex, { endpoint := first }, { endpoint := second }⟩
  | tcp (first second : Endpoint) :
      Laid .tcp ⟨.sockets { family := .tcp }, { endpoint := first }, { endpoint := second }⟩
  | local (first second : Endpoint) :
      Laid .local ⟨.sockets { family := .local }, { endpoint := first }, { endpoint := second }⟩

theorem MadeOver.laid {scheme : Scheme} (h : c.MadeOver scheme) : Laid scheme c := by
  obtain ⟨manager, ⟨scheme, address⟩, before, after, id, rfl, hdial, hmade⟩ := h
  have hdialed : Net.Dialed before ⟨scheme, address⟩ (manager.transport scheme) id after :=
    Net.dialed_of_dial hdial
  cases scheme with
  | inproc =>
      cases hdialed with
      | hub hdialed =>
          obtain ⟨duplex, answering, hpair, hc⟩ := Hub.connection_of_dial hdialed
          obtain ⟨kept, hkept, hmade⟩ := Option.bind_eq_some_iff.mp hmade
          simp only [Net.setHub, List.getElem?_set, if_true, Option.ite_none_right_eq_some,
            Option.some.injEq] at hkept
          obtain ⟨-, rfl⟩ := hkept
          cases hmade.symm.trans hc
          exact .inproc hpair _ answering
  | tcp =>
      cases hdialed with
      | tcp hdialed =>
          obtain ⟨answering, hc⟩ := Host.connection_of_hold (fun _ _ => Host.effect_connectPort)
            (ok_of_mapError hdialed)
          cases hmade.symm.trans hc
          exact .tcp _ answering
  | «local» =>
      cases hdialed with
      | «local» hdialed =>
          obtain ⟨answering, hc⟩ := Host.connection_of_hold (fun _ _ => Host.reach_connectPath)
            (ok_of_mapError hdialed)
          cases hmade.symm.trans hc
          exact .local _ answering

-- Nothing has been done with the connection.
structure Fresh (c : Connection) : Prop where
  options : ∀ side, (c.line side).options = {}
  isOpen : ∀ side, (c.line side).closed = false
  octets : ∀ side, c.link.octets side = []
  readLimit : ∀ side, c.link.readLimit side = none
  live : c.link.Live

theorem fresh_sockets (family : SocketFamily) (first second : Endpoint) :
    Fresh ⟨.sockets { family }, { endpoint := first }, { endpoint := second }⟩ where
  options side := by cases side <;> rfl
  isOpen side := by cases side <;> rfl
  octets side := by cases side <;> rfl
  readLimit side := by cases side <;> rfl
  live side := by cases side <;> exact ⟨rfl, rfl, rfl⟩

theorem Laid.fresh {scheme : Scheme} (h : Laid scheme c) : c.Fresh := by
  cases h with
  | @inproc capacity duplex hpair first second =>
      unfold Duplex.pair at hpair
      split at hpair <;> cases hpair
      constructor <;> intro side <;> cases side <;> rfl
  | tcp first second => exact fresh_sockets .tcp first second
  | «local» first second => exact fresh_sockets .local first second

theorem Fresh.level (h : one.Fresh) (hother : other.Fresh)
    (hunbounded : ∀ side, other.link.capacity? side = none) :
    Level (fun side => one.link.capacity? side) one other where
  alike side := ⟨(h.options side).trans (hother.options side).symm,
    (h.isOpen side).trans (hother.isOpen side).symm,
    (h.octets side).trans (hother.octets side).symm,
    (h.readLimit side).trans (hother.readLimit side).symm⟩
  isOpen := h.isOpen
  mine := h.live
  yours := hother.live
  bounded _ := rfl
  unbounded := hunbounded

theorem Laid.capacity?_tcp (h : Laid .tcp c) (side : End) : c.link.capacity? side = none := by
  cases h
  rfl

end Made

-- Neither a holder of a line can tell over which scheme it was made, as long as nothing more is
-- under way than every link holds, nor one who reads on when the other end has closed with nothing
-- left to read. What would be under way if nothing held it back is what is under way over TCP.
theorem same_over_every_scheme {c : Scheme → Connection}
    (hmade : ∀ scheme, (c scheme).MadeOver scheme) {acts : List (End × Act)}
    (hacts : ∀ entry ∈ acts, entry.2 ≠ .close)
    (hroom : ∀ front, front <+: acts → ∀ scheme side,
      (c scheme).link.Holds side (((c .tcp).after front).link.buffered side))
    (one other : Scheme) :
    reports acts (c one) = reports acts (c other) ∧
    ∀ closer, ((c one).after acts).link.buffered closer = 0 →
      (∀ later : List Act, (∀ act ∈ later, act ≠ .close) →
        readings closer.other later (((c one).after acts).close closer) =
          readings closer.other later (((c other).after acts).close closer)) ∧
      ∀ rooms : List Nat, (∀ room ∈ rooms, room ≠ 0) →
        reports (rooms.map fun room => (closer.other, .read room))
            (((c one).after acts).close closer) =
          (drain rooms (((c other).after acts).link.octets closer.other)).map fun octets =>
            .octets (some (.ok octets)) := by
  have hfresh (scheme : Scheme) : (c scheme).Fresh := (hmade scheme).laid.fresh
  have hrun (scheme : Scheme) := ((hfresh scheme).level (hfresh .tcp)
    (hmade .tcp).laid.capacity?_tcp).run hacts fun front hfront => hroom front hfront scheme
  obtain ⟨hone, hlevel⟩ := hrun one
  obtain ⟨hother, hlevel'⟩ := hrun other
  refine ⟨hone.trans hother.symm, fun closer hunread => ?_⟩
  have hoctets (side : End) : ((c one).after acts).link.octets side =
      ((c other).after acts).link.octets side :=
    (hlevel.alike side).octets.trans (hlevel'.alike side).octets.symm
  have hread : ((c one).after acts).link.octets closer = [] := by
    rwa [Link.buffered_eq, List.length_eq_zero_iff] at hunread
  have hread' : ((c other).after acts).link.octets closer = [] := (hoctets closer).symm.trans hread
  constructor
  · intro later hlater
    have hmine := (hlevel.close hread).readings_eq hlater
    have hyours := (hlevel'.close hread').readings_eq hlater
    exact hmine.trans hyours.symm
  · intro rooms hrooms
    rw [← hoctets]
    exact hlevel.reports_after_close hread hrooms

-- One manager with small pipes that listens and dials over each scheme. A read times out, octets
-- and a message cross, and the end that has read everything closes.
theorem same_over_every_scheme_small_pipes :
    let endpoint : Scheme → Endpoint := fun
      | .inproc => ⟨.inproc, "x"⟩
      | .tcp => ⟨.tcp, "127.0.0.1:80"⟩
      | .local => ⟨.local, "/s"⟩
    let duplex : Duplex := ⟨{ incoming := { capacity := 12 } }, { incoming := { capacity := 12 } }⟩
    let c : Scheme → Connection := fun scheme =>
      { link := match scheme with
          | .inproc => .pipes duplex
          | .tcp => .sockets { family := .tcp }
          | .local => .sockets { family := .local }
        first := { endpoint := endpoint scheme }
        second := { endpoint := endpoint scheme } }
    let acts : List (End × Act) :=
      [(.first, .setOptionRaw 1 50), (.first, .read 4), (.first, .writeAll [1, 2, 3] 40),
        (.second, .read 2), (.second, .send {} ⟨[[7]]⟩ 90), (.first, .receive {})]
    (∀ scheme, (c scheme).MadeOver scheme) ∧ (∀ entry ∈ acts, entry.2 ≠ .close) ∧
    (∀ front, front <+: acts → ∀ scheme side,
      (c scheme).link.Holds side (((c .tcp).after front).link.buffered side)) ∧
    reports acts (c .inproc) = reports acts (c .local) ∧
    reports [(.second, .read 4), (.second, .read 4)] (((c .inproc).after acts).close .first) =
      [.octets (some (.ok [3])), .octets (some (.ok []))] := by
  intro endpoint duplex c acts
  have hmade (scheme : Scheme) : (c scheme).MadeOver scheme := by
    let manager : Manager := { config := { inprocBufferSize := 12 }, hub := 0 }
    let before := (manager.listen (endpoint scheme) { hubs := [.ofSize 12] }).2
    let after := ((manager.dial (endpoint scheme) before).toOption.map Prod.snd).getD {}
    cases scheme with
    | inproc =>
        exact ⟨manager, endpoint .inproc, before, after, .hub 0 0 .first, rfl, by decide +kernel,
          by decide +kernel⟩
    | tcp =>
        exact ⟨manager, endpoint .tcp, before, after, .socket 0 .first, rfl, by decide +kernel,
          by decide +kernel⟩
    | «local» =>
        exact ⟨manager, endpoint .local, before, after, .socket 0 .first, rfl, by decide +kernel,
          by decide +kernel⟩
  have hacts : ∀ entry ∈ acts, entry.2 ≠ .close := by decide
  have hsmall : ∀ front ∈ acts.inits,
      ((c .tcp).after front).link.buffered .first ≤ 12 ∧
        ((c .tcp).after front).link.buffered .second ≤ 12 := by
    decide +kernel
  have hroom : ∀ front, front <+: acts → ∀ scheme side,
      (c scheme).link.Holds side (((c .tcp).after front).link.buffered side) := by
    intro front hfront scheme side capacity hcapacity
    obtain ⟨hfirst, hsecond⟩ := hsmall front ((List.mem_inits front acts).mpr hfront)
    cases scheme with
    | inproc =>
        cases side with
        | first =>
            cases hcapacity
            exact hfirst
        | second =>
            cases hcapacity
            exact hsecond
    | tcp | «local» => cases hcapacity
  obtain ⟨hsame, hclose⟩ := same_over_every_scheme hmade hacts hroom .inproc .local
  have hleft : ((c .local).after acts).link.octets .second = [3] := by decide +kernel
  have hreads := (hclose .first (by decide +kernel)).2 [4, 4] (by decide)
  rw [show End.first.other = .second from rfl, hleft] at hreads
  exact ⟨hmade, hacts, hroom, hsame, hreads⟩

end Connection

end FramedLines
