import FramedLines.Proofs.Sockets

-- What carries the octets of a connection, seen from its two ends: pipes with room and sockets
-- answer alike for as long as nobody has let go, and readers do not tell them apart after that.

namespace FramedLines

-- What fits is put in whole.
theorem Pipe.write?_of_fits {pipe : Pipe} {data : Bytes} (hconnected : pipe.connected = true)
    (hdata : data ≠ []) (hfits : (pipe.buffer ++ data).length ≤ pipe.capacity) :
    pipe.write? data = some (.ok data.length, pipe.put data) := by
  have hpos := List.length_pos_iff.mpr hdata
  rw [List.length_append] at hfits
  have hspace : data.length ≤ pipe.space := by
    simp only [space]
    omega
  have hsome : pipe.space ≠ 0 := by omega
  simp [write?, hdata, hconnected, hsome, List.take_of_length_le hspace, put]

namespace Link

-- Octets under way to `side`.
def octets (side : End) : Link → Bytes
  | pipes duplex => (duplex.incoming side).buffer
  | sockets pair => (pair.half side).incoming

def setOctets (side : End) (octets : Bytes) : Link → Link
  | pipes duplex =>
      pipes (duplex.setIncoming side { duplex.incoming side with buffer := octets })
  | sockets pair => sockets (pair.setHalf side { pair.half side with incoming := octets })

-- How many octets can be under way to `side`, when there is a limit to it.
def capacity? (side : End) : Link → Option Nat
  | pipes duplex => some (duplex.incoming side).capacity
  | sockets _ => none

-- So many octets can be under way to `side`.
def Holds (side : End) (amount : Nat) (link : Link) : Prop :=
  ∀ capacity ∈ link.capacity? side, amount ≤ capacity

-- A reader at `side` hears of nothing but octets and, when the other end is gone, of their end.
def Clear (side : End) (gone : Bool) : Link → Prop
  | pipes duplex => (duplex.incoming side).connected = !gone
  | sockets pair =>
      (pair.half side.other).released = gone ∧
        (pair.half side).news.filter (· != .brokenPipe) = none

-- The end is there and has heard nothing.
def Whole (side : End) : Link → Prop
  | pipes duplex => (duplex.incoming side).connected = true
  | sockets pair =>
      (pair.half side).released = false ∧ (pair.half side).severed = false ∧
        (pair.half side).news = none

def Live (link : Link) : Prop := ∀ side, link.Whole side

-- Links that differ in nothing but octets under way and limits.
structure Kin (before after : Link) : Prop where
  capacity? : ∀ side, after.capacity? side = before.capacity? side
  clear : ∀ side gone, before.Clear side gone → after.Clear side gone
  whole : ∀ side, before.Whole side → after.Whole side

variable {before middle after link : Link} {side viewer : End} {data : Bytes}
  {limit : Option Duration}

theorem buffered_eq (side : End) (link : Link) :
    link.buffered side = (link.octets side).length := by
  cases link <;> rfl

theorem Live.clear (h : link.Live) (side : End) : link.Clear side false := by
  cases link with
  | pipes duplex => exact h side
  | sockets pair =>
      obtain ⟨-, -, hnews⟩ := h side
      exact ⟨(h side.other).1, by rw [hnews]; rfl⟩

section Kin

theorem Kin.refl (link : Link) : link.Kin link := ⟨fun _ => rfl, fun _ _ => id, fun _ => id⟩

theorem Kin.live (h : before.Kin after) (hlive : before.Live) : after.Live := fun side =>
  h.whole side (hlive side)

theorem kin_setOctets (side : End) (octets : Bytes) (link : Link) :
    link.Kin (link.setOctets side octets) := by
  constructor
  · cases link <;> cases side <;> rintro (_ | _) <;> rfl
  · cases link <;> cases side <;> rintro (_ | _) gone <;> exact id
  · cases link <;> cases side <;> rintro (_ | _) <;> exact id

theorem kin_setReadLimit (side : End) (limit : Option Duration) (link : Link) :
    link.Kin (link.setReadLimit side limit) := by
  constructor
  · cases link <;> cases side <;> rintro (_ | _) <;> rfl
  · cases link <;> cases side <;> rintro (_ | _) gone <;> exact id
  · cases link <;> cases side <;> rintro (_ | _) <;> exact id

theorem kin_setWriteLimit (side : End) (limit : Option Duration) (link : Link) :
    link.Kin (link.setWriteLimit side limit) := by
  constructor
  · cases link <;> cases side <;> rintro (_ | _) <;> rfl
  · cases link <;> cases side <;> rintro (_ | _) gone <;> exact id
  · cases link <;> cases side <;> rintro (_ | _) <;> exact id

end Kin

section Fields

@[simp] theorem octets_setOctets (octets : Bytes) :
    (link.setOctets side octets).octets side = octets := by
  cases link <;> cases side <;> rfl

@[simp] theorem octets_setOctets_other (octets : Bytes) :
    (link.setOctets side octets).octets side.other = link.octets side.other := by
  cases link <;> cases side <;> rfl

@[simp] theorem setOctets_octets : link.setOctets side (link.octets side) = link := by
  cases link <;> cases side <;> rfl

@[simp] theorem setOctets_setOctets (octets others : Bytes) :
    (link.setOctets side octets).setOctets side others = link.setOctets side others := by
  cases link <;> cases side <;> rfl

@[simp] theorem octets_setReadLimit :
    (link.setReadLimit side limit).octets viewer = link.octets viewer := by
  cases link <;> cases side <;> cases viewer <;> rfl

@[simp] theorem octets_setWriteLimit :
    (link.setWriteLimit side limit).octets viewer = link.octets viewer := by
  cases link <;> cases side <;> cases viewer <;> rfl

@[simp] theorem readLimit_setOctets (octets : Bytes) :
    (link.setOctets side octets).readLimit viewer = link.readLimit viewer := by
  cases link <;> cases side <;> cases viewer <;> rfl

@[simp] theorem readLimit_setReadLimit :
    (link.setReadLimit side limit).readLimit side = limit := by
  cases link <;> cases side <;> rfl

@[simp] theorem readLimit_setReadLimit_other :
    (link.setReadLimit side limit).readLimit side.other = link.readLimit side.other := by
  cases link <;> cases side <;> rfl

@[simp] theorem readLimit_setWriteLimit :
    (link.setWriteLimit side limit).readLimit viewer = link.readLimit viewer := by
  cases link <;> cases side <;> cases viewer <;> rfl

end Fields

section Configured

variable {one other : Link} {option : LineOption} {options : LineOptions}

-- A link that has been told of an option for the calls to come at `side`.
def configured (side : End) (option : LineOption) (options : LineOptions) (link : Link) : Link :=
  match option with
  | .receiveTimeout => link.setReadLimit side options.receiveTimeout
  | .sendTimeout => link.setWriteLimit side options.sendTimeout

theorem kin_configured (side : End) (option : LineOption) (options : LineOptions) (link : Link) :
    link.Kin (link.configured side option options) := by
  cases option with
  | receiveTimeout => exact kin_setReadLimit side _ link
  | sendTimeout => exact kin_setWriteLimit side _ link

@[simp] theorem octets_configured :
    (link.configured side option options).octets viewer = link.octets viewer := by
  cases option with
  | receiveTimeout => exact octets_setReadLimit
  | sendTimeout => exact octets_setWriteLimit

theorem readLimit_configured_congr (hsame : one.readLimit viewer = other.readLimit viewer) :
    (one.configured side option options).readLimit viewer =
      (other.configured side option options).readLimit viewer := by
  cases option with
  | receiveTimeout =>
      simp only [configured]
      rcases End.eq_or_eq_other viewer side with rfl | rfl
      · simp only [readLimit_setReadLimit]
      · simpa only [readLimit_setReadLimit_other] using hsame
  | sendTimeout => simpa only [configured, readLimit_setWriteLimit] using hsame

end Configured

-- A read takes what comes first, and only has to wait while the other end may still write.
theorem read?_of_clear {gone : Bool} (h : link.Clear side gone) (room : Nat) :
    link.read? side room =
      if link.octets side = [] then if gone then some (.ok [], link) else none
      else some (.ok ((link.octets side).take room),
        link.setOctets side ((link.octets side).drop room)) := by
  cases link with
  | pipes duplex =>
      have hconnected : (duplex.incoming side).connected = !gone := h
      simp only [read?, Duplex.read?, Pipe.read?, octets, List.isEmpty_iff, hconnected]
      by_cases hempty : (duplex.incoming side).buffer = []
      · cases gone <;> simp [hempty]
      · simp [hempty, setOctets, hconnected]
  | sockets pair =>
      obtain ⟨hgone, hnews⟩ := h
      simp only [read?, SocketPair.read?, octets, hnews, hgone]
      by_cases hempty : (pair.half side).incoming = []
      · cases gone <;> simp [hempty]
      · simp [hempty, setOctets]

-- A write between ends that are there puts everything under way that can be.
theorem write?_of_live (h : link.Live) (hdata : data ≠ [])
    (hholds : link.Holds side.other (link.octets side.other ++ data).length) :
    link.write? side data = some (.ok data.length,
      link.setOctets side.other (link.octets side.other ++ data)) := by
  cases link with
  | pipes duplex =>
      have hwrite := Pipe.write?_of_fits (h side.other) hdata (hholds _ rfl)
      simp only [write?, Duplex.write?, Duplex.outgoing, hwrite]
      rfl
  | sockets pair =>
      obtain ⟨hthere, -, -⟩ := h side.other
      obtain ⟨-, hwhole, -⟩ := h side
      simp [write?, SocketPair.write, hdata, hthere, hwhole, octets, setOctets]

-- What `side` has to read, and whether it does so undisturbed, is as before.
structure Spares (side : End) (before after : Link) : Prop where
  octets : after.octets side = before.octets side
  readLimit : after.readLimit side = before.readLimit side
  clear : ∀ gone, before.Clear side gone → after.Clear side gone

theorem Spares.refl (side : End) (link : Link) : link.Spares side link := ⟨rfl, rfl, fun _ => id⟩

theorem Spares.trans (h : before.Spares side middle) (hmore : middle.Spares side after) :
    before.Spares side after :=
  ⟨hmore.octets.trans h.octets, hmore.readLimit.trans h.readLimit,
    fun gone hclear => hmore.clear gone (h.clear gone hclear)⟩

theorem Kin.spares (h : before.Kin after) (hoctets : after.octets side = before.octets side)
    (hlimit : after.readLimit side = before.readLimit side) : before.Spares side after :=
  ⟨hoctets, hlimit, h.clear side⟩

theorem spares_setHalf {pair : SocketPair} {half : SocketHalf}
    (hoctets : half.incoming = (pair.half side).incoming)
    (hlimit : half.readLimit = (pair.half side).readLimit)
    (hnews : half.news.filter (· != .brokenPipe) = none) :
    (sockets pair).Spares side (sockets (pair.setHalf side half)) := by
  constructor
  · simpa only [octets, SocketPair.half_setHalf] using hoctets
  · simpa only [readLimit, SocketPair.half_setHalf] using hlimit
  · rintro gone ⟨hgone, -⟩
    refine ⟨?_, ?_⟩
    · rwa [SocketPair.half_setHalf_other]
    · rwa [SocketPair.half_setHalf]

-- A write may find out that nobody is there, but that is not for readers to hear.
theorem spares_write? {result : Except IoError Nat}
    (hwrite : before.write? side data = some (result, after)) : before.Spares side after := by
  cases before with
  | pipes duplex =>
      simp only [write?, Duplex.write?, Option.map_map, Option.map_eq_some_iff] at hwrite
      obtain ⟨⟨_, pipe⟩, -, hafter⟩ := hwrite
      cases hafter
      cases side <;> exact ⟨rfl, rfl, fun _ => id⟩
  | sockets pair =>
      simp only [write?] at hwrite
      cases hwrite
      unfold SocketPair.write
      simp only
      split
      · exact .refl side _
      · split
        · exact .refl side _
        · split
          · exact spares_setHalf rfl rfl rfl
          · split
            · exact spares_setHalf rfl rfl rfl
            · cases side <;> exact ⟨rfl, rfl, fun _ => id⟩

@[simp] theorem octets_release_other :
    (link.release side).octets side.other = link.octets side.other := by
  cases link with
  | pipes duplex => cases side <;> rfl
  | sockets pair =>
      simp only [release, octets, SocketPair.release, SocketPair.half_setHalf]
      split <;> rfl

@[simp] theorem readLimit_release_other :
    (link.release side).readLimit side.other = link.readLimit side.other := by
  cases link with
  | pipes duplex => cases side <;> rfl
  | sockets pair =>
      simp only [release, readLimit, SocketPair.release, SocketPair.half_setHalf]
      split <;> rfl

-- When an end lets go that has nothing left to read, the other end can read on to the end.
theorem clear_release (h : link.Live) (hread : link.octets side = []) :
    (link.release side).Clear side.other true := by
  cases link with
  | pipes duplex =>
      simp only [release, Clear, Duplex.incoming_disconnect]
      rfl
  | sockets pair =>
      have hempty : (pair.half side).incoming = [] := hread
      obtain ⟨-, -, hnews⟩ := h side.other
      refine ⟨?_, ?_⟩
      · rw [End.other_other]
        exact SocketPair.released_release pair side
      · simp [SocketPair.release, hempty, hnews]

end Link

end FramedLines
