import FramedLines.Proofs.Supply
import FramedLines.Script

-- What a script supplies: its pieces run together, divided only by the events between them. When
-- the events are over it ends at every read.

namespace FramedLines

-- The event that halts a script in this way.
def Halt.event : Halt → Event
  | ended => .ended
  | failed fault => .failed fault

namespace Script

-- What a script is left with when everything in it has been read.
def spent : Stretch := ⟨[], .ended⟩

-- The stretches that come of events after some octets.
def stretches : Bytes → List Event → Supply
  | octets, [] => [⟨octets, .ended⟩]
  | octets, .data bytes :: events => stretches (octets ++ bytes) events
  | octets, .ended :: events => ⟨octets, .ended⟩ :: stretches [] events
  | octets, .failed fault :: events => ⟨octets, .failed fault⟩ :: stretches [] events

def supply (script : Script) : Supply := stretches script.ready script.events

-- The octets in front only make the first stretch longer.
theorem exists_stretches (events : List Event) :
    ∃ octets halt later, ∀ front, stretches front events = ⟨front ++ octets, halt⟩ :: later := by
  induction events with
  | nil => exact ⟨[], .ended, [], fun front => by simp [stretches]⟩
  | cons event events ih =>
      cases event with
      | data bytes =>
          obtain ⟨octets, halt, later, hall⟩ := ih
          exact ⟨bytes ++ octets, halt, later, fun front => by simp [stretches, hall]⟩
      | ended => exact ⟨[], .ended, stretches [] events, fun front => by simp [stretches]⟩
      | failed fault =>
          exact ⟨[], .failed fault, stretches [] events, fun front => by simp [stretches]⟩

-- Pieces one after another run together.
theorem stretches_pieces (front : Bytes) (pieces : List Bytes) (events : List Event) :
    stretches front (pieces.map .data ++ events) = stretches (front ++ pieces.flatten) events := by
  induction pieces generalizing front with
  | nil => simp
  | cons piece pieces ih => simp [stretches, ih]

@[simp] theorem stretches_halt (front : Bytes) (halt : Halt) (events : List Event) :
    stretches front (halt.event :: events) = ⟨front, halt⟩ :: stretches [] events := by
  cases halt <;> rfl

-- Pieces and perhaps a halt, and nothing else.
theorem exists_supply_replayed (pieces : List Bytes) (halt? : Option Halt) :
    ∃ later, supply { events := pieces.map .data ++ ((halt?.map Halt.event).toList ++ []) } =
      ⟨pieces.flatten, halt?.getD .ended⟩ :: later := by
  rw [supply, stretches_pieces, List.nil_append]
  cases halt? with
  | none => exact ⟨[], rfl⟩
  | some halt => exact ⟨_, stretches_halt pieces.flatten halt []⟩

-- With nothing at hand, a script brings on the next piece or the next halt. One that is over
-- stays over.
theorem advance_cases (events : List Event) :
    (∃ octet piece rest, advance events = (.ok (octet :: piece), rest) ∧
      stretches [] events = stretches (octet :: piece) rest) ∨
    (∃ rest, advance events = (.error none, rest) ∧
      (stretches [] events = spent :: stretches [] rest ∨
        stretches [] events = [spent] ∧ rest = [])) ∨
    ∃ fault rest, advance events = (.error (some fault), rest) ∧
      stretches [] events = ⟨[], .failed fault⟩ :: stretches [] rest := by
  induction events with
  | nil => exact .inr (.inl ⟨[], rfl, .inr ⟨rfl, rfl⟩⟩)
  | cons event events ih =>
      cases event with
      | data bytes =>
          cases bytes with
          | nil => simpa [advance, stretches] using ih
          | cons octet piece => exact .inl ⟨octet, piece, events, rfl, by simp [stretches]⟩
      | ended => exact .inr (.inl ⟨events, rfl, .inl rfl⟩)
      | failed fault => exact .inr (.inr ⟨fault, events, rfl, rfl⟩)

-- A script stands for what it supplies, with any number of ends behind it. Where nothing is
-- promised any more, nothing is known of it either.
def Holds (script : Script) (supply : Supply) : Prop :=
  script.chunk ≠ some 0 ∧
    (supply ≠ [] → ∃ ends, supply = script.supply ++ List.replicate ends spent)

theorem holds_supply {script : Script} (hchunk : script.chunk ≠ some 0) :
    script.Holds script.supply :=
  ⟨hchunk, fun _ => ⟨0, (List.append_nil _).symm⟩⟩

-- Of a script that is over nothing is left but its end.
theorem Holds.of_spent {rest : Bytes} {halt : Halt} {later : Supply}
    (h : Holds {} (⟨rest, halt⟩ :: later)) : rest = [] ∧ halt = .ended := by
  obtain ⟨-, hsupply⟩ := h
  obtain ⟨ends, hsupply⟩ := hsupply (List.cons_ne_nil _ _)
  obtain ⟨hstretch, -⟩ := List.cons.inj hsupply
  exact ⟨congrArg Stretch.octets hstretch, congrArg Stretch.halt hstretch⟩

theorem deliver_serves {room : Nat} {ready : Bytes} (script : Script) {supply : Supply}
    {ends : Nat} (hchunk : script.chunk ≠ some 0) (hroom : 0 < room) (hready : ready ≠ [])
    (hsupply : supply = stretches ready script.events ++ List.replicate ends spent) :
    ∃ answer next rest, deliver room ready script = (answer, next) ∧
      supply.Serves room answer rest ∧ Holds next rest := by
  obtain ⟨octets, halt, later, hall⟩ := exists_stretches script.events
  obtain ⟨count, hdeliver, hcount, hcountRoom⟩ : ∃ count, deliver room ready script =
      (.ok (ready.take count), { script with ready := ready.drop count }) ∧
      0 < count ∧ count ≤ room := by
    cases hc : script.chunk with
    | none => exact ⟨room, by simp [deliver, hc], hroom, Nat.le_refl _⟩
    | some chunk =>
        have hpos : chunk ≠ 0 := fun hzero => hchunk (by rw [hc, hzero])
        exact ⟨min room chunk, by simp [deliver, hc], by omega, Nat.min_le_left _ _⟩
  rw [hall, List.cons_append] at hsupply
  subst hsupply
  refine ⟨_, _, ⟨ready.drop count ++ octets, halt⟩ :: (later ++ List.replicate ends spent),
    hdeliver, ?_, hchunk, fun _ => ⟨ends, ?_⟩⟩
  · have hpiece : ready.take count ≠ [] := by
      simp only [ne_eq, List.take_eq_nil_iff, hready, or_false]
      omega
    have hlength : (ready.take count).length ≤ room := by
      rw [List.length_take]
      omega
    have hserves : Supply.Serves room
        (⟨ready.take count ++ (ready.drop count ++ octets), halt⟩ ::
          (later ++ List.replicate ends spent)) _ _ :=
      .piece hpiece hlength
    rwa [← List.append_assoc, List.take_append_drop] at hserves
  · change _ = stretches (ready.drop count) script.events ++ _
    rw [hall, List.cons_append]

theorem line_faithful : line.Faithful Holds := by
  intro script supply room hholds hne hroom
  obtain ⟨hchunk, hsupply⟩ := hholds
  obtain ⟨ends, hsupply⟩ := hsupply hne
  obtain ⟨events, ready, chunk, replies, accepted⟩ := script
  cases ready with
  | cons octet ready =>
      obtain ⟨answer, next, rest, hdeliver, hserves, hnext⟩ :=
        deliver_serves _ hchunk hroom (List.cons_ne_nil octet ready) hsupply
      exact ⟨answer, next, rest, by simp [line, read, hdeliver], hserves, hnext⟩
  | nil =>
      change supply = stretches [] events ++ _ at hsupply
      rcases advance_cases events with ⟨octet, piece, left, hadvance, hstretches⟩ |
        ⟨left, hadvance, hstretches⟩ | ⟨fault, left, hadvance, hstretches⟩
      · rw [hstretches] at hsupply
        obtain ⟨answer, next, rest, hdeliver, hserves, hnext⟩ :=
          deliver_serves ⟨left, [], chunk, replies, accepted⟩ hchunk hroom
            (List.cons_ne_nil octet piece) hsupply
        exact ⟨answer, next, rest, by simp [line, read, hadvance, hdeliver], hserves, hnext⟩
      · have hread : line.read room ⟨events, [], chunk, replies, accepted⟩ =
            (some (.ok []), ⟨left, [], chunk, replies, accepted⟩) := by
          simp [line, read, hadvance]
        rcases hstretches with hstretches | ⟨hstretches, rfl⟩
        · rw [hstretches, List.cons_append] at hsupply
          subst hsupply
          exact ⟨_, _, _, hread, .halt .ended, hchunk, fun _ => ⟨ends, rfl⟩⟩
        · rw [hstretches, List.singleton_append] at hsupply
          subst hsupply
          refine ⟨_, _, _, hread, .halt .ended, hchunk, fun hmore => ?_⟩
          cases ends with
          | zero => exact absurd rfl hmore
          | succ ends => exact ⟨ends, rfl⟩
      · rw [hstretches, List.cons_append] at hsupply
        subst hsupply
        exact ⟨.error fault, ⟨left, [], chunk, replies, accepted⟩, _,
          by simp [line, read, hadvance], .halt (.failed fault), hchunk, fun _ => ⟨ends, rfl⟩⟩

-- However a script cuts its pieces, it carries them run together.
theorem carries {script : Script} (hchunk : script.chunk ≠ some 0) (ends : Nat) :
    line.Carries script (script.supply ++ List.replicate ends spent) :=
  ⟨Holds, line_faithful, hchunk, fun _ => ⟨ends, rfl⟩⟩

end Script

end FramedLines
