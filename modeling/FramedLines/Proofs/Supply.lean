import FramedLines.Message.Exchange

-- What a line has to give, apart from how it cuts it. A dialogue that cannot tell one way of
-- cutting from another comes to the same result on every line with the same supply.

namespace FramedLines

-- What a line answers when it has no octets to give.
inductive Halt where
  | ended
  | failed (fault : Fault)
deriving DecidableEq

def Halt.answer : Halt → Except Fault Bytes
  | ended => .ok []
  | failed fault => .error fault

-- Octets, and what the line answers once they are all gone.
structure Stretch where
  octets : Bytes
  halt : Halt
deriving DecidableEq

-- Nothing is promised for after the last stretch.
abbrev Supply := List Stretch

namespace Supply

-- The right answers to a read of at most `room` octets, and what each leaves.
inductive Serves (room : Nat) : Supply → Except Fault Bytes → Supply → Prop where
  | piece {piece rest : Bytes} {halt : Halt} {later : Supply} (hne : piece ≠ [])
      (hroom : piece.length ≤ room) :
      Serves room (⟨piece ++ rest, halt⟩ :: later) (.ok piece) (⟨rest, halt⟩ :: later)
  | halt (halt : Halt) {later : Supply} :
      Serves room (⟨[], halt⟩ :: later) halt.answer later

theorem Serves.of_take {room : Nat} {octets : Bytes} {halt : Halt} {later : Supply}
    (hne : octets ≠ []) (hroom : 0 < room) :
    Serves room (⟨octets, halt⟩ :: later) (.ok (octets.take room))
      (⟨octets.drop room, halt⟩ :: later) := by
  have hpiece : octets.take room ≠ [] := by
    simp only [ne_eq, List.take_eq_nil_iff, hne, or_false]
    omega
  have hlength : (octets.take room).length ≤ room := by
    rw [List.length_take]
    omega
  have hserves : Serves room (⟨octets.take room ++ octets.drop room, halt⟩ :: later) _ _ :=
    .piece hpiece hlength
  rwa [List.take_append_drop] at hserves

-- The line that gives as much at a time as it is asked for.
def line : ByteLine Supply where
  read room
    | [] => (none, [])
    | ⟨octets, halt⟩ :: later =>
        if octets.isEmpty then (some halt.answer, later)
        else (some (.ok (octets.take room)), ⟨octets.drop room, halt⟩ :: later)
  write _ supply := (none, supply)

end Supply

-- Reads of a line, seen as reads of a supply: `holds` says which supply each state stands for.
def ByteLine.Faithful (line : ByteLine σ) (holds : σ → Supply → Prop) : Prop :=
  ∀ {state : σ} {supply : Supply} {room : Nat}, holds state supply → supply ≠ [] → 0 < room →
    ∃ answer next rest, line.read room state = (some answer, next) ∧
      supply.Serves room answer rest ∧ holds next rest

-- A read gets no more than it asks for.
def ByteLine.Bounded (line : ByteLine σ) : Prop :=
  ∀ {room : Nat} {state next : σ} {piece : Bytes},
    line.read room state = (some (.ok piece), next) → piece.length ≤ room

-- From this state on the line gives out this supply, in whatever pieces.
def ByteLine.Carries (line : ByteLine σ) (state : σ) (supply : Supply) : Prop :=
  ∃ holds : σ → Supply → Prop, line.Faithful holds ∧ holds state supply

theorem Supply.line_faithful : Supply.line.Faithful (· = ·) := by
  intro state supply room hstate hne hroom
  subst hstate
  cases state with
  | nil => exact absurd rfl hne
  | cons stretch later =>
      obtain ⟨octets, halt⟩ := stretch
      cases octets with
      | nil => exact ⟨halt.answer, later, later, rfl, .halt halt, rfl⟩
      | cons octet octets =>
          exact ⟨.ok ((octet :: octets).take room), ⟨(octet :: octets).drop room, halt⟩ :: later,
            _, rfl, .of_take (List.cons_ne_nil octet octets) hroom, rfl⟩

-- Holds a dialogue with a supply.
def Supply.feed (supply : Supply) (d : Dialogue α) : Option α × Supply := d.run Supply.line supply

namespace Dialogue

theorem run_bind (line : ByteLine σ) (d : Dialogue α) (f : α → Dialogue β) (state : σ) :
    (d.bind f).run line state =
      match d.run line state with
      | (some result, state) => (f result).run line state
      | (none, state) => (none, state) := by
  induction d generalizing state with
  | done result => rfl
  | read room next ih =>
      simp only [read_bind, run]
      split <;> simp [*]
  | write data next ih =>
      simp only [write_bind, run]
      split <;> simp [*]

-- Holds the same dialogue so many times over.
def runTimes (line : ByteLine σ) (d : Dialogue α) : Nat → σ → List (Option α) × σ
  | 0, state => ([], state)
  | times + 1, state =>
      let (result, next) := d.run line state
      let (results, last) := runTimes line d times next
      (result :: results, last)

theorem runTimes_add (line : ByteLine σ) (d : Dialogue α) (times more : Nat) (state : σ) :
    runTimes line d (times + more) state =
      let (results, middle) := runTimes line d times state
      let (others, last) := runTimes line d more middle
      (results ++ others, last) := by
  induction times generalizing state with
  | zero => simp [runTimes]
  | succ times ih => simp only [Nat.succ_add, runTimes, ih, List.cons_append]

theorem runTimes_trans {line : ByteLine σ} {d : Dialogue α} {times more : Nat}
    {state middle last : σ} {results others : List (Option α)}
    (hfirst : runTimes line d times state = (results, middle))
    (hthen : runTimes line d more middle = (others, last)) :
    runTimes line d (times + more) state = (results ++ others, last) := by
  simp only [runTimes_add, hfirst, hthen]

theorem runTimes_one {line : ByteLine σ} {d : Dialogue α} {state next : σ} {result : Option α}
    (hrun : d.run line state = (result, next)) :
    runTimes line d 1 state = ([result], next) := by
  simp only [runTimes, hrun]

-- Whatever the dialogue comes to on a supply, it comes to on every line with that supply.
def Seamless (d : Dialogue α) : Prop :=
  ∀ {supply rest : Supply} {result : α}, supply.feed d = (some result, rest) →
    ∀ {σ : Type} {line : ByteLine σ} {holds : σ → Supply → Prop}, line.Faithful holds →
      ∀ {state : σ}, holds state supply →
        ∃ next, d.run line state = (some result, next) ∧ holds next rest

theorem Seamless.done (result : α) : (Dialogue.done result).Seamless := by
  intro supply rest _ hrun σ line holds _ state hstate
  cases hrun
  exact ⟨state, rfl, hstate⟩

theorem Seamless.bind {d : Dialogue α} {f : α → Dialogue β} (hd : d.Seamless)
    (hf : ∀ result, (f result).Seamless) : (d.bind f).Seamless := by
  intro supply rest result hrun σ line holds hline state hstate
  rw [Supply.feed, run_bind] at hrun
  split at hrun
  · next middle between hfirst =>
      obtain ⟨state', hfirst', hstate'⟩ := hd hfirst hline hstate
      obtain ⟨state'', hsecond, hstate''⟩ := hf middle hrun hline hstate'
      exact ⟨state'', by rw [run_bind, hfirst']; exact hsecond, hstate''⟩
  · cases hrun

end Dialogue

theorem ByteLine.Carries.run {line : ByteLine σ} {state : σ} {supply rest : Supply}
    {d : Dialogue α} {result : α} (hcarries : line.Carries state supply) (hd : d.Seamless)
    (hfeed : supply.feed d = (some result, rest)) :
    ∃ next, d.run line state = (some result, next) ∧ line.Carries next rest := by
  obtain ⟨holds, hline, hstate⟩ := hcarries
  obtain ⟨next, hrun, hnext⟩ := hd hfeed hline hstate
  exact ⟨next, hrun, holds, hline, hnext⟩

end FramedLines
