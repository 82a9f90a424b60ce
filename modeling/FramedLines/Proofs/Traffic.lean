import FramedLines.Proofs.Dials

-- Calls on one hub that overlap. Each goes on in steps that nobody comes in between, and between
-- any two steps of one call there can be steps of all the others.

namespace FramedLines

namespace Hub

-- A call, and how far it has got.
inductive Errand where
  | dialing (endpoint : Endpoint)
  -- it goes to the one who listened when it looked
  | offering (endpoint : Endpoint) (listener : Nat)
  | dialed (result : Except Failure Nat)
  | waiting (listener : Nat)
  | waited (dialed? : Option Nat)
  | closing (listener : Nat)
  -- it has taken out the dials that waited
  | dropping (listener : Nat) (dials : List Nat)
  -- and cut them off
  | leaving (listener : Nat) (dials : List Nat)
  | closed (dials : List Nat)
  | listening (endpoint : Endpoint)
  | listened (result : Except Fault Nat)

namespace Errand

-- The next step of a call. One that has to wait stays where it is, and so does one that is over.
def step (hub : Hub) : Errand → Errand × Hub
  | dialing endpoint =>
      match hub.seek endpoint with
      | .ok listener => (offering endpoint listener, hub)
      | .error fault => (dialed (.error (.fault fault)), hub)
  | offering endpoint listener =>
      match hub.enqueue listener endpoint with
      | .ok (number, hub) => (dialed (.ok number), hub)
      | .error failure => (dialed (.error failure), hub)
  | waiting listener =>
      match hub.accept? listener with
      | some (dialed?, hub) => (waited dialed?, hub)
      | none => (waiting listener, hub)
  | closing listener =>
      if (hub.listeners[listener]?.map Listener.closed).getD true then (closed [], hub)
      else
        let (dials, hub) := hub.shut listener
        (dropping listener dials, hub)
  | dropping listener dials => (leaving listener dials, hub.abandon dials)
  | leaving listener dials => (closed dials, hub.unregister listener)
  | listening endpoint =>
      match hub.listen endpoint with
      | .ok (number, hub) => (listened (.ok number), hub)
      | .error fault => (listened (.error fault), hub)
  | errand => (errand, hub)

-- What becomes of a wait whose time is up. It looks once more.
def expire (hub : Hub) : Errand → Errand × Hub
  | waiting listener =>
      match hub.accept? listener with
      | some (dialed?, hub) => (waited dialed?, hub)
      | none => (waited none, hub)
  | errand => (errand, hub)

def isOver : Errand → Bool
  | dialed _ | waited _ | closed _ | listened _ => true
  | _ => false

-- The connection that a dial made.
def made : Errand → List Nat
  | dialed (.ok number) => [number]
  | _ => []

-- The dial that somebody got.
def handed : Errand → List Nat
  | waited (some number) => [number]
  | _ => []

-- The dials that were taken out to be dropped.
def taken : Errand → List Nat
  | dropping _ dials | leaving _ dials | closed dials => dials
  | _ => []

-- Those of them that are cut off.
def dropped : Errand → List Nat
  | leaving _ dials | closed dials => dials
  | _ => []

-- The listener that it is about to take out of the registry.
def leaves : Errand → List Nat
  | dropping listener _ | leaving listener _ => [listener]
  | _ => []

-- With nobody in between, a dial is a dial and closing is closing.
theorem step_step_dialing (endpoint : Endpoint) (hub : Hub) :
    let (errand, middle) := (dialing endpoint).step hub
    errand.step middle =
      match hub.dial endpoint with
      | .ok (number, after) => (dialed (.ok number), after)
      | .error failure => (dialed (.error failure), hub) := by
  cases hseek : hub.seek endpoint with
  | error fault => simp only [step, dial, hseek]
  | ok listener =>
      cases henqueue : hub.enqueue listener endpoint <;>
        simp only [step, dial, hseek, henqueue]

theorem step_step_step_closing (listener : Nat) (hub : Hub) :
    let (first, shut) := (closing listener).step hub
    let (second, cut) := first.step shut
    let (last, after) := second.step cut
    after = hub.close listener ∧ last.isOver = true := by
  cases hclosed : (hub.listeners[listener]?.map Listener.closed).getD true with
  | true => simp [step, close, hclosed, isOver]
  | false => simp [step, close, hclosed, isOver]

-- It has no dial in hand and no listener to take out.
structure Plain (errand : Errand) : Prop where
  made : errand.made = []
  handed : errand.handed = []
  taken : errand.taken = []
  dropped : errand.dropped = []
  leaves : errand.leaves = []

-- What a step of a call does.
inductive Effect (before : Hub) : Errand → Errand → Hub → Prop where
  | offered (endpoint : Endpoint) (number : Nat) (listener : Listener) (duplex : Duplex)
      (hlistener : before.listeners[number]? = some listener) (hopen : listener.isOpen = true)
      (hpair : Duplex.pair before.bufferSize = .ok duplex) :
      Effect before (.offering endpoint number) (.dialed (.ok before.connections.length))
        { before with
          connections := before.connections ++ [
            ⟨.pipes duplex, { endpoint }, { endpoint := listener.endpoint }⟩]
          listeners := before.listeners.modify number fun listener =>
            { listener with pending := listener.pending ++ [before.connections.length] } }
  | accepted (number : Nat) (listener : Listener) (dialed : Nat) (pending : List Nat)
      (hlistener : before.listeners[number]? = some listener)
      (hpending : listener.pending = dialed :: pending) :
      Effect before (.waiting number) (.waited (some dialed))
        (before.updateListener number fun listener => { listener with pending })
  | shut (number : Nat) (listener : Listener)
      (hlistener : before.listeners[number]? = some listener) (hopen : listener.closed = false) :
      Effect before (.closing number) (.dropping number listener.pending)
        (before.updateListener number fun listener =>
          { listener with closed := true, isOpen := false, pending := [] })
  | abandoned (number : Nat) (dials : List Nat) :
      Effect before (.dropping number dials) (.leaving number dials) (before.abandon dials)
  | unregistered (number : Nat) (dials : List Nat) :
      Effect before (.leaving number dials) (.closed dials) (before.unregister number)
  | listened (endpoint : Endpoint) (hfree : before.registered? endpoint.address = none) :
      Effect before (.listening endpoint) (.listened (.ok before.listeners.length))
        { before with
          registry := (endpoint.address, before.listeners.length) :: before.registry
          listeners := before.listeners ++ [{ endpoint }] }
  | idle {errand next : Errand} (hplain : errand.Plain) (hnext : next.Plain) :
      Effect before errand next before
  | stayed (errand : Errand) : Effect before errand errand before

theorem accept_effect {before after : Hub} {number : Nat} {dialed? : Option Nat}
    (haccept : before.accept? number = some (dialed?, after)) :
    Effect before (.waiting number) (.waited dialed?) after := by
  have hidle : Effect before (.waiting number) (.waited none) before :=
    .idle ⟨rfl, rfl, rfl, rfl, rfl⟩ ⟨rfl, rfl, rfl, rfl, rfl⟩
  unfold accept? at haccept
  split at haccept
  · cases haccept
    exact hidle
  · next listener hlistener =>
      split at haccept
      · cases haccept
        exact hidle
      · split at haccept
        · next dialed pending hpending =>
            cases haccept
            exact .accepted number listener dialed pending hlistener hpending
        · split at haccept
          · cases haccept
          · cases haccept
            exact hidle

theorem step_effect (errand : Errand) (before : Hub) :
    Effect before errand (errand.step before).1 (errand.step before).2 := by
  cases errand with
  | dialing endpoint =>
      simp only [step]
      cases before.seek endpoint <;>
        exact .idle ⟨rfl, rfl, rfl, rfl, rfl⟩ ⟨rfl, rfl, rfl, rfl, rfl⟩
  | offering endpoint number =>
      have hidle (failure : Failure) :
          Effect before (.offering endpoint number) (.dialed (.error failure)) before :=
        .idle ⟨rfl, rfl, rfl, rfl, rfl⟩ ⟨rfl, rfl, rfl, rfl, rfl⟩
      simp only [step, enqueue]
      cases hpair : Duplex.pair before.bufferSize with
      | error crash => exact hidle _
      | ok duplex =>
          cases hlistener : before.listeners[number]?.filter (·.isOpen) with
          | none => exact hidle _
          | some listener =>
              rw [Option.filter_eq_some_iff] at hlistener
              exact .offered endpoint number listener duplex hlistener.1 hlistener.2 hpair
  | waiting number =>
      simp only [step]
      cases haccept : before.accept? number with
      | none => exact .stayed _
      | some answer => exact accept_effect haccept
  | closing number =>
      simp only [step]
      cases hlistener : before.listeners[number]? with
      | none => exact .idle ⟨rfl, rfl, rfl, rfl, rfl⟩ ⟨rfl, rfl, rfl, rfl, rfl⟩
      | some listener =>
          cases hclosed : listener.closed with
          | true =>
              simp only [Option.map_some, hclosed]
              exact .idle ⟨rfl, rfl, rfl, rfl, rfl⟩ ⟨rfl, rfl, rfl, rfl, rfl⟩
          | false =>
              have h := Effect.shut number listener hlistener hclosed
              simpa [hclosed, Hub.shut, hlistener] using h
  | dropping number dials => exact .abandoned number dials
  | leaving number dials => exact .unregistered number dials
  | listening endpoint =>
      simp only [step, Hub.listen]
      cases hfree : before.registered? endpoint.address with
      | none => exact .listened endpoint hfree
      | some number =>
          exact .idle ⟨rfl, rfl, rfl, rfl, rfl⟩ ⟨rfl, rfl, rfl, rfl, rfl⟩
  | _ => exact .stayed _

theorem expire_effect (errand : Errand) (before : Hub) :
    Effect before errand (errand.expire before).1 (errand.expire before).2 := by
  cases errand with
  | waiting number =>
      simp only [expire]
      cases haccept : before.accept? number with
      | none => exact .idle ⟨rfl, rfl, rfl, rfl, rfl⟩ ⟨rfl, rfl, rfl, rfl, rfl⟩
      | some answer => exact accept_effect haccept
  | _ => exact .stayed _

end Errand

-- A hub, and the calls that were made on it so far.
structure Traffic where
  hub : Hub
  errands : List Errand := []

-- Somebody begins a call, or a call that has begun goes on.
inductive Move where
  | dial (endpoint : Endpoint)
  | wait (listener : Nat)
  | close (listener : Nat)
  | listen (endpoint : Endpoint)
  | step (errand : Nat)
  -- the time of a wait is up
  | expire (errand : Nat)

namespace Traffic

def begin (errand : Errand) (traffic : Traffic) : Traffic :=
  { traffic with errands := traffic.errands ++ [errand] }

def advance (index : Nat) (act : Hub → Errand → Errand × Hub) (traffic : Traffic) : Traffic :=
  match traffic.errands[index]? with
  | none => traffic
  | some errand =>
      let (next, hub) := act traffic.hub errand
      { hub, errands := traffic.errands.set index next }

def perform (traffic : Traffic) : Move → Traffic
  | .dial endpoint => traffic.begin (.dialing endpoint)
  | .wait listener => traffic.begin (.waiting listener)
  | .close listener => traffic.begin (.closing listener)
  | .listen endpoint => traffic.begin (.listening endpoint)
  | .step index => traffic.advance index Errand.step
  | .expire index => traffic.advance index Errand.expire

def of (size : UInt64) (moves : List Move) : Traffic := moves.foldl perform { hub := .ofSize size }

-- Nobody is in the middle of a call.
def isQuiet (traffic : Traffic) : Bool := traffic.errands.all Errand.isOver

def made (traffic : Traffic) : List Nat := traffic.errands.flatMap Errand.made

def handed (traffic : Traffic) : List Nat := traffic.errands.flatMap Errand.handed

def taken (traffic : Traffic) : List Nat := traffic.errands.flatMap Errand.taken

def dropped (traffic : Traffic) : List Nat := traffic.errands.flatMap Errand.dropped

-- The listeners that have closed and are not out of the registry yet.
def leaving (traffic : Traffic) : List Nat := traffic.errands.flatMap Errand.leaves

-- What a move comes to: a new call with nothing in hand, or a step of one that has begun.
inductive Change (before : Traffic) : Traffic → Prop where
  | idle : Change before before
  | begun (errand : Errand) (hplain : errand.Plain) : Change before (before.begin errand)
  | advanced (index : Nat) (errand next : Errand) (hub : Hub)
      (herrand : before.errands[index]? = some errand)
      (heffect : errand.Effect before.hub next hub) :
      Change before { hub, errands := before.errands.set index next }

theorem advance_change {act : Hub → Errand → Errand × Hub}
    (hact : ∀ (errand : Errand) (hub : Hub),
      errand.Effect hub (act hub errand).1 (act hub errand).2)
    (index : Nat) (before : Traffic) : Change before (before.advance index act) := by
  unfold advance
  cases herrand : before.errands[index]? with
  | none => exact .idle
  | some errand => exact .advanced index errand _ _ herrand (hact errand before.hub)

theorem perform_change (move : Move) (before : Traffic) : Change before (before.perform move) := by
  cases move with
  | step index => exact advance_change (fun errand hub => errand.step_effect hub) index before
  | expire index => exact advance_change (fun errand hub => errand.expire_effect hub) index before
  | _ => exact .begun _ ⟨rfl, rfl, rfl, rfl, rfl⟩

-- What each move keeps, all of them keep.
theorem of_induction {P : Traffic → Prop} {size : UInt64} (hempty : P { hub := .ofSize size })
    (hmove : ∀ (move : Move) (traffic : Traffic), P traffic → P (traffic.perform move))
    (moves : List Move) : P (of size moves) := by
  unfold of
  generalize ({ hub := .ofSize size } : Traffic) = traffic at hempty
  induction moves generalizing traffic with
  | nil => exact hempty
  | cons move moves ih => exact ih _ (hmove move traffic hempty)

end Traffic

end Hub

end FramedLines
