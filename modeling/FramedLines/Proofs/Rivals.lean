import FramedLines.Proofs.Paths

-- Listening and closing at one path while the calls overlap. Whoever listens comes in between no
-- two steps of its own. Whoever closes lets go of the handle, then of the key and then of the file,
-- and others come in between.

namespace FramedLines

namespace Host

-- A call at a path, and how far it has got.
inductive Errand where
  | listening
  | listened (result : Except Fault Nat)
  | closing (number : Nat)
  -- the handle has gone
  | forgetting (number : Nat)
  -- and so has the key
  | unlinking (number : Nat)
  | closed (number : Nat)
deriving DecidableEq

namespace Errand

-- The next step of a call. One that is over stays as it is.
def step (endpoint : Endpoint) (host : Host) : Errand → Errand × Host
  | listening =>
      let (result, host) := host.listenLocal endpoint
      (listened result, host)
  | closing number =>
      if (host.listeners[number]?.map SocketListener.closed).getD true then (closed number, host)
      else (forgetting number, host.dropHandle number)
  | forgetting number => (unlinking number, host.forget endpoint.address)
  | unlinking number => (closed number, host.unlink endpoint.address)
  | errand => (errand, host)

-- The listener that it closes.
def closes : Errand → Option Nat
  | closing number | forgetting number | unlinking number | closed number => some number
  | _ => none

def forgets : Errand → Bool
  | forgetting _ => true
  | _ => false

def unlinks : Errand → Bool
  | unlinking _ => true
  | _ => false

-- With nobody in between, closing is closing.
theorem step_step_step_closing {endpoint : Endpoint} {number : Nat} {host : Host}
    (hstation : ∀ listener, host.listeners[number]? = some listener →
      listener.station = .path endpoint.address) :
    let (first, dropped) := (closing number).step endpoint host
    let (second, forgotten) := first.step endpoint dropped
    second.step endpoint forgotten = (closed number, host.close number) := by
  cases hlistener : host.listeners[number]? with
  | none => simp [step, close, hlistener]
  | some listener =>
      cases hclosed : listener.closed with
      | true => simp [step, close, hlistener, hclosed]
      | false => simp [step, close, hlistener, hclosed, hstation listener hlistener]

-- What a step of a call does.
inductive Effect (endpoint : Endpoint) (before : Host) : Errand → Errand → Host → Prop where
  | bound (cleared files : Files) (hfree : before.key endpoint.address ∉ before.bound)
      (hcleared : before.Cleared endpoint cleared)
      (hchecked : Path.checked endpoint.address = .ok (Path.parse endpoint.address))
      (hfiles : cleared.Bound endpoint.address before.listeners.length files) :
      Effect endpoint before .listening (.listened (.ok before.listeners.length)) { before with
        files
        bound := before.key endpoint.address :: before.bound
        listeners := before.listeners ++ [{ endpoint, station := .path endpoint.address }]
        descriptors := install (.listener before.listeners.length) before.descriptors }
  | refused (fault : Fault) :
      Effect endpoint before .listening (.listened (.error fault)) before
  | failed (fault : Fault) (files : Files) (hfree : before.key endpoint.address ∉ before.bound)
      (hcleared : before.Cleared endpoint files) :
      Effect endpoint before .listening (.listened (.error fault)) { before with files }
  | answered (fault : Fault) (listener : Nat)
      (hfree : before.key endpoint.address ∉ before.bound) :
      Effect endpoint before .listening (.listened (.error fault))
        ((before.reach listener .local endpoint).2.updateConnection before.connections.length
          (Connection.close .first))
  | dropped (number : Nat) (listener : SocketListener)
      (hlistener : before.listeners[number]? = some listener) (hopen : listener.closed = false) :
      Effect endpoint before (.closing number) (.forgetting number) (before.dropHandle number)
  | late (number : Nat) : Effect endpoint before (.closing number) (.closed number) before
  | forgotten (number : Nat) :
      Effect endpoint before (.forgetting number) (.unlinking number)
        (before.forget endpoint.address)
  | unlinked (number : Nat) :
      Effect endpoint before (.unlinking number) (.closed number) (before.unlink endpoint.address)
  | stayed (errand : Errand) : Effect endpoint before errand errand before

theorem step_effect (endpoint : Endpoint) (errand : Errand) (before : Host) :
    Effect endpoint before errand (errand.step endpoint before).1
      (errand.step endpoint before).2 := by
  cases errand with
  | listening =>
      simp only [step, listenLocal]
      split
      · exact .refused _
      · next hfree =>
          rw [List.contains_iff_mem] at hfree
          have hattempt := attempt_bindOrReclaim endpoint before
          generalize before.bindOrReclaim endpoint = attempt at hattempt
          cases hattempt with
          | bound cleared files hcleared hchecked hfiles =>
              exact .bound cleared files hfree hcleared hchecked hfiles
          | failed error files hcleared => exact .failed _ files hfree hcleared
          | answered error listener hlive => exact .answered _ listener hfree
  | closing number =>
      simp only [step]
      cases hlistener : before.listeners[number]? with
      | none => exact .late number
      | some listener =>
          cases hclosed : listener.closed with
          | true =>
              simp only [Option.map_some, hclosed]
              exact .late number
          | false =>
              simp only [Option.map_some, hclosed]
              exact .dropped number listener hlistener hclosed
  | forgetting number => exact .forgotten number
  | unlinking number => exact .unlinked number
  | _ => exact .stayed _

theorem Effect.closes_eq {endpoint : Endpoint} {before after : Host} {errand next : Errand}
    (h : Effect endpoint before errand next after) : next.closes = errand.closes := by
  cases h <;> rfl

end Errand

-- A host, and the calls that were made so far at one of its paths.
structure Traffic where
  host : Host
  errands : List Errand := []

-- Somebody begins a call, or a call that has begun goes on.
inductive Move where
  | listen
  | close (number : Nat)
  | step (errand : Nat)
deriving DecidableEq

namespace Traffic

def begin (errand : Errand) (traffic : Traffic) : Traffic :=
  { traffic with errands := traffic.errands ++ [errand] }

def advance (endpoint : Endpoint) (index : Nat) (traffic : Traffic) : Traffic :=
  match traffic.errands[index]? with
  | none => traffic
  | some errand =>
      let (next, host) := errand.step endpoint traffic.host
      { host, errands := traffic.errands.set index next }

def perform (endpoint : Endpoint) (traffic : Traffic) : Move → Traffic
  | .listen => traffic.begin .listening
  | .close number => traffic.begin (.closing number)
  | .step index => traffic.advance endpoint index

-- From any files.
def of (endpoint : Endpoint) (files : Files) (moves : List Move) : Traffic :=
  moves.foldl (perform endpoint) { host := { files } }

-- How many have closed, are forgotten and have not taken their file away.
def unlinkers (traffic : Traffic) : Nat := traffic.errands.countP Errand.unlinks

-- What a move comes to.
inductive Change (endpoint : Endpoint) (before : Traffic) : Traffic → Prop where
  | idle : Change endpoint before before
  | begun (errand : Errand) (hforgets : errand.forgets = false)
      (hunlinks : errand.unlinks = false) :
      Change endpoint before (before.begin errand)
  | advanced (index : Nat) (errand next : Errand) (host : Host)
      (herrand : before.errands[index]? = some errand)
      (heffect : errand.Effect endpoint before.host next host) :
      Change endpoint before { host, errands := before.errands.set index next }

theorem perform_change (endpoint : Endpoint) (move : Move) (before : Traffic) :
    Change endpoint before (before.perform endpoint move) := by
  cases move with
  | listen => exact .begun _ rfl rfl
  | close number => exact .begun _ rfl rfl
  | step index =>
      simp only [perform, advance]
      cases herrand : before.errands[index]? with
      | none => exact .idle
      | some errand =>
          exact .advanced index errand _ _ herrand (errand.step_effect endpoint before.host)

section Closes

variable {endpoint : Endpoint} {before after traffic : Traffic}

-- A call that has begun is never forgotten, nor what it is about.
theorem Change.closes (h : Change endpoint before after) {errand : Errand}
    (herrand : errand ∈ before.errands) :
    ∃ later ∈ after.errands, later.closes = errand.closes := by
  cases h with
  | idle => exact ⟨errand, herrand, rfl⟩
  | begun other hforgets hunlinks => exact ⟨errand, List.mem_append_left _ herrand, rfl⟩
  | advanced index old next host hold heffect =>
      obtain ⟨place, hplace⟩ := List.getElem?_of_mem herrand
      by_cases hindex : index = place
      · subst hindex
        obtain rfl := Option.some.inj (hplace.symm.trans hold)
        have hlt := (List.getElem?_eq_some_iff.mp hold).1
        exact ⟨next, List.mem_set hlt _, heffect.closes_eq⟩
      · have hkept : (before.errands.set index next)[place]? = some errand := by
          rw [List.getElem?_set_ne hindex, hplace]
        exact ⟨errand, List.mem_of_getElem? hkept, rfl⟩

theorem closes_perform (moves : List Move) {errand : Errand} (herrand : errand ∈ traffic.errands) :
    ∃ later ∈ (moves.foldl (Traffic.perform endpoint) traffic).errands,
      later.closes = errand.closes := by
  induction moves generalizing traffic errand with
  | nil => exact ⟨errand, herrand, rfl⟩
  | cons move moves ih =>
      obtain ⟨later, hlater, hsame⟩ := (perform_change endpoint move traffic).closes herrand
      obtain ⟨last, hlast, hlastSame⟩ := ih hlater
      exact ⟨last, hlast, hlastSame.trans hsame⟩

end Closes

end Traffic

end Host

end FramedLines
