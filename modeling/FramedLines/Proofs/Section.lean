import FramedLines.Proofs.Supply
import FramedLines.Proofs.Wire

-- Sections of a message: how a run of octets of known length is read off a line or past, and that
-- it does not matter in how many pieces it comes.

namespace FramedLines

open Dialogue (Seamless)

-- How a halt is reported after `got` of the `want` octets of a section, once something of the
-- message has been read.
def Halt.fault (got want : Nat) : Halt → Fault
  | ended => Fault.truncated got want
  | failed fault =>
      if fault.isTimeout then fault.withContext "timed out mid-message; framing lost" else fault

-- A halt does no harm while the message is untouched.
def Halt.stop (untouched : Bool) (got want : Nat) (halt : Halt) : Message.Stop :=
  match untouched, halt with
  | true, ended => .ended
  | true, failed fault => .fault fault
  | false, halt => .fault (halt.fault got want)

namespace Message

@[simp] theorem feed_pure (supply : Supply) (value : α) :
    supply.feed (pure value : Reading α) = (some (.ok value), supply) := rfl

@[simp] theorem feed_throw (supply : Supply) (stop : Stop) :
    supply.feed (throw stop : Reading α) = (some (.error stop), supply) := rfl

theorem feed_bind_of_ok {x : Reading α} {f : α → Reading β} {supply rest : Supply} {value : α}
    (hx : supply.feed x = (some (.ok value), rest)) :
    supply.feed (x >>= f : Reading β) = rest.feed (f value) := by
  change Dialogue.run Supply.line (Dialogue.bind x (ExceptT.bindCont f)) supply = _
  rw [Dialogue.run_bind, show Dialogue.run Supply.line x supply = _ from hx]
  rfl

theorem feed_bind_of_error {x : Reading α} {f : α → Reading β} {supply rest : Supply}
    {stop : Stop} (hx : supply.feed x = (some (.error stop), rest)) :
    supply.feed (x >>= f : Reading β) = (some (.error stop), rest) := by
  change Dialogue.run Supply.line (Dialogue.bind x (ExceptT.bindCont f)) supply = _
  rw [Dialogue.run_bind, show Dialogue.run Supply.line x supply = _ from hx]
  rfl

theorem seamless_bind {x : Reading α} {f : α → Reading β} (hx : Seamless x)
    (hf : ∀ value, Seamless (f value)) : Seamless (x >>= f : Reading β) := by
  apply Seamless.bind hx
  intro result
  cases result with
  | ok value => exact hf value
  | error stop => exact Seamless.done _

section Collect

variable {σ : Type} {line : ByteLine σ} {holds : σ → Supply → Prop}

-- With enough octets before the next halt, a section is complete and leaves the others.
theorem run_collect (hline : line.Faithful holds) {halt : Halt} {later : Supply} (want : Nat)
    (octets rest : Bytes) (untouched : Bool) (done : Bytes) {state : σ}
    (hstate : holds state (⟨octets ++ rest, halt⟩ :: later)) :
    ∃ next, Dialogue.run line (collect untouched want octets.length done) state =
        (some (.ok (done.reverse ++ octets)), next) ∧ holds next (⟨rest, halt⟩ :: later) := by
  induction hn : octets.length using Nat.strongRecOn generalizing octets untouched done state with
  | _ missing ih =>
      subst hn
      unfold collect
      by_cases hzero : octets.length = 0
      · obtain rfl := List.length_eq_zero_iff.mp hzero
        exact ⟨state, by simp [Dialogue.run], hstate⟩
      · obtain ⟨answer, middle, left, hread, hserves, hmiddle⟩ :=
          hline hstate (by simp) (Nat.pos_of_ne_zero hzero)
        simp only [if_neg hzero, Dialogue.run, hread]
        generalize hsupply : octets ++ rest = front at hserves
        cases hserves with
        | halt =>
            obtain ⟨rfl, -⟩ := List.append_eq_nil_iff.mp hsupply
            exact absurd rfl hzero
        | @piece piece tail _ _ hne hroom =>
            obtain ⟨others, rfl⟩ : piece <+: octets :=
              List.prefix_of_prefix_length_le ⟨tail, rfl⟩ ⟨rest, hsupply⟩ hroom
            rw [List.append_assoc, List.append_right_inj] at hsupply
            subst hsupply
            cases piece with
            | nil => exact absurd rfl hne
            | cons octet piece =>
                have hmissing : (octet :: piece ++ others).length - (piece.length + 1) =
                    others.length := by simp
                simp only [hmissing]
                have hless : others.length < (octet :: piece ++ others).length := by
                  rw [List.length_append, List.length_cons]
                  omega
                obtain ⟨next, hrun, hnext⟩ := ih others.length hless others false
                  (piece.reverseAux (octet :: done)) hmiddle rfl
                exact ⟨next, by rw [hrun]; simp [List.reverseAux_eq], hnext⟩

-- Otherwise it takes what there is, and the halt.
theorem run_collect_halted (hline : line.Faithful holds) {halt : Halt} {later : Supply}
    {want missing : Nat} {octets : Bytes} (untouched : Bool) (done : Bytes) {state : σ}
    (hshort : octets.length < missing) (hmissing : missing ≤ want)
    (hstate : holds state (⟨octets, halt⟩ :: later)) :
    ∃ next, Dialogue.run line (collect untouched want missing done) state =
        (some (.error (halt.stop (untouched && octets.isEmpty)
          (want - missing + octets.length) want)), next) ∧ holds next later := by
  induction hn : octets.length using Nat.strongRecOn
    generalizing octets untouched done missing state with
  | _ length ih =>
      subst hn
      unfold collect
      have hpos : 0 < missing := by omega
      obtain ⟨answer, middle, left, hread, hserves, hmiddle⟩ := hline hstate (by simp) hpos
      simp only [if_neg (Nat.pos_iff_ne_zero.mp hpos), Dialogue.run, hread]
      cases hserves with
      | halt =>
          refine ⟨middle, ?_, hmiddle⟩
          cases halt with
          | ended => cases untouched <;> simp [Halt.answer, Halt.stop, Halt.fault, Dialogue.run]
          | failed fault =>
              cases untouched <;> by_cases htime : fault.isTimeout = true <;>
                simp [Halt.answer, Halt.stop, Halt.fault, htime, Dialogue.run]
      | @piece piece tail _ _ hne hroom =>
          cases piece with
          | nil => exact absurd rfl hne
          | cons octet piece =>
              simp only [List.length_cons, List.length_append] at hshort hroom ih ⊢
              have hleft : tail.length < missing - (piece.length + 1) := by omega
              obtain ⟨next, hrun, hnext⟩ := ih tail.length (by omega) false
                (piece.reverseAux (octet :: done)) hleft (by omega) hmiddle rfl
              refine ⟨next, ?_, hnext⟩
              have hgot : want - (missing - (piece.length + 1)) + tail.length =
                  want - missing + (piece.length + 1 + tail.length) := by omega
              rw [hrun, hgot]
              simp

end Collect

-- On a supply it takes two reads at most.
theorem feed_fill (untouched : Bool) (octets rest : Bytes) (halt : Halt) (later : Supply) :
    Supply.feed (⟨octets ++ rest, halt⟩ :: later) (fill untouched octets.length) =
      (some (.ok octets), ⟨rest, halt⟩ :: later) := by
  have hstate : (⟨octets ++ rest, halt⟩ :: later : Supply) = ⟨octets ++ rest, halt⟩ :: later := rfl
  obtain ⟨_, hrun, rfl⟩ :=
    run_collect Supply.line_faithful octets.length octets rest untouched [] hstate
  exact hrun

theorem feed_fill_halted (untouched : Bool) {octets : Bytes} {want : Nat} (halt : Halt)
    (later : Supply) (hshort : octets.length < want) :
    Supply.feed (⟨octets, halt⟩ :: later) (fill untouched want) =
      (some (.error (halt.stop (untouched && octets.isEmpty) octets.length want)), later) := by
  have hstate : (⟨octets, halt⟩ :: later : Supply) = ⟨octets, halt⟩ :: later := rfl
  obtain ⟨_, hrun, rfl⟩ := run_collect_halted Supply.line_faithful untouched [] hshort
    (Nat.le_refl want) hstate
  rw [Nat.sub_self, Nat.zero_add] at hrun
  exact hrun

theorem seamless_fill (untouched : Bool) (want : Nat) : Seamless (fill untouched want) := by
  intro supply rest result hfeed σ line holds hline state hstate
  cases supply with
  | nil =>
      by_cases hzero : want = 0
      · subst hzero
        unfold fill collect at hfeed ⊢
        cases hfeed
        exact ⟨state, rfl, hstate⟩
      · unfold fill collect at hfeed
        rw [if_neg hzero] at hfeed
        cases hfeed
  | cons stretch later =>
      obtain ⟨octets, halt⟩ := stretch
      by_cases hshort : octets.length < want
      · rw [feed_fill_halted untouched halt later hshort] at hfeed
        cases hfeed
        obtain ⟨next, hrun, hnext⟩ :=
          run_collect_halted hline untouched [] hshort (Nat.le_refl want) hstate
        rw [Nat.sub_self, Nat.zero_add] at hrun
        exact ⟨next, hrun, hnext⟩
      · obtain ⟨front, back, rfl, rfl⟩ : ∃ front back, octets = front ++ back ∧
            want = front.length := ⟨octets.take want, octets.drop want, by simp, by simp; omega⟩
        rw [feed_fill] at hfeed
        cases hfeed
        exact run_collect hline front.length front back untouched [] hstate

-- Readings made of whole sections. What holds of these holds of all there is to reading messages.
inductive Sectional : {α : Type} → Reading α → Prop where
  | pure {α : Type} (value : α) : Sectional (Pure.pure value)
  | throw {α : Type} (stop : Stop) : Sectional (throw stop : Reading α)
  | fill (untouched : Bool) (want : Nat) : Sectional (Message.fill untouched want)
  | bind {α β : Type} {x : Reading α} {f : α → Reading β} (hx : Sectional x)
      (hf : ∀ value, Sectional (f value)) : Sectional (x >>= f)

theorem Sectional.seamless {x : Reading α} (hx : Sectional x) : Seamless x := by
  induction hx with
  | pure value => exact Seamless.done _
  | throw stop => exact Seamless.done _
  | fill untouched want => exact seamless_fill untouched want
  | bind _ _ hx hf => exact seamless_bind hx hf

variable (halt : Halt) (later : Supply)

section Word

theorem feed_readWord (untouched : Bool) {value : Nat} (hfits : Wire.fits value) (rest : Bytes) :
    Supply.feed (⟨Wire.word value ++ rest, halt⟩ :: later) (readWord untouched) =
      (some (.ok value), ⟨rest, halt⟩ :: later) := by
  have hfill := feed_fill untouched (Wire.word value) rest halt later
  rw [Wire.length_word] at hfill
  rw [readWord, feed_bind_of_ok hfill, feed_pure, Wire.toNat_word hfits]

theorem feed_readWord_halted (untouched : Bool) {octets : Bytes}
    (hshort : octets.length < Wire.wordLen) :
    Supply.feed (⟨octets, halt⟩ :: later) (readWord untouched) =
      (some (.error (halt.stop (untouched && octets.isEmpty) octets.length Wire.wordLen)),
        later) :=
  feed_bind_of_error (feed_fill_halted untouched halt later hshort)

theorem sectional_readWord (untouched : Bool) : Sectional (readWord untouched) :=
  .bind (.fill untouched _) fun _ => .pure _

end Word

section Discard

theorem feed_discard (octets rest : Bytes) :
    Supply.feed (⟨octets ++ rest, halt⟩ :: later) (discard octets.length) =
      (some (.ok ()), ⟨rest, halt⟩ :: later) := by
  induction hn : octets.length using Nat.strongRecOn generalizing octets with
  | _ length ih =>
      subst hn
      unfold discard
      by_cases hzero : octets.length = 0
      · obtain rfl := List.length_eq_zero_iff.mp hzero
        simp
      · have hfill := feed_fill false (octets.take drainChunk) (octets.drop drainChunk ++ rest)
          halt later
        rw [← List.append_assoc, List.take_append_drop, List.length_take, Nat.min_comm] at hfill
        have hrest := ih (octets.drop drainChunk).length
          (by simp only [List.length_drop, drainChunk]; omega) (octets.drop drainChunk) rfl
        rw [List.length_drop] at hrest
        rw [if_neg hzero, feed_bind_of_ok hfill, hrest]

theorem feed_discard_halted {octets : Bytes} {length : Nat} (hshort : octets.length < length) :
    ∃ got want, Supply.feed (⟨octets, halt⟩ :: later) (discard length) =
      (some (.error (halt.stop false got want)), later) := by
  induction length using Nat.strongRecOn generalizing octets with
  | _ length ih =>
      unfold discard
      rw [if_neg (by omega)]
      by_cases hpiece : octets.length < min length drainChunk
      · exact ⟨octets.length, min length drainChunk,
          feed_bind_of_error (feed_fill_halted false halt later hpiece)⟩
      · have hfill := feed_fill false (octets.take drainChunk) (octets.drop drainChunk) halt later
        have htake : (octets.take drainChunk).length = min length drainChunk := by
          rw [List.length_take]
          omega
        rw [List.take_append_drop, htake] at hfill
        have hless : length - drainChunk < length := by
          simp only [drainChunk]
          omega
        have hleft : (octets.drop drainChunk).length < length - drainChunk := by
          rw [List.length_drop]
          omega
        obtain ⟨got, want, hrest⟩ := ih (length - drainChunk) hless hleft
        exact ⟨got, want, by rw [feed_bind_of_ok hfill, hrest]⟩

theorem sectional_discard (length : Nat) : Sectional (discard length) := by
  induction length using Nat.strongRecOn with
  | _ length ih =>
      unfold discard
      by_cases hzero : length = 0
      · rw [if_pos hzero]
        exact .pure _
      · rw [if_neg hzero]
        exact .bind (.fill _ _) fun _ =>
          ih (length - drainChunk) (by simp only [drainChunk]; omega)

end Discard

end Message

end FramedLines
