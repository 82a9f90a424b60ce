import FramedLines.Proofs.Reception

-- Dialogues that pay no heed to words: answers whose faults differ in nothing but their wording
-- lead to results that differ in nothing else either.

namespace FramedLines

-- A result with the code of its fault and without its words.
def unworded (result : Except Fault α) : Except Code α := result.mapError Fault.code

@[simp] theorem unworded_ok (value : α) : unworded (.ok value) = .ok value := rfl

@[simp] theorem unworded_error (fault : Fault) :
    unworded (.error fault : Except Fault α) = .error fault.code := rfl

namespace Dialogue

-- They ask for the same octets, and come to results with the same `sense`, as long as what they
-- are answered differs in words at most.
inductive Matches (sense : α → κ) : Dialogue α → Dialogue α → Prop where
  | done {one other : α} (hsense : sense one = sense other) :
      Matches sense (.done one) (.done other)
  | read {room : Nat} {one other : Except Fault Bytes → Dialogue α}
      (hnext : ∀ answer another, unworded answer = unworded another →
        Matches sense (one answer) (other another)) :
      Matches sense (.read room one) (.read room other)

-- An answer and another that differ in words at most: the same octets, or faults of one code.
theorem Matches.read_of_cases {sense : α → κ} {room : Nat}
    {one other : Except Fault Bytes → Dialogue α}
    (hok : ∀ octets, Matches sense (one (.ok octets)) (other (.ok octets)))
    (herror : ∀ fault another : Fault, fault.code = another.code →
      Matches sense (one (.error fault)) (other (.error another))) :
    Matches sense (.read room one) (.read room other) := by
  apply Matches.read
  rintro (fault | octets) (another | others) hsame
  · exact herror fault another (Except.error.inj hsame)
  · cases hsame
  · cases hsame
  · obtain rfl : octets = others := Except.ok.inj hsame
    exact hok octets

theorem Matches.bind {sense : α → κ} {sense' : β → ι} {d e : Dialogue α} {f g : α → Dialogue β}
    (h : Matches sense d e)
    (hnext : ∀ one other, sense one = sense other → Matches sense' (f one) (g other)) :
    Matches sense' (d.bind f) (e.bind g) := by
  induction h with
  | done hsense => exact hnext _ _ hsense
  | read _ ih => exact .read ih

end Dialogue

open Dialogue (Matches)

namespace Message

-- Why a read yields no message, without words.
def Stop.code? : Stop → Option Code
  | ended => none
  | .fault met => some met.code

-- What came of a reading, without words.
def sense (result : Except Stop α) : Except (Option Code) α := result.mapError Stop.code?

theorem sense_fault {fault another : Fault} (hcode : fault.code = another.code) :
    sense (.error (.fault fault) : Except Stop α) = sense (.error (.fault another)) :=
  congrArg (fun code => Except.error (some code)) hcode

-- Whether a timeout does harm is a matter of its code.
theorem matches_collect (untouched : Bool) (want missing : Nat) (done : Bytes) :
    Matches sense (collect untouched want missing done) (collect untouched want missing done) := by
  induction missing using Nat.strongRecOn generalizing untouched done with
  | _ missing ih =>
      unfold collect
      by_cases hzero : missing = 0
      · rw [if_pos hzero]
        exact .done rfl
      · rw [if_neg hzero]
        apply Matches.read_of_cases
        · intro octets
          cases octets with
          | nil => cases untouched <;> exact .done rfl
          | cons octet piece => exact ih _ (by omega) false _
        · intro fault another hcode
          have htimeout : fault.isTimeout = another.isTimeout := by
            rw [Fault.isTimeout, Fault.isTimeout, hcode]
          simp only [htimeout]
          split <;> exact .done (sense_fault hcode)

theorem Sectional.matches_self {x : Reading α} (hx : Sectional x) : Matches sense x x := by
  induction hx with
  | pure value => exact .done rfl
  | throw stop => exact .done rfl
  | fill untouched want => exact matches_collect untouched want want []
  | bind _ _ hx hf =>
      apply Matches.bind hx
      rintro (stop | value) (another | other) hsame
      · exact .done (congrArg Except.error (Except.error.inj hsame))
      · cases hsame
      · cases hsame
      · obtain rfl : value = other := Except.ok.inj hsame
        exact hf value

-- What a reader is told has the sense of what came of the reading.
theorem unworded_account {one other : Except Stop Message} (hsame : sense one = sense other) :
    unworded (account one) = unworded (account other) := by
  rcases one with (_ | fault) | message
  · rcases other with (_ | another) | others <;> cases hsame
    rfl
  · rcases other with (_ | another) | others
    · cases hsame
    · exact congrArg Except.error (Option.some.inj (Except.error.inj hsame))
    · cases hsame
  · rcases other with (_ | another) | others <;> cases hsame
    rfl

theorem matches_receive (limits : Limits) :
    Matches unworded (receive limits) (receive limits) := by
  apply Matches.bind (sectional_readMessage limits).matches_self
  intro one other hsame
  have haccount := unworded_account hsame
  rcases one with (_ | fault) | message <;> rcases other with (_ | another) | others <;>
    exact .done haccount

end Message

end FramedLines
