import FramedLines.Connection
import FramedLines.Proofs.Supply

-- What any connection may answer to a read, over pipes or over sockets.

namespace FramedLines

theorem Fault.code_ofIo (error : IoError) :
    (Fault.ofIo error).code ≠ .bufferTooBig ∧ (Fault.ofIo error).code ≠ .invalidArgument := by
  simp only [ofIo, classify]
  split <;> decide

theorem Link.length_le_of_read? {side : End} {room : Nat} {link next : Link} {piece : Bytes}
    (hread : link.read? side room = some (.ok piece, next)) : piece.length ≤ room := by
  cases link with
  | pipes duplex =>
      simp only [read?, Duplex.read?, Pipe.read?] at hread
      split at hread
      · split at hread
        · cases hread
        · cases hread
          exact Nat.zero_le _
      · cases hread
        exact List.length_take_le _ _
  | sockets pair =>
      simp only [read?, SocketPair.read?] at hread
      split at hread
      · cases hread
        exact List.length_take_le _ _
      · split at hread
        · cases hread
        · split at hread
          · cases hread
            exact Nat.zero_le _
          · cases hread

namespace Connection

-- Octets come from the link as they are. No fault is about the size of anything, and none blames
-- who asked for some octets.
theorem read_cases {side : End} {room : Nat} {c next : Connection} {answer : Except Fault Bytes}
    (hread : c.read side room = (some answer, next)) :
    (∃ octets link, answer = .ok octets ∧ c.link.read? side room = some (.ok octets, link)) ∨
    ∃ fault, answer = .error fault ∧ fault.code ≠ .bufferTooBig ∧
      (room ≠ 0 → fault.code ≠ .invalidArgument) := by
  simp only [read, read?] at hread
  by_cases hzero : room = 0
  · rw [if_pos hzero] at hread
    cases hread
    exact .inr ⟨_, rfl, by decide, fun hsome => absurd hzero hsome⟩
  · rw [if_neg hzero] at hread
    cases hclosed : (c.line side).closed with
    | true =>
        rw [hclosed] at hread
        cases hread
        exact .inr ⟨_, rfl, by decide, fun _ => by decide⟩
    | false =>
        rw [hclosed] at hread
        rcases hlink : c.link.read? side room with _ | ⟨error | octets, link⟩
        all_goals simp only [hlink, Bool.false_eq_true, if_false, Option.map] at hread
        · split at hread
          · cases hread
            exact .inr ⟨_, rfl, (Fault.code_ofIo _).1, fun _ => (Fault.code_ofIo _).2⟩
          · cases hread
        · cases hread
          exact .inr ⟨_, rfl, (Fault.code_ofIo _).1, fun _ => (Fault.code_ofIo _).2⟩
        · cases hread
          exact .inl ⟨octets, link, rfl, rfl⟩

theorem byteLine_bounded (side : End) (spent : Nat) : (byteLine side spent).Bounded := by
  intro room c next piece hread
  rcases read_cases hread with ⟨octets, link, hpiece, hlink⟩ | ⟨fault, hfault, -⟩
  · cases hpiece
    exact Link.length_le_of_read? hlink
  · cases hfault

end Connection

end FramedLines
