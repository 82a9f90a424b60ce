import FramedLines.Duplex

-- The two pipes of an in-process connection: what reads take off them, what writes put into them,
-- and what each operation leaves alone.

namespace FramedLines

theorem End.eq_or_eq_other (one two : End) : one = two ∨ one = two.other := by
  cases one <;> cases two <;> simp [other]

@[simp] theorem End.ne_other (side : End) : side ≠ side.other := by cases side <;> simp [other]

@[simp] theorem End.other_ne (side : End) : side.other ≠ side := by cases side <;> simp [other]

@[simp] theorem End.other_other (side : End) : side.other.other = side := by cases side <;> rfl

namespace Pipe

variable {pipe next : Pipe}

-- A pipe with these octets behind the ones in it.
def put (data : Bytes) (pipe : Pipe) : Pipe := { pipe with buffer := pipe.buffer ++ data }

@[simp] theorem put_nil (pipe : Pipe) : pipe.put [] = pipe := by simp [put]

@[simp] theorem put_put (data more : Bytes) (pipe : Pipe) :
    (pipe.put data).put more = pipe.put (data ++ more) := by
  simp [put]

@[simp] theorem connected_put (data : Bytes) (pipe : Pipe) :
    (pipe.put data).connected = pipe.connected := rfl

-- What a read takes is what comes first in the pipe.
theorem read?_cases {room : Nat} {octets : Bytes}
    (hread : pipe.read? room = some (octets, next)) :
    ∃ rest, pipe.buffer = octets ++ rest ∧ next = { pipe with buffer := rest } := by
  unfold read? at hread
  split at hread
  · next hempty =>
      split at hread
      · cases hread
      · cases hread
        exact ⟨[], by simpa using hempty, by rw [← List.isEmpty_iff.mp hempty]⟩
  · cases hread
    exact ⟨pipe.buffer.drop room, (List.take_append_drop room pipe.buffer).symm, rfl⟩

-- What a write puts in is as much of the data as there is space for.
theorem write?_cases {data : Bytes} {result : Except IoError Nat}
    (hwrite : pipe.write? data = some (result, next)) :
    (pipe.connected = false ∧ result = .error (.bare .brokenPipe) ∧ next = pipe) ∨
    ∃ count, result = .ok count ∧ count = min pipe.space data.length ∧ (count = 0 → data = []) ∧
      next = pipe.put (data.take count) := by
  unfold write? at hwrite
  split at hwrite
  · next hempty =>
      cases hwrite
      have hdata := List.isEmpty_iff.mp hempty
      exact .inr ⟨0, rfl, by simp [hdata], fun _ => hdata, by simp⟩
  · split at hwrite
    · next hbroken =>
        cases hwrite
        exact .inl ⟨by simpa using hbroken, rfl, rfl⟩
    · split at hwrite
      · cases hwrite
      · next hspace =>
          cases hwrite
          refine .inr ⟨_, rfl, by simp, fun hzero => ?_, by simp [put]⟩
          simpa [hspace] using hzero

end Pipe

namespace Duplex

variable (duplex : Duplex) (side viewer : End)

theorem half_setHalf (half : Half) :
    (duplex.setHalf side half).half viewer =
      if side = viewer then half else duplex.half viewer := by
  cases side <;> cases viewer <;> rfl

theorem incoming_setHalf (half : Half) :
    (duplex.setHalf side half).incoming viewer =
      if side = viewer then half.incoming else duplex.incoming viewer := by
  cases side <;> cases viewer <;> rfl

@[simp] theorem incoming_setReadLimit (limit : Option Duration) :
    (duplex.setReadLimit side limit).incoming viewer = duplex.incoming viewer := by
  cases side <;> cases viewer <;> rfl

@[simp] theorem incoming_setWriteLimit (limit : Option Duration) :
    (duplex.setWriteLimit side limit).incoming viewer = duplex.incoming viewer := by
  cases side <;> cases viewer <;> rfl

@[simp] theorem outgoing_setWriteLimit (limit : Option Duration) :
    (duplex.setWriteLimit side limit).outgoing viewer = duplex.outgoing viewer :=
  incoming_setWriteLimit duplex side viewer.other limit

@[simp] theorem writeLimit_setWriteLimit (limit : Option Duration) :
    ((duplex.setWriteLimit side limit).half side).writeLimit = limit := by
  cases side <;> rfl

@[simp] theorem readLimit_setWriteLimit (limit : Option Duration) :
    ((duplex.setWriteLimit side limit).half viewer).readLimit = (duplex.half viewer).readLimit := by
  cases side <;> cases viewer <;> rfl

@[simp] theorem incoming_setIncoming (pipe : Pipe) :
    (duplex.setIncoming side pipe).incoming side = pipe := by
  cases side <;> rfl

@[simp] theorem incoming_setIncoming_other (pipe : Pipe) :
    (duplex.setIncoming side.other pipe).incoming side = duplex.incoming side := by
  cases side <;> rfl

@[simp] theorem outgoing_setIncoming (pipe : Pipe) :
    (duplex.setIncoming side pipe).outgoing side = duplex.outgoing side := by
  cases side <;> rfl

@[simp] theorem outgoing_setIncoming_other (pipe : Pipe) :
    (duplex.setIncoming side.other pipe).outgoing side = pipe := by
  cases side <;> rfl

@[simp] theorem readLimit_setIncoming (pipe : Pipe) :
    ((duplex.setIncoming side pipe).half viewer).readLimit = (duplex.half viewer).readLimit := by
  cases side <;> cases viewer <;> rfl

@[simp] theorem setIncoming_setIncoming (pipe next : Pipe) :
    (duplex.setIncoming side pipe).setIncoming side next = duplex.setIncoming side next := by
  cases side <;> rfl

@[simp] theorem setIncoming_incoming :
    duplex.setIncoming side (duplex.incoming side) = duplex := by
  cases side <;> rfl

@[simp] theorem setIncoming_outgoing :
    duplex.setIncoming side.other (duplex.outgoing side) = duplex :=
  setIncoming_incoming duplex side.other

@[simp] theorem incoming_disconnect :
    duplex.disconnect.incoming side = (duplex.incoming side).disconnect := by
  cases side <;> rfl

@[simp] theorem outgoing_disconnect :
    duplex.disconnect.outgoing side = (duplex.outgoing side).disconnect :=
  incoming_disconnect duplex side.other

theorem half_disconnect :
    duplex.disconnect.half side =
      { duplex.half side with incoming := (duplex.incoming side).disconnect } := by
  cases side <;> rfl

@[simp] theorem readLimit_disconnect :
    (duplex.disconnect.half side).readLimit = (duplex.half side).readLimit := by
  rw [half_disconnect]

end Duplex

end FramedLines
