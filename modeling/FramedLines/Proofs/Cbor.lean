import FramedLines.Message.Typed
import FramedLines.Proofs.Forms
import FramedLines.Proofs.Parcels

-- Values as CBOR in the frames of a message: they come back as they were, and neither less nor
-- more than their octets will do.

namespace FramedLines

namespace Cbor

section Frames

variable {kind : Kind} {value : kind.Carrier}

theorem plain_toItem (kind : Kind) (value : kind.Carrier) :
    Item.Plain Item.deepest ((form kind).toItem value) := by
  obtain ⟨got, hkeeps, -⟩ := Form.exists_keeps kind value
  exact hkeeps.plain 124

theorem exists_decode?_encode (hlength : (encode value).length < 2 ^ 64) :
    ∃ got, decode? kind (encode value) = some got ∧ kind.Alike value got := by
  obtain ⟨got, hkeeps, halike⟩ := Form.exists_keeps kind value
  refine ⟨got, ?_, halike⟩
  rw [decode?, encode, (plain_toItem kind value).parse?_write hlength, Option.bind_some]
  exact hkeeps.back

theorem decode?_append (hlength : (encode value).length < 2 ^ 64) {more : Bytes}
    (hmore : more ≠ []) : decode? kind (encode value ++ more) = none := by
  rw [decode?, encode, (plain_toItem kind value).parse?_append hlength hmore, Option.bind_none]

theorem decode?_cut (hlength : (encode value).length < 2 ^ 64) {front lost : Bytes}
    (hcut : encode value = front ++ lost) (hlost : lost ≠ []) : decode? kind front = none := by
  rw [decode?, (plain_toItem kind value).parse?_cut hlength hcut hlost, Option.bind_none]

end Frames

end Cbor

namespace Message

variable {message : Message} {index : Nat} {kind : Kind} {frame : Bytes}

theorem getCbor_of_decode? {value : kind.Carrier} (hframe : message.frame? index = some frame)
    (hvalue : Cbor.decode? kind frame = some value) : message.getCbor kind index = .ok value := by
  simp only [getCbor, frameAt_eq_ok_iff.mpr hframe, bind, Except.bind, hvalue]
  rfl

theorem getCbor_of_none (hframe : message.frame? index = some frame)
    (hnone : Cbor.decode? kind frame = none) :
    ∃ fault, message.getCbor kind index = .error fault ∧ fault.code = .cborDecode := by
  refine ⟨{ code := .cborDecode }, ?_, rfl⟩
  simp only [getCbor, frameAt_eq_ok_iff.mpr hframe, bind, Except.bind, hnone]
  rfl

-- A value is added in one more frame and comes back from there, as long as its octets are no more
-- than the head of an item can count. Floats stand in the least room that is enough for them. None
-- of the octets may be missing, and none may be added.
theorem cbor_comes_back (message : Message) {kind : Kind} {value : kind.Carrier}
    (hlength : (Cbor.encode value).length < 2 ^ 64) :
    let added := message.addCbor value
    (added.frames = message.frames ++ [Cbor.encode value] ∧
      ∃ got, added.getCbor kind message.length = .ok got ∧ kind.Alike value got) ∧
    ((∀ number : Single, Cbor.Item.Shortest (FloatFormat.single.decode number.bits.toNat)
        (Cbor.Form.single.toItem number)) ∧
      ∀ number : Double, Cbor.Item.Shortest (FloatFormat.double.decode number.bits.toNat)
        (Cbor.Form.double.toItem number)) ∧
    ∀ (other : Message) (index : Nat),
      (∀ front, front <+: Cbor.encode value → front ≠ Cbor.encode value →
        other.frame? index = some front →
          ∃ fault, other.getCbor kind index = .error fault ∧ fault.code = .cborDecode) ∧
      ∀ more, more ≠ [] → other.frame? index = some (Cbor.encode value ++ more) →
        ∃ fault, other.getCbor kind index = .error fault ∧ fault.code = .cborDecode := by
  intro added
  refine ⟨⟨rfl, ?_⟩, ⟨?_, ?_⟩, ?_⟩
  · obtain ⟨got, hgot, halike⟩ := Cbor.exists_decode?_encode hlength
    have hframe : added.frame? message.length = some (Cbor.encode value) :=
      List.getElem?_concat_length
    exact ⟨got, getCbor_of_decode? hframe hgot, halike⟩
  · intro number
    exact Cbor.Form.shortest_singleItem number.bits.toNat_lt
  · intro number
    exact Cbor.Form.shortest_doubleItem number.bits.toNat_lt
  · intro other index
    constructor
    · rintro front ⟨lost, hcut⟩ hstrict hframe
      have hlost : lost ≠ [] := by
        rintro rfl
        exact hstrict (by rw [← hcut, List.append_nil])
      exact getCbor_of_none hframe (Cbor.decode?_cut hlength hcut.symm hlost)
    · intro more hmore hframe
      exact getCbor_of_none hframe (Cbor.decode?_append hlength hmore)

-- A NaN with a payload, the least number there is, a negative zero and a tenth.
theorem cbor_telemetry_comes_back :
    let value : Telemetry := ⟨42, "sensor_alpha", [⟨0x7FC00001⟩, ⟨1⟩, ⟨0x80000000⟩, ⟨0x3DCCCCCD⟩]⟩
    let octets := @Cbor.encode .telemetry value
    octets.length = 49 ∧
    (∃ got, (@addCbor ⟨[[1, 2]]⟩ .telemetry value).getCbor .telemetry 1 = .ok got ∧
      value.Alike got) ∧
    (∃ fault, (⟨[octets.dropLast]⟩ : Message).getCbor .telemetry 0 = .error fault ∧
      fault.code = .cborDecode) ∧
    ∃ fault, (⟨[octets ++ [0]]⟩ : Message).getCbor .telemetry 0 = .error fault ∧
      fault.code = .cborDecode := by
  intro value octets
  have hcount : octets.length = 49 := by decide +kernel
  have hlength : octets.length < 2 ^ 64 := hcount ▸ (by decide)
  obtain ⟨⟨-, hback⟩, -, hother⟩ :=
    @cbor_comes_back ⟨[[1, 2]]⟩ .telemetry value hlength
  refine ⟨hcount, hback, ?_, ?_⟩
  · exact (hother _ 0).1 octets.dropLast octets.dropLast_prefix (by decide +kernel) rfl
  · exact (hother _ 0).2 [0] (by decide) rfl

end Message

end FramedLines
