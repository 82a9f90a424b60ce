import FramedLines.Message.Typed
import FramedLines.Proofs.Accessors
import FramedLines.Proofs.Dispatch
import FramedLines.Proofs.Postcard
import FramedLines.Proofs.Reception
import FramedLines.Proofs.Script

-- Values in the compact format among other frames of a message, from the sender's calls to the
-- reader's.

namespace FramedLines

-- What a sender adds to a message: octets as they are, or a value.
inductive Parcel where
  | raw (frame : Bytes)
  | compact (kind : Kind) (value : kind.Carrier)

-- The octets that become the frame.
def Parcel.frame : Parcel → Bytes
  | raw frame => frame
  | compact _ value => Postcard.encode value

namespace Message

def addParcel (message : Message) : Parcel → Message
  | .raw frame => message.add frame
  | .compact _ value => message.addPostcard value

def addParcels (message : Message) (parcels : List Parcel) : Message :=
  parcels.foldl addParcel message

theorem frames_addParcels (message : Message) (parcels : List Parcel) :
    (message.addParcels parcels).frames = message.frames ++ parcels.map Parcel.frame := by
  induction parcels generalizing message with
  | nil => simp [addParcels]
  | cons parcel parcels ih =>
      have hone : (message.addParcel parcel).frames = message.frames ++ [parcel.frame] := by
        cases parcel <;> rfl
      have hrest := ih (message.addParcel parcel)
      rw [hone, List.append_assoc, List.singleton_append] at hrest
      exact hrest

theorem frame?_addParcels_of_lt {message : Message} {index : Nat} (hindex : index < message.length)
    (parcels : List Parcel) : (message.addParcels parcels).frame? index = message.frame? index := by
  rw [frame?, frames_addParcels, List.getElem?_append_left hindex]
  rfl

theorem frame?_addParcels (message : Message) {parcels : List Parcel} {index : Nat}
    {parcel : Parcel} (hparcel : parcels[index]? = some parcel) :
    (message.addParcels parcels).frame? (message.length + index) = some parcel.frame := by
  rw [frame?, frames_addParcels, length, List.getElem?_append_right (Nat.le_add_right _ _),
    Nat.add_sub_cancel_left, List.getElem?_map, hparcel]
  rfl

section Values

variable {message : Message} {index : Nat} {kind : Kind} {value : kind.Carrier}

-- What follows the value in its frame does not matter.
theorem getPostcard_append {more : Bytes} (hlength : (Postcard.encode value).length < 2 ^ 64)
    (hframe : message.frame? index = some (Postcard.encode value ++ more)) :
    message.getPostcard kind index = .ok value := by
  have hdecode := Postcard.decode_encode_append hlength more
  simp only [getPostcard, frameAt_eq_ok_iff.mpr hframe, bind, Except.bind, hdecode]
  rfl

theorem getPostcard_cut {front lost : Bytes} (hlength : (Postcard.encode value).length < 2 ^ 64)
    (hcut : Postcard.encode value = front ++ lost) (hlost : lost ≠ [])
    (hframe : message.frame? index = some front) :
    message.getPostcard kind index =
      .error (Fault.ofCodec .postcardDecode Postcard.Problem.endOfBuffer.text) := by
  have hdecode := Postcard.decode_cut hlength hcut hlost
  simp only [getPostcard, frameAt_eq_ok_iff.mpr hframe, bind, Except.bind, hdecode]
  rfl

end Values

-- A message with a wire form holds no frame that a length of the compact format could not say.
theorem length_encode_lt {message : Message} {parcels : List Parcel} {kind : Kind}
    {value : kind.Carrier} (hw : (message.addParcels parcels).Writable)
    (hparcel : .compact kind value ∈ parcels) : (Postcard.encode value).length < 2 ^ 64 := by
  have hframe : Postcard.encode value ∈ (message.addParcels parcels).frames := by
    rw [frames_addParcels]
    exact List.mem_append_right _ (List.mem_map_of_mem hparcel)
  have hfits := Wire.fits_iff.mp (hw.2 _ hframe)
  exact Nat.lt_trans hfits (by decide)

-- Sent over a line that takes a write whole and read off a line that brings the same octets in
-- whatever pieces, a message is there with every value and every other frame. And each value
-- delimits itself in its frame: octets behind it do not matter, and no beginning of it will do.
theorem parcels_survive {sender receiver : Limits} {message : Message} {parcels : List Parcel}
    (hw : (message.addParcels parcels).Writable)
    (hsender : sender.Admits (message.addParcels parcels))
    (hreceiver : receiver.Admits (message.addParcels parcels)) :
    let octets := (message.addParcels parcels).wire
    (∀ {τ : Type} {out : ByteLine τ} {before after : τ},
      out.write octets before = (some (.ok ⟨octets.length, octets.length⟩), after) →
        ((message.addParcels parcels).send sender).run out before = (some (.ok ()), after)) ∧
    (∀ {σ : Type} {line : ByteLine σ} {state : σ} {rest : Bytes} {halt : Halt} {later : Supply},
      line.Carries state (⟨octets ++ rest, halt⟩ :: later) →
        ∃ got next, (receive receiver).run line state = (some (.ok (some got)), next) ∧
          line.Carries next (⟨rest, halt⟩ :: later) ∧
          got.length = message.length + parcels.length ∧
          (∀ index < message.length, got.frame? index = message.frame? index) ∧
          (∀ index frame, parcels[index]? = some (.raw frame) →
            got.frame? (message.length + index) = some frame) ∧
          ∀ index kind value, parcels[index]? = some (.compact kind value) →
            got.getPostcard kind (message.length + index) = .ok value) ∧
    ∀ kind value, .compact kind value ∈ parcels →
      ∀ (other : Message) (index : Nat),
        (∀ more, other.frame? index = some (Postcard.encode value ++ more) →
          other.getPostcard kind index = .ok value) ∧
        ∀ front lost, Postcard.encode value = front ++ lost → lost ≠ [] →
          other.frame? index = some front →
            ∃ fault, other.getPostcard kind index = .error fault ∧
              fault.code = .postcardDecode := by
  intro octets
  refine ⟨?_, ?_, ?_⟩
  · intro τ out before after hwrite
    rw [send_of_admits hw hsender, Dialogue.run, hwrite]
    simp [Dialogue.run, sendResult, WriteOutcome.isShort]
  · intro σ line state rest halt later hcarries
    have hfeed := feed_receive_whole receiver halt later hw hreceiver rest
    obtain ⟨next, hrun, hnext⟩ := hcarries.run (seamless_receive receiver) hfeed
    refine ⟨message.addParcels parcels, next, hrun, hnext, ?_, ?_, ?_, ?_⟩
    · simp [length, frames_addParcels]
    · intro index hindex
      exact frame?_addParcels_of_lt hindex parcels
    · intro index frame hparcel
      exact frame?_addParcels message hparcel
    · intro index kind value hparcel
      have hlength := length_encode_lt hw (List.mem_of_getElem? hparcel)
      have hframe := frame?_addParcels message hparcel
      rw [Parcel.frame, ← List.append_nil (Postcard.encode value)] at hframe
      exact getPostcard_append hlength hframe
  · intro kind value hparcel other index
    have hlength := length_encode_lt hw hparcel
    constructor
    · intro more hframe
      exact getPostcard_append hlength hframe
    · intro front lost hcut hlost hframe
      exact ⟨_, getPostcard_cut hlength hcut hlost hframe, rfl⟩

-- Three octets at a time, with one octet more behind the message.
theorem parcels_survive_small_pieces :
    let message : Message := ⟨[[222, 173]]⟩
    let parcels : List Parcel := [.compact .i64 (-2 : Int64), .raw [],
      .compact .command (.setGain 500), .compact .strings ["", "é"]]
    let octets := (message.addParcels parcels).wire
    let script : Script :=
      { events := [.data (octets.take 7), .data (octets.drop 7), .data [9]], chunk := some 3 }
    ((message.addParcels parcels).send {}).run Script.line {} =
      (some (.ok ()), { accepted := octets }) ∧
    (∃ got next, (receive {}).run Script.line script = (some (.ok (some got)), next) ∧
      got.getPostcard .i64 1 = .ok (-2 : Int64) ∧ got.frame? 2 = some [] ∧
      got.getPostcard .command 3 = .ok (.setGain 500) ∧
      got.getPostcard .strings 4 = .ok ["", "é"]) ∧
    ∃ fault, (⟨[[1, 244]]⟩ : Message).getPostcard .command 0 = .error fault ∧
      fault.code = .postcardDecode := by
  intro message parcels octets script
  have hw : (message.addParcels parcels).Writable := by decide +kernel
  have hadmits : ({} : Limits).Admits (message.addParcels parcels) :=
    ⟨by decide +kernel, by decide +kernel⟩
  have hcarries : Script.line.Carries script [⟨octets ++ [9], .ended⟩] := by
    have hsupply : script.supply = [⟨octets ++ [9], .ended⟩] := by decide +kernel
    rw [← hsupply, ← List.append_nil script.supply]
    exact Script.carries (by decide) 0
  obtain ⟨hsend, hreceive, hcut⟩ := parcels_survive hw hadmits hadmits
  obtain ⟨got, next, hrun, -, -, -, hraw, hcompact⟩ := hreceive hcarries
  refine ⟨hsend rfl, ⟨got, next, hrun, ?_, ?_, ?_, ?_⟩, ?_⟩
  · exact hcompact 0 .i64 (-2 : Int64) rfl
  · exact hraw 1 [] rfl
  · exact hcompact 2 .command (.setGain 500) rfl
  · exact hcompact 3 .strings ["", "é"] rfl
  · exact (hcut .command (.setGain 500) (by simp [parcels]) ⟨[[1, 244]]⟩ 0).2 [1, 244] [3]
      (by decide +kernel) (by decide) rfl

end Message

end FramedLines
