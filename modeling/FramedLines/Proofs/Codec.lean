import FramedLines.Bytes.Lemmas
import FramedLines.Postcard.Varint
import Mathlib.Algebra.Group.Int.Defs

-- Codecs that are self-delimiting: a written value is read back whatever follows it, and none of
-- its beginnings is taken for a value. The parts of a value pass this on to the whole.

namespace FramedLines.Postcard

@[simp] theorem ok_bind (value : α) (next : α → Except Problem β) :
    (Except.ok value >>= next) = next value := rfl

@[simp] theorem error_bind (problem : Problem) (next : α → Except Problem β) :
    (Except.error problem >>= next) = Except.error problem := rfl

theorem takeOctets_append (octets rest : Bytes) :
    takeOctets octets.length (octets ++ rest) = .ok (octets, rest) := by
  have hsplit : Bytes.split? octets.length (octets ++ rest) = some (octets, rest) :=
    Bytes.split?_eq_some_iff.mpr ⟨rfl, rfl⟩
  rw [takeOctets, hsplit]

theorem takeOctets_of_short {count : Nat} {bytes : Bytes} (hshort : bytes.length < count) :
    takeOctets count bytes = .error .endOfBuffer := by
  rw [takeOctets, Bytes.split?_eq_none_iff.mpr hshort]

theorem length_lt_of_cut {octets front lost : Bytes} (hcut : octets = front ++ lost)
    (hlost : lost ≠ []) : front.length < octets.length := by
  have hpos := List.length_pos_iff.mpr hlost
  rw [hcut, List.length_append]
  omega

theorem not_cut_singleton {octet head : UInt8} {front lost : Bytes}
    (hcut : [octet] = head :: front ++ lost) : lost = [] := by
  simp only [List.cons_append, List.cons.injEq, List.nil_eq, List.append_eq_nil_iff] at hcut
  exact hcut.2.2

namespace Codec

-- What a codec does with the octets it has written for one value.
structure Delimits (codec : Codec α) (value : α) : Prop where
  whole : ∀ rest, codec.read (codec.write value ++ rest) = .ok (value, rest)
  cut : ∀ {front lost}, codec.write value = front ++ lost → lost ≠ [] →
    codec.read front = .error .endOfBuffer

-- A length takes 64 bits, and it is all that sets a bound to what can be written.
def Lawful (codec : Codec α) : Prop :=
  ∀ value, (codec.write value).length < 2 ^ 64 → codec.Delimits value

variable {first : Codec α} {second : Codec β} {item : Codec α}

theorem Delimits.via {codec : Codec α} {make : α → β} {view : β → α} {value : β}
    (h : codec.Delimits (view value)) (hview : make (view value) = value) :
    (codec.via make view).Delimits value where
  whole rest := by simp only [Codec.via, h.whole, Except.map, hview]
  cut hcut hlost := by simp only [Codec.via, h.cut hcut hlost, Except.map]

-- What is lost of two parts is lost of the second one, unless all of it and some of the first are
-- gone.
theorem Delimits.read_cut {head : α} {body front lost : Bytes} (h : first.Delimits head)
    (hcut : first.write head ++ body = front ++ lost) :
    first.read front = .error .endOfBuffer ∨
      ∃ kept, first.read front = .ok (head, kept) ∧ body = kept ++ lost := by
  rcases List.append_eq_append_iff.mp hcut with ⟨kept, rfl, hkept⟩ | ⟨gone, hfirst, hgone⟩
  · exact .inr ⟨kept, h.whole kept, hkept⟩
  · by_cases hnone : gone = []
    · subst hnone
      have hall := h.whole []
      rw [List.append_nil, hfirst, List.append_nil] at hall
      exact .inr ⟨[], hall, hgone.symm⟩
    · exact .inl (h.cut hfirst hnone)

-- A value that is written in two parts, the second of which is read as the first one says.
theorem Delimits.of_parts {whole : Codec β} {value : β} {head : α} {body : Bytes}
    {next : α × Bytes → Except Problem (β × Bytes)} (hhead : first.Delimits head)
    (hwrite : whole.write value = first.write head ++ body)
    (hread : ∀ bytes, whole.read bytes = first.read bytes >>= next)
    (hbody : ∀ rest, next (head, body ++ rest) = .ok (value, rest))
    (hcut : ∀ {front lost}, body = front ++ lost → lost ≠ [] →
      next (head, front) = .error .endOfBuffer) :
    whole.Delimits value := by
  constructor
  · intro rest
    rw [hwrite, hread, List.append_assoc, hhead.whole, ok_bind, hbody]
  · intro front lost hparts hlost
    rw [hwrite] at hparts
    rcases hhead.read_cut hparts with hfirst | ⟨kept, hfirst, hkept⟩
    · rw [hread, hfirst, error_bind]
    · rw [hread, hfirst, ok_bind, hcut hkept hlost]

theorem Lawful.via {codec : Codec α} (h : codec.Lawful) {make : α → β} {view : β → α}
    (hview : ∀ value, make (view value) = value) : (codec.via make view).Lawful :=
  fun value hlength => (h (view value) hlength).via (hview value)

theorem lawful_unit : unit.Lawful := by
  intro value _
  constructor
  · intro rest
    rfl
  · intro front lost hcut hlost
    exact absurd (List.append_eq_nil_iff.mp hcut.symm).2 hlost

theorem delimits_fixed {width value : Nat} (hvalue : value < 256 ^ width) :
    (fixed width).Delimits value := by
  have hlength : (Bytes.ofNat width value).length = width := Bytes.length_ofNat width value
  constructor
  · intro rest
    have htake := takeOctets_append (Bytes.ofNat width value) rest
    rw [hlength] at htake
    simp only [fixed, htake, Except.map, Bytes.toNat_ofNat, Nat.mod_eq_of_lt hvalue]
  · intro front lost hcut hlost
    have hshort : front.length < width := hlength ▸ length_lt_of_cut hcut hlost
    simp only [fixed, takeOctets_of_short hshort, Except.map]

theorem Delimits.pair {one : α} {other : β} (hfirst : first.Delimits one)
    (hsecond : second.Delimits other) : (pair first second).Delimits (one, other) := by
  apply hfirst.of_parts rfl (fun _ => rfl)
  · intro rest
    simp only [hsecond.whole, ok_bind]
    rfl
  · intro front lost hcut hlost
    simp only [hsecond.cut hcut hlost, error_bind]

theorem Lawful.pair (hfirst : first.Lawful) (hsecond : second.Lawful) :
    (pair first second).Lawful := by
  rintro ⟨one, other⟩ hlength
  simp only [Codec.pair, List.length_append] at hlength
  exact (hfirst one (by omega)).pair (hsecond other (by omega))

theorem Lawful.optional (hitem : item.Lawful) : (optional item).Lawful := by
  intro value hlength
  cases value with
  | none =>
      constructor
      · intro rest
        rfl
      · intro front lost hcut hlost
        cases front with
        | nil => rfl
        | cons flag front => exact absurd (not_cut_singleton hcut) hlost
  | some value =>
      simp only [Codec.optional, List.length_cons] at hlength
      have hvalue := hitem value (by omega)
      constructor
      · intro rest
        simp [Codec.optional, hvalue.whole, Except.map]
      · intro front lost hcut hlost
        cases front with
        | nil => rfl
        | cons flag front =>
            simp only [Codec.optional, List.cons_append, List.cons.injEq] at hcut
            obtain ⟨rfl, hrest⟩ := hcut
            simp [Codec.optional, hvalue.cut hrest hlost, Except.map]

section Items

variable {items : List α}

-- Items that are each read back as written are so in a row as well.
theorem readItems_flatMap (hitems : ∀ value ∈ items, item.Delimits value) (done : List α)
    (rest : Bytes) :
    readItems item items.length done (items.flatMap item.write ++ rest) =
      .ok (done.reverse ++ items, rest) := by
  induction items generalizing done with
  | nil => simp [readItems]
  | cons value items ih =>
      have hvalue := (hitems value (by simp)).whole (items.flatMap item.write ++ rest)
      have hrest := ih (fun other hother => hitems other (by simp [hother])) (value :: done)
      simp only [List.length_cons, List.flatMap_cons, List.append_assoc, readItems, hvalue, hrest,
        List.reverse_cons, List.singleton_append]

theorem readItems_cut (hitems : ∀ value ∈ items, item.Delimits value) (done : List α)
    {front lost : Bytes} (hcut : items.flatMap item.write = front ++ lost) (hlost : lost ≠ []) :
    readItems item items.length done front = .error .endOfBuffer := by
  induction items generalizing done front with
  | nil => exact absurd (List.append_eq_nil_iff.mp hcut.symm).2 hlost
  | cons value items ih =>
      have hrest := ih fun other hother => hitems other (by simp [hother])
      rw [List.flatMap_cons] at hcut
      rcases (hitems value (by simp)).read_cut hcut with hfirst | ⟨kept, hfirst, hkept⟩
      · simp only [List.length_cons, readItems, hfirst]
      · simp only [List.length_cons, readItems, hfirst, hrest (value :: done) hkept]

theorem delimits_counted {count : Codec Nat} (hcount : count.Delimits items.length)
    (hitems : ∀ value ∈ items, item.Delimits value) : (counted count item).Delimits items :=
  hcount.of_parts rfl (fun _ => rfl) (readItems_flatMap hitems []) (readItems_cut hitems [])

-- A value takes some octets itself when no octets are read as one.
theorem Delimits.write_ne_nil {value : α} (h : item.Delimits value)
    (hempty : item.read [] = .error .endOfBuffer) : item.write value ≠ [] := by
  intro hnil
  have hwhole := h.whole []
  rw [hnil, List.append_nil, hempty] at hwhole
  cases hwhole

end Items

end Codec

namespace Varint

theorem toNat_more (value : Nat) : (UInt8.ofNat (128 + value % 128)).toNat = 128 + value % 128 := by
  rw [UInt8.toNat_ofNat']
  omega

theorem readFrom_write {lastLimit places value : Nat} (hlast : lastLimit ≤ 128)
    (hvalue : value < 128 ^ places * lastLimit) (rest : Bytes) :
    readFrom lastLimit (places + 1) (write (places + 1) value ++ rest) = .ok (value, rest) := by
  induction places generalizing value with
  | zero =>
      have hlimit : value < lastLimit := by simpa using hvalue
      have hsmall : value < 128 := by omega
      have hoctet : value % 256 = value := by omega
      simp [write, readFrom, hsmall, hoctet, hlimit]
  | succ places ih =>
      by_cases hsmall : value < 128
      · have hoctet : value % 256 = value := by omega
        simp [write, readFrom, hsmall, hoctet]
      · have hhigh : value / 128 < 128 ^ places * lastLimit := by
          apply Nat.div_lt_of_lt_mul
          rwa [Nat.pow_succ', Nat.mul_assoc] at hvalue
        have hjoin : (128 + value % 128) % 128 + 128 * (value / 128) = value := by omega
        rw [write, if_neg hsmall, List.cons_append, readFrom, toNat_more, if_neg (by omega),
          ih hhigh]
        simp only [hjoin]

theorem readFrom_cut {lastLimit places value : Nat} {front lost : Bytes}
    (hcut : write places value = front ++ lost) (hlost : lost ≠ []) :
    readFrom lastLimit places front = .error .endOfBuffer := by
  induction places generalizing value front with
  | zero =>
      have hnil : front ++ lost = [] := hcut.symm
      exact absurd (List.append_eq_nil_iff.mp hnil).2 hlost
  | succ places ih =>
      cases front with
      | nil => rfl
      | cons octet front =>
          by_cases hsmall : value < 128
          · rw [write, if_pos hsmall] at hcut
            exact absurd (not_cut_singleton hcut) hlost
          · rw [write, if_neg hsmall, List.cons_append, List.cons.injEq] at hcut
            obtain ⟨rfl, hrest⟩ := hcut
            rw [readFrom, toNat_more, if_neg (by omega), ih hrest]

theorem delimits {bits value : Nat} (hbits : 0 < bits) (hvalue : value < 2 ^ bits) :
    (codec bits).Delimits value := by
  obtain ⟨last, hplaces, hlow, hhigh⟩ :
      ∃ last, places bits = last + 1 ∧ 7 * last ≤ bits ∧ bits - 7 * last ≤ 7 :=
    ⟨places bits - 1, by simp only [places]; omega⟩
  have hlimit : 1 <<< (bits - 7 * last) ≤ 128 := by
    rw [Nat.one_shiftLeft]
    exact Nat.pow_le_pow_right (by decide) hhigh
  have hbound : 128 ^ last * 1 <<< (bits - 7 * last) = 2 ^ bits := by
    rw [Nat.one_shiftLeft, show (128 : Nat) = 2 ^ 7 by rfl, ← Nat.pow_mul, ← Nat.pow_add,
      Nat.add_sub_cancel' hlow]
  constructor
  · intro rest
    simp only [codec, hplaces, Nat.add_sub_cancel]
    exact readFrom_write hlimit (by rwa [hbound]) rest
  · intro front lost hcut hlost
    exact readFrom_cut hcut hlost

theorem unzigzag_zigzag (value : Int) : unzigzag (zigzag value) = value := by
  unfold zigzag unzigzag
  split <;> split <;> omega

theorem zigzag_lt {bits : Nat} {value : Int} (hlow : -2 ^ bits ≤ value) (hhigh : value < 2 ^ bits) :
    zigzag value < 2 ^ (bits + 1) := by
  have hpow : ((2 ^ bits : Nat) : Int) = 2 ^ bits := by simp
  rw [zigzag, Nat.pow_succ]
  split <;> omega

end Varint

end FramedLines.Postcard
