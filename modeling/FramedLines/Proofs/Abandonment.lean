import FramedLines.Proofs.Section

-- Messages with a frame that is too long: what is read past of them, and where that ends.

namespace FramedLines.Message

variable (limits : Limits) (halt : Halt) (later : Supply)

section Skip

theorem drains_iff {limits : Limits} (hdrain : limits.drainOversizeUpTo ≠ 0) {length : Nat} :
    limits.drains length = true ↔ length ≤ limits.drainOversizeUpTo.toNat := by
  simp [Limits.drains, hdrain]

theorem feed_skipFrames_front {front : List Bytes}
    (hfront : ∀ head ∈ front, Wire.fits head.length ∧ limits.drains head.length)
    (remaining : Nat) (tail : Bytes) :
    Supply.feed (⟨front.flatMap Wire.frame ++ tail, halt⟩ :: later)
        (skipFrames limits (front.length + remaining)) =
      Supply.feed (⟨tail, halt⟩ :: later) (skipFrames limits remaining) := by
  induction front with
  | nil => simp
  | cons head front ih =>
      obtain ⟨hfits, hdrains⟩ := hfront head (by simp)
      have hword := feed_readWord halt later false hfits
        (head ++ (front.flatMap Wire.frame ++ tail))
      have hdiscard := feed_discard halt later head (front.flatMap Wire.frame ++ tail)
      have hrest := ih fun other hother => hfront other (by simp [hother])
      rw [List.length_cons, Nat.add_right_comm, List.flatMap_cons, Wire.frame, List.append_assoc,
        List.append_assoc, skipFrames, feed_bind_of_ok hword, if_pos hdrains,
        feed_bind_of_ok hdiscard, hrest]

theorem feed_skipFrames_all {frames : List Bytes}
    (hframes : ∀ head ∈ frames, Wire.fits head.length ∧ limits.drains head.length)
    (rest : Bytes) :
    Supply.feed (⟨frames.flatMap Wire.frame ++ rest, halt⟩ :: later)
        (skipFrames limits frames.length) =
      (some (.ok true), ⟨rest, halt⟩ :: later) :=
  feed_skipFrames_front limits halt later hframes 0 rest

-- Skipping gets past all frames, or gives up at one that is too long, or meets the halt.
theorem skipFrames_cases (hdrain : limits.drainOversizeUpTo ≠ 0) (count : Nat) (octets : Bytes) :
    (∃ (front : List Bytes) (rest : Bytes), octets = front.flatMap Wire.frame ++ rest ∧
      front.length = count ∧ (∀ head ∈ front, Wire.fits head.length ∧ limits.drains head.length) ∧
      Supply.feed (⟨octets, halt⟩ :: later) (skipFrames limits count) =
        (some (.ok true), ⟨rest, halt⟩ :: later)) ∨
    (∃ rest, Supply.feed (⟨octets, halt⟩ :: later) (skipFrames limits count) =
      (some (.ok false), ⟨rest, halt⟩ :: later)) ∨
    ∃ got want, Supply.feed (⟨octets, halt⟩ :: later) (skipFrames limits count) =
      (some (.error (halt.stop false got want)), later) := by
  obtain ⟨front, remaining, tail, rfl, rfl, hfront, hstop⟩ :=
    Wire.exists_front limits.drainOversizeUpTo.toNat count octets
  simp only [← drains_iff hdrain] at hfront
  rw [feed_skipFrames_front limits halt later hfront]
  cases remaining with
  | zero => exact .inl ⟨front, tail, rfl, rfl, hfront, rfl⟩
  | succ remaining =>
      right
      rcases hstop with hzero | hblocked
      · exact absurd hzero (Nat.succ_ne_zero _)
      · cases hblocked with
        | noWord hshort =>
            exact .inr ⟨tail.length, Wire.wordLen,
              feed_bind_of_error (feed_readWord_halted halt later false hshort)⟩
        | @noFrame length rest hfits hbound hshort =>
            obtain ⟨got, want, hdiscard⟩ := feed_discard_halted halt later hshort
            refine .inr ⟨got, want, ?_⟩
            rw [skipFrames, feed_bind_of_ok (feed_readWord halt later false hfits rest),
              if_pos ((drains_iff hdrain).mpr hbound), feed_bind_of_error hdiscard]
        | @oversize length rest hfits hbound =>
            have hrefused : ¬limits.drains length = true := by
              rw [drains_iff hdrain]
              omega
            refine .inl ⟨rest, ?_⟩
            rw [skipFrames, feed_bind_of_ok (feed_readWord halt later false hfits rest),
              if_neg hrefused, feed_pure]

theorem sectional_skipFrames (count : Nat) : Sectional (skipFrames limits count) := by
  induction count with
  | zero => exact .pure _
  | succ count ih =>
      apply Sectional.bind (sectional_readWord false)
      intro length
      by_cases hdrains : limits.drains length = true
      · rw [if_pos hdrains]
        exact .bind (sectional_discard length) fun _ => ih
      · rw [if_neg hdrains]
        exact .pure _

end Skip

section Abandon

-- What a reader hears of a message given up at a frame of `length` octets.
def abandoned (length : Nat) (aligned : Bool) : Fault :=
  let fate := if aligned then "message drained, line aligned" else "framing lost"
  let limit := limits.maxFrameLen.toNat
  (Fault.bufferTooBig length limit).withContext
    s!"frame of {length} bytes exceeds max {limit}; {fate}"

variable {limits halt later}

theorem feed_abandon_of_not_drains {length : Nat} (hdrains : ¬limits.drains length = true)
    (remaining : Nat) (supply : Supply) :
    supply.feed (abandon limits length remaining) =
      (some (.error (.fault (abandoned limits length false))), supply) := by
  rw [abandon, if_neg hdrains]
  rfl

theorem feed_abandon_of_drains {length remaining : Nat} {supply middle rest : Supply}
    {aligned : Bool} (hdrains : limits.drains length = true)
    (hdiscard : supply.feed (discard length) = (some (.ok ()), middle))
    (hskip : middle.feed (skipFrames limits remaining) = (some (.ok aligned), rest)) :
    supply.feed (abandon limits length remaining) =
      (some (.error (.fault (abandoned limits length aligned))), rest) := by
  rw [abandon, if_pos hdrains, feed_bind_of_ok hdiscard, feed_bind_of_ok hskip]
  rfl

variable (limits halt later)

-- Giving up ends aligned behind the last frame, or out of step, or at the halt.
theorem abandon_cases (length remaining : Nat) (octets : Bytes) :
    (∃ (body : Bytes) (front : List Bytes) (rest : Bytes),
      octets = body ++ (front.flatMap Wire.frame ++ rest) ∧ body.length = length ∧
      front.length = remaining ∧ (∀ head ∈ front, Wire.fits head.length) ∧
      Supply.feed (⟨octets, halt⟩ :: later) (abandon limits length remaining) =
        (some (.error (.fault (abandoned limits length true))), ⟨rest, halt⟩ :: later)) ∨
    (∃ rest, Supply.feed (⟨octets, halt⟩ :: later) (abandon limits length remaining) =
      (some (.error (.fault (abandoned limits length false))), ⟨rest, halt⟩ :: later)) ∨
    (limits.drainOversizeUpTo ≠ 0 ∧ ∃ got want,
      Supply.feed (⟨octets, halt⟩ :: later) (abandon limits length remaining) =
        (some (.error (halt.stop false got want)), later)) := by
  by_cases hdrains : limits.drains length = true
  · have hdrain : limits.drainOversizeUpTo ≠ 0 := by
      intro hzero
      simp [Limits.drains, hzero] at hdrains
    by_cases hshort : octets.length < length
    · obtain ⟨got, want, hdiscard⟩ := feed_discard_halted halt later hshort
      refine .inr (.inr ⟨hdrain, got, want, ?_⟩)
      rw [abandon, if_pos hdrains, feed_bind_of_error hdiscard]
    · obtain ⟨body, others, rfl, rfl⟩ : ∃ body others, octets = body ++ others ∧
          length = body.length := ⟨octets.take length, octets.drop length, by simp, by simp; omega⟩
      have hdiscard := feed_discard halt later body others
      rcases skipFrames_cases limits halt later hdrain remaining others with
        ⟨front, rest, rfl, hlen, hfront, hskip⟩ | ⟨rest, hskip⟩ | ⟨got, want, hskip⟩
      · exact .inl ⟨body, front, rest, rfl, rfl, hlen, fun head hhead => (hfront head hhead).1,
          feed_abandon_of_drains hdrains hdiscard hskip⟩
      · exact .inr (.inl ⟨rest, feed_abandon_of_drains hdrains hdiscard hskip⟩)
      · refine .inr (.inr ⟨hdrain, got, want, ?_⟩)
        rw [abandon, if_pos hdrains, feed_bind_of_ok hdiscard, feed_bind_of_error hskip]
  · exact .inr (.inl ⟨octets, feed_abandon_of_not_drains hdrains remaining _⟩)

theorem sectional_abandon (length remaining : Nat) :
    Sectional (abandon limits length remaining) := by
  rw [abandon]
  by_cases hdrains : limits.drains length = true
  · rw [if_pos hdrains]
    exact .bind (sectional_discard length) fun _ =>
      .bind (sectional_skipFrames limits remaining) fun _ => .throw _
  · rw [if_neg hdrains]
    exact .throw _

end Abandon

end FramedLines.Message
