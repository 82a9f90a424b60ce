import FramedLines.Bytes
import Mathlib.Algebra.Group.Nat.Defs

-- Which numbers a run of octets of a given width can hold: those below 256 ^ width, each once.

namespace FramedLines.Bytes

theorem toNat_ofNat (width value : Nat) : toNat (ofNat width value) = value % 256 ^ width := by
  induction width generalizing value with
  | zero => simp [ofNat, toNat, Nat.mod_one]
  | succ width ih =>
      simp only [ofNat, toNat, ih, UInt8.toNat_ofNat', Nat.pow_succ']
      exact Nat.mod_mul.symm

theorem toNat_lt (bytes : Bytes) : toNat bytes < 256 ^ bytes.length := by
  rw [← ofNat_toNat bytes, toNat_ofNat, length_ofNat]
  exact Nat.mod_lt _ (Nat.pow_pos (by decide))

end FramedLines.Bytes
