import Mathlib.Data.Nat.Init
import Mathlib.Tactic.Ring

/-!
# Binary formats

Texts of bytes, and the fields of a fixed width in them.

* `Block n` — `n` bytes;
* `bigEndian` — whole numbers in a fixed number of bytes.
-/

namespace ByteCodec

/-- Texts of bytes. -/
abbrev Bytes := List UInt8

/-- A fixed number of bytes. -/
abbrev Block (n : Nat) := { bytes : Bytes // bytes.length = n }

/-- A whole number, the highest byte first; what does not fit is cut off. -/
def bigEndian : Nat → Nat → Bytes
  | 0, _ => []
  | width + 1, n => UInt8.ofNat (n / 256 ^ width) :: bigEndian width (n % 256 ^ width)

theorem length_bigEndian (width n : Nat) : (bigEndian width n).length = width := by
  induction width generalizing n with
  | zero => rfl
  | succ width ih => simp [bigEndian, ih]

end ByteCodec
