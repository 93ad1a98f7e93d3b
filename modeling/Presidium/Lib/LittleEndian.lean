import Mathlib.Tactic.Ring
import Mathlib.Data.Nat.Basic

/-!
# Little-endian integers of a fixed width

`leBytes width n` is the `width`-byte little-endian encoding of `n`, that is
`to_le_bytes` of an unsigned integer of that many bytes.  A value above the
range keeps its low bytes only.  So the encoding is injective below
`256 ^ width`, and `leBytes_inj` carries that bound as a hypothesis.

The recursion emits the low byte first.  Every proof is the induction on the
width.
-/

namespace LittleEndian

/-- The low `width` bytes of `n`, low byte first. -/
def leBytes : Nat → Nat → List UInt8
  | 0, _ => []
  | width + 1, n => UInt8.ofNat n :: leBytes width (n / 256)

@[simp] theorem length_leBytes (width n : Nat) : (leBytes width n).length = width := by
  induction width generalizing n with
  | zero => rfl
  | succ width ih => rw [leBytes, List.length_cons, ih]

/-- Equal encodings come from numbers that agree below `256 ^ width`. -/
theorem leBytes_inj_mod (width : Nat) {n m : Nat} (h : leBytes width n = leBytes width m) :
    n % 256 ^ width = m % 256 ^ width := by
  induction width generalizing n m with
  | zero => simp [Nat.mod_one]
  | succ width ih =>
    simp only [leBytes, List.cons.injEq] at h
    obtain ⟨hlow, hrest⟩ := h
    have hlow' : n % 256 = m % 256 := by
      have := congrArg UInt8.toNat hlow
      simpa using this
    rw [Nat.pow_succ, Nat.mul_comm, Nat.mod_mul, Nat.mod_mul, hlow', ih hrest]

/-- The encoding is injective on the numbers that fit the width. -/
theorem leBytes_inj {width n m : Nat} (hn : n < 256 ^ width) (hm : m < 256 ^ width)
    (h : leBytes width n = leBytes width m) : n = m := by
  have hmod := leBytes_inj_mod width h
  rwa [Nat.mod_eq_of_lt hn, Nat.mod_eq_of_lt hm] at hmod

end LittleEndian
