import Presidium.Lib.LittleEndian
import Presidium.Lib.Outcome

/-!
# Byte streams

The two halves of a byte stream, as programs see them, and big-endian integers.

The reading half yields the bytes that the other side has sent before it closed
the stream.  `readExact` fails when they run out.  A buffer on the heap is
`allocate`d before it is filled, and the half keeps count.  The writing half
takes everything.

`beBytes` and `ofBeBytes` undo each other, on numbers that fit the width and on
strings of that length.
-/

inductive IoError where
  | unexpectedEof
  | invalidData (text : String)
  deriving DecidableEq

/-! ## Big-endian integers -/

namespace BigEndian

open LittleEndian (leBytes)

/-- The low `width` bytes of `n`, high byte first. -/
def beBytes (width n : Nat) : List UInt8 := (leBytes width n).reverse

def ofBeBytes (bytes : List UInt8) : Nat := bytes.foldl (fun n b => 256 * n + b.toNat) 0

@[simp] theorem length_beBytes (width n : Nat) : (beBytes width n).length = width := by
  rw [beBytes, List.length_reverse, LittleEndian.length_leBytes]

theorem ofBeBytes_reverse (bytes : List UInt8) :
    ofBeBytes bytes.reverse = bytes.foldr (fun b n => 256 * n + b.toNat) 0 :=
  List.foldl_reverse

theorem ofBeBytes_beBytes {width n : Nat} (h : n < 256 ^ width) :
    ofBeBytes (beBytes width n) = n := by
  rw [beBytes, ofBeBytes_reverse]
  induction width generalizing n with
  | zero =>
    have hzero : n = 0 := by simpa using h
    rw [hzero]
    rfl
  | succ width ih =>
    have hdiv : n / 256 < 256 ^ width := by
      rw [Nat.pow_succ] at h
      exact Nat.div_lt_of_lt_mul (by omega)
    have hlow : (UInt8.ofNat n).toNat = n % 256 := UInt8.toNat_ofNat'
    rw [leBytes, List.foldr_cons, ih hdiv, hlow]
    exact Nat.div_add_mod n 256

/-- Every string is the little-endian encoding of the number it stands for. -/
theorem leBytes_foldr (bytes : List UInt8) :
    leBytes bytes.length (bytes.foldr (fun b n => 256 * n + b.toNat) 0) = bytes := by
  induction bytes with
  | nil => rfl
  | cons b bytes ih =>
    have hb := b.toNat_lt
    have hdiv : ∀ n, (256 * n + b.toNat) / 256 = n := fun n => by omega
    have hlow : ∀ n, UInt8.ofNat (256 * n + b.toNat) = b := fun n => by
      apply UInt8.toNat_inj.mp
      rw [UInt8.toNat_ofNat']
      omega
    rw [List.length_cons, leBytes, List.foldr_cons, hdiv, hlow, ih]

theorem beBytes_ofBeBytes (bytes : List UInt8) :
    beBytes bytes.length (ofBeBytes bytes) = bytes := by
  have hfold := ofBeBytes_reverse bytes.reverse
  have hbytes := leBytes_foldr bytes.reverse
  rw [List.reverse_reverse] at hfold
  rw [List.length_reverse] at hbytes
  rw [beBytes, hfold, hbytes, List.reverse_reverse]

end BigEndian

/-! ## Reading -/

/-- The bytes that are still to be read, and the heap that buffers have taken. -/
structure ReadHalf where
  unread : List UInt8
  allocated : Nat

abbrev ReadM := EStateM IoError ReadHalf

namespace ReadHalf

def allocate (n : Nat) : ReadM Unit := fun s => .ok () { s with allocated := s.allocated + n }

/-- Fill a buffer of `n` bytes.  What is left at the end of the stream is
consumed. -/
def readExact (n : Nat) : ReadM (List UInt8) := fun s =>
  if n ≤ s.unread.length then
    .ok (s.unread.take n) { s with unread := s.unread.drop n }
  else
    .error .unexpectedEof { s with unread := [] }

theorem readExact_append (bytes rest : List UInt8) (allocated : Nat) :
    readExact bytes.length ⟨bytes ++ rest, allocated⟩ = .ok bytes ⟨rest, allocated⟩ := by
  have hle : bytes.length ≤ (bytes ++ rest).length := by simp
  simp only [readExact, hle, if_true, List.take_left, List.drop_left]

theorem readExact_eq_ok {n : Nat} {s s' : ReadHalf} {bytes : List UInt8}
    (h : readExact n s = .ok bytes s') :
    bytes.length = n ∧ s.unread = bytes ++ s'.unread ∧ s'.allocated = s.allocated := by
  unfold readExact at h
  split at h
  next hle =>
    cases h
    exact ⟨List.length_take_of_le hle, (List.take_append_drop n s.unread).symm, rfl⟩
  next => cases h

theorem allocated_readExact (n : Nat) (s : ReadHalf) :
    (Outcome.state (readExact n s)).allocated = s.allocated := by
  unfold readExact
  split <;> rfl

end ReadHalf

/-! ## Writing -/

structure WriteHalf where
  written : List UInt8
  closed : Bool

abbrev WriteM := EStateM IoError WriteHalf

namespace WriteHalf

def new : WriteHalf := { written := [], closed := false }

def writeAll (bytes : List UInt8) : WriteM Unit := fun s =>
  .ok () { s with written := s.written ++ bytes }

def close : WriteM Unit := fun s => .ok () { s with closed := true }

end WriteHalf
