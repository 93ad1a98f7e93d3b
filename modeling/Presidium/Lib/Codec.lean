import Mathlib.Tactic.Common

/-!
# Self-delimiting codecs

A `Codec α` writes a value as bytes and reads it back off the front of any
longer string.  The law is a field, so a codec cannot be built without it, and
codecs compose by concatenation: the reader of the first part leaves exactly
what the writer of the second part wrote.

`encode_append_inj` is the use of the law as injectivity.  It takes apart a
concatenation of encodings without looking into any of them.
-/

/-- A byte encoding that marks its own end. -/
structure Codec (α : Type) where
  encode : α → List UInt8
  decode : List UInt8 → Option (α × List UInt8)
  decode_encode : ∀ x rest, decode (encode x ++ rest) = some (x, rest)

namespace Codec

variable {α β : Type}

theorem encode_append_inj (C : Codec α) {x y : α} {r t : List UInt8}
    (h : C.encode x ++ r = C.encode y ++ t) : x = y ∧ r = t := by
  have hx := C.decode_encode x r
  rw [h, C.decode_encode y t] at hx
  simpa using (Option.some.inj hx).symm

theorem encode_inj (C : Codec α) {x y : α} (h : C.encode x = C.encode y) : x = y :=
  (C.encode_append_inj (congrArg (· ++ []) h)).1

/-- One byte. -/
def byte : Codec UInt8 where
  encode b := [b]
  decode
    | [] => none
    | b :: rest => some (b, rest)
  decode_encode _ _ := rfl

/-- A natural number in unary. -/
def nat : Codec Nat where
  encode n := List.replicate n 1 ++ [0]
  decode bs := some ((bs.takeWhile (· == 1)).length, (bs.dropWhile (· == 1)).drop 1)
  decode_encode n rest := by
    have htake : (List.replicate n (1 : UInt8) ++ [0] ++ rest).takeWhile (· == 1) =
        List.replicate n 1 := by simp
    have hdrop : (List.replicate n (1 : UInt8) ++ [0] ++ rest).dropWhile (· == 1) =
        0 :: rest := by simp
    rw [htake, hdrop, List.length_replicate, List.drop_one, List.tail_cons]

/-- The codec of a type that embeds into a coded one. -/
def comap (C : Codec β) (f : α → β) (g : β → Option α) (h : ∀ x, g (f x) = some x) :
    Codec α where
  encode x := C.encode (f x)
  decode bs :=
    match C.decode bs with
    | none => none
    | some (y, rest) => (g y).map (·, rest)
  decode_encode x rest := by
    simp only [C.decode_encode, h, Option.map_some]

/-- One value after the other. -/
def prod (C : Codec α) (D : Codec β) : Codec (α × β) where
  encode x := C.encode x.1 ++ D.encode x.2
  decode bs :=
    match C.decode bs with
    | none => none
    | some (a, rest) => (D.decode rest).map fun out => ((a, out.1), out.2)
  decode_encode x rest := by
    simp only [List.append_assoc, C.decode_encode, D.decode_encode, Option.map_some]

/-- An optional value behind a flag. -/
def option (C : Codec α) : Codec (Option α) where
  encode
    | none => [0]
    | some x => 1 :: C.encode x
  decode
    | [] => none
    | b :: rest =>
      if b = 0 then some (none, rest) else (C.decode rest).map fun out => (some out.1, out.2)
  decode_encode x rest := by
    cases x with
    | none => rfl
    | some x => simp [C.decode_encode]

section List

variable (C : Codec α)

/-- Each element behind a flag, and a closing flag. -/
def encodeList : List α → List UInt8
  | [] => [0]
  | x :: xs => 1 :: C.encode x ++ encodeList xs

/-- Reads at most `fuel` flags. -/
def decodeList : Nat → List UInt8 → Option (List α × List UInt8)
  | 0, _ => none
  | _ + 1, [] => none
  | fuel + 1, b :: rest =>
    if b = 0 then some ([], rest)
    else
      match C.decode rest with
      | none => none
      | some (x, rest) => (decodeList fuel rest).map fun out => (x :: out.1, out.2)

theorem length_lt_encodeList (xs : List α) : xs.length < (C.encodeList xs).length := by
  induction xs with
  | nil => exact Nat.zero_lt_one
  | cons x xs ih =>
    simp only [encodeList, List.cons_append, List.length_cons, List.length_append]
    omega

theorem decodeList_encodeList (xs : List α) (rest : List UInt8) {fuel : Nat}
    (hfuel : xs.length < fuel) :
    C.decodeList fuel (C.encodeList xs ++ rest) = some (xs, rest) := by
  induction xs generalizing fuel with
  | nil =>
    obtain ⟨fuel, rfl⟩ : ∃ f, fuel = f + 1 := ⟨fuel - 1, by omega⟩
    rfl
  | cons x xs ih =>
    obtain ⟨fuel, rfl⟩ : ∃ f, fuel = f + 1 := ⟨fuel - 1, by omega⟩
    have hlt : xs.length < fuel := by simpa using hfuel
    simp [encodeList, decodeList, C.decode_encode, ih hlt]

/-- A list of coded values. -/
def list : Codec (List α) where
  encode := C.encodeList
  decode bs := C.decodeList bs.length bs
  decode_encode xs rest := by
    refine C.decodeList_encodeList xs rest ?_
    have hlt := C.length_lt_encodeList xs
    rw [List.length_append]
    omega

end List

/-- A byte string. -/
def bytes : Codec (List UInt8) := byte.list

end Codec
