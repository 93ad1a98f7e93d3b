import Mathlib.Tactic.Common

/-!
# Codes that can be read off the front

A code is delimited when it can be cut off the front of any string that starts
with it.  A code of fixed width is (`Delimited.of_width`).  A concatenation of
delimited codes is taken apart one code at a time by the definition, and a
list of them by `Delimited.flatMap_injective`, for lists of any length.

Hex is such a code, of two characters a byte.
-/

variable {α β : Type}

/-- Equal strings that start with a code start with the same one. -/
def Delimited (code : α → List β) : Prop :=
  ∀ ⦃x y : α⦄ ⦃r t : List β⦄, code x ++ r = code y ++ t → x = y ∧ r = t

namespace Delimited

variable {code : α → List β}

/-- An injective code of one width. -/
theorem of_width {width : Nat} (hwidth : ∀ x, (code x).length = width)
    (hinj : Function.Injective code) : Delimited code := by
  intro x y r t h
  obtain ⟨hcode, hrest⟩ := List.append_inj h ((hwidth x).trans (hwidth y).symm)
  exact ⟨hinj hcode, hrest⟩

/-- Without an empty code, the codes of a list give the list back. -/
theorem flatMap_injective (h : Delimited code) (hne : ∀ x, code x ≠ []) :
    Function.Injective (List.flatMap code) := by
  intro xs
  induction xs with
  | nil =>
    intro ys hcodes
    cases ys with
    | nil => rfl
    | cons y ys =>
      have hnil : code y = [] := (List.append_eq_nil_iff.mp hcodes.symm).1
      exact absurd hnil (hne y)
  | cons x xs ih =>
    intro ys hcodes
    cases ys with
    | nil =>
      have hnil : code x = [] := (List.append_eq_nil_iff.mp hcodes).1
      exact absurd hnil (hne x)
    | cons y ys =>
      obtain ⟨rfl, hrest⟩ := h hcodes
      rw [ih hrest]

end Delimited

/-! ## Hex -/

namespace Hex

def digit (n : Nat) : Char := Char.ofNat (if n < 10 then 48 + n else 87 + n)

theorem digit_inj : ∀ a < 16, ∀ b < 16, digit a = digit b → a = b := by decide

def byte (b : UInt8) : List Char := [digit (b.toNat / 16), digit (b.toNat % 16)]

theorem byte_injective : Function.Injective byte := by
  intro a b h
  have ha := UInt8.toNat_lt a
  have hb := UInt8.toNat_lt b
  obtain ⟨hhigh, hlow⟩ := List.cons.inj h
  have hhigh := digit_inj _ (by omega) _ (by omega) hhigh
  have hlow := digit_inj _ (by omega) _ (by omega) (List.cons.inj hlow).1
  apply UInt8.toNat_inj.mp
  omega

theorem mem_byte {b : UInt8} {c : Char} (h : c ∈ byte b) : ∃ n < 16, c = digit n := by
  have hb := UInt8.toNat_lt b
  rcases List.mem_cons.mp h with rfl | h
  · exact ⟨b.toNat / 16, by omega, rfl⟩
  · exact ⟨b.toNat % 16, by omega, List.mem_singleton.mp h⟩

def encode (bytes : List UInt8) : String := String.ofList (bytes.flatMap byte)

theorem encode_injective : Function.Injective encode := by
  intro a b h
  have hwidth : ∀ x, (byte x).length = 2 := fun _ => rfl
  have hcode : Delimited byte := .of_width hwidth byte_injective
  exact hcode.flatMap_injective (fun _ => List.cons_ne_nil _ _) (String.ofList_injective h)

end Hex
