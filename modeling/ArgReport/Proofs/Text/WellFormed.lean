import ArgReport.Text.Utf8
import ArgReport.Text.WellFormed
import Mathlib.Tactic.Common

/-!
# Texts are well-formed

The bytes of a text are a sequence of whole characters. Which of the eight shapes
a character of several bytes has depends on its number alone, and the gap in the
numbers between `0xD7FF` and `0xE000` is where the surrogates are left out.
-/

namespace ArgReport

/-- Bounds on a byte, given by a number that it stands for. -/
theorem between_ofNat
    {low high : UInt8}
    {value : Nat}
    (lower : low.toNat ≤ value)
    (upper : value ≤ high.toNat) :
    low ≤ UInt8.ofNat value ∧ UInt8.ofNat value ≤ high := by
  have bound := high.toNat_lt
  have same : (UInt8.ofNat value).toNat = value := by
    rw [UInt8.toNat_ofNat']
    exact Nat.mod_eq_of_lt (by omega)
  rw [UInt8.le_iff_toNat_le, UInt8.le_iff_toNat_le, same]
  exact ⟨lower, upper⟩

/-- The low six bits of a number make a tail byte. -/
theorem isTail_ofNat (value : Nat) :
    IsTail (UInt8.ofNat (value % 64 + 128)) := by
  apply between_ofNat
  · change 128 ≤ value % 64 + 128
    omega
  · change value % 64 + 128 ≤ 191
    omega

/-- A character of several bytes whose lead and second byte are in range. -/
theorem WellFormed.of_shape
    {shape : Utf8Shape}
    (member : shape ∈ Utf8Shape.all)
    {lead second : Nat}
    {rest : List UInt8}
    (tails : List UInt8)
    (leads : shape.leadLow.toNat ≤ lead ∧ lead ≤ shape.leadHigh.toNat)
    (seconds : shape.secondLow.toNat ≤ second ∧
      second ≤ shape.secondHigh.toNat)
    (count : tails.length = shape.tails)
    (tail : ∀ byte ∈ tails, IsTail byte)
    (formed : WellFormed rest) :
    WellFormed (UInt8.ofNat lead :: UInt8.ofNat second :: (tails ++ rest)) :=
  .several member (between_ofNat leads.1 leads.2)
    (between_ofNat seconds.1 seconds.2) count tail formed

section Shapes

variable
  {value : Nat}
  {rest : List UInt8}
  (formed : WellFormed rest)

include formed

theorem wellFormed_two_bytes
    (lower : 0x80 ≤ value)
    (upper : value ≤ 0x7FF) :
    WellFormed (UInt8.ofNat (value / 64 % 32 + 192) ::
      UInt8.ofNat (value % 64 + 128) :: rest) := by
  have member : ⟨0xC2, 0xDF, 0x80, 0xBF, 0⟩ ∈ Utf8Shape.all := by decide
  exact WellFormed.of_shape member [] (by simp; omega) (by simp; omega) rfl
    (by simp) formed

/-- Four shapes share the numbers up to `0xFFFF` among them. -/
theorem wellFormed_three_bytes
    (lower : 0x800 ≤ value)
    (upper : value ≤ 0xFFFF)
    (noSurrogate : value < 0xD800 ∨ 0xDFFF < value) :
    WellFormed (UInt8.ofNat (value / 4096 % 16 + 224) ::
      UInt8.ofNat (value / 64 % 64 + 128) ::
        UInt8.ofNat (value % 64 + 128) :: rest) := by
  have low : ⟨0xE0, 0xE0, 0xA0, 0xBF, 1⟩ ∈ Utf8Shape.all := by decide
  have middle : ⟨0xE1, 0xEC, 0x80, 0xBF, 1⟩ ∈ Utf8Shape.all := by decide
  have below : ⟨0xED, 0xED, 0x80, 0x9F, 1⟩ ∈ Utf8Shape.all := by decide
  have above : ⟨0xEE, 0xEF, 0x80, 0xBF, 1⟩ ∈ Utf8Shape.all := by decide
  have tail : ∀ byte ∈ [UInt8.ofNat (value % 64 + 128)], IsTail byte := by
    intro byte member
    rw [List.mem_singleton.1 member]
    exact isTail_ofNat value
  by_cases first : value < 0x1000
  · exact WellFormed.of_shape low [_] (by simp; omega) (by simp; omega) rfl
      tail formed
  by_cases second : value < 0xD000
  · exact WellFormed.of_shape middle [_] (by simp; omega) (by simp; omega) rfl
      tail formed
  by_cases third : value < 0xE000
  · exact WellFormed.of_shape below [_] (by simp; omega) (by simp; omega) rfl
      tail formed
  · exact WellFormed.of_shape above [_] (by simp; omega) (by simp; omega) rfl
      tail formed

/-- Three shapes share the numbers from `0x10000` on among them. -/
theorem wellFormed_four_bytes
    (lower : 0x10000 ≤ value)
    (upper : value < 0x110000) :
    WellFormed (UInt8.ofNat (value / 262144 % 8 + 240) ::
      UInt8.ofNat (value / 4096 % 64 + 128) ::
        UInt8.ofNat (value / 64 % 64 + 128) ::
          UInt8.ofNat (value % 64 + 128) :: rest) := by
  have low : ⟨0xF0, 0xF0, 0x90, 0xBF, 2⟩ ∈ Utf8Shape.all := by decide
  have middle : ⟨0xF1, 0xF3, 0x80, 0xBF, 2⟩ ∈ Utf8Shape.all := by decide
  have high : ⟨0xF4, 0xF4, 0x80, 0x8F, 2⟩ ∈ Utf8Shape.all := by decide
  have tail : ∀ byte ∈ [UInt8.ofNat (value / 64 % 64 + 128),
      UInt8.ofNat (value % 64 + 128)], IsTail byte := by
    intro byte member
    rw [List.mem_cons, List.mem_singleton] at member
    rcases member with rfl | rfl
    · exact isTail_ofNat (value / 64)
    · exact isTail_ofNat value
  by_cases first : value < 0x40000
  · exact WellFormed.of_shape low [_, _] (by simp; omega) (by simp; omega) rfl
      tail formed
  by_cases second : value < 0x100000
  · exact WellFormed.of_shape middle [_, _] (by simp; omega) (by simp; omega)
      rfl tail formed
  · exact WellFormed.of_shape high [_, _] (by simp; omega) (by simp; omega) rfl
      tail formed

/-- A character may stand before whatever is well-formed. -/
theorem WellFormed.utf8EncodeChar_append (character : Char) :
    WellFormed (String.utf8EncodeChar character ++ rest) := by
  have valid : character.val.toNat < 0xD800 ∨
      0xDFFF < character.val.toNat ∧ character.val.toNat < 0x110000 :=
    character.valid
  unfold String.utf8EncodeChar
  generalize character.val.toNat = value at valid
  simp only
  split
  · rename_i upper
    have ascii : UInt8.ofNat value < 0x80 := by
      rw [UInt8.lt_iff_toNat_lt, UInt8.toNat_ofNat']
      simp
      omega
    exact .single ascii formed
  split
  · rename_i upper
    exact wellFormed_two_bytes formed (by omega) upper
  split
  · rename_i upper
    exact wellFormed_three_bytes formed (by omega) upper (by omega)
  · exact wellFormed_four_bytes formed (by omega) (by omega)

end Shapes

/-- The bytes of a text are well-formed. -/
theorem wellFormed_utf8 (text : String) : WellFormed (utf8 text) := by
  rw [utf8]
  induction text.toList with
  | nil => exact .nil
  | cons character rest inductionHypothesis =>
      rw [List.flatMap_cons]
      exact inductionHypothesis.utf8EncodeChar_append character

end ArgReport
