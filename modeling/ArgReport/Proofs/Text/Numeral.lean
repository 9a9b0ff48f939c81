import Mathlib.Data.List.Basic

/-!
# Numerals

A number is told in decimal, by digits alone. So a numeral stays on one line, it
is read back as its number, and no other numeral is read as the same.
-/

namespace ArgReport

theorem toList_toString (number : Nat) :
    (toString number).toList = Nat.toDigits 10 number := by
  rw [Nat.toString_eq_repr, Nat.repr_eq_ofList_toDigits,
    String.toList_ofList]

theorem isDigit_of_mem_toString
    {number : Nat}
    {character : Char}
    (member : character ∈ (toString number).toList) :
    character.isDigit := by
  rw [toList_toString] at member
  exact Nat.isDigit_of_mem_toDigits (by decide) (by decide) member

theorem newline_not_mem_toString (number : Nat) :
    '\n' ∉ (toString number).toList := by
  intro member
  cases isDigit_of_mem_toString member

/-- A text that tells a number in decimal, and the only one that does. -/
structure IsNumeral (text : String) (number : Nat) : Prop where
  /-- It has nothing but digits. -/
  digits : ∀ character ∈ text.toList, character.isDigit
  /-- It has a digit. -/
  nonempty : text ≠ ""
  /-- Only zero is told with a zero in front. -/
  unpadded : text.toList.head? = some '0' -> text = "0"
  /-- Its digits are read as the number. -/
  read : Nat.ofDigitChars 10 text.toList 0 = number

theorem eq_zero_of_head?_toDigits
    {number : Nat}
    (leading : (Nat.toDigits 10 number).head? = some '0') :
    number = 0 := by
  induction number using Nat.strongRecOn with
  | _ number inductionHypothesis =>
      by_cases small : number < 10
      · rw [Nat.toDigits_of_lt_base small] at leading
        have table : ∀ digit : Fin 10,
            [Nat.digitChar digit].head? = some '0' -> digit.val = 0 := by
          decide
        exact table ⟨number, small⟩ leading
      · have large : 10 ≤ number := Nat.le_of_not_lt small
        rw [Nat.toDigits_of_base_le (by decide) large,
          List.head?_append_of_ne_nil _ Nat.toDigits_ne_nil] at leading
        have higher := inductionHypothesis (number / 10) (by omega) leading
        omega

theorem isNumeral_toString (number : Nat) :
    IsNumeral (toString number) number := by
  constructor
  case digits =>
    intro character member
    exact isDigit_of_mem_toString member
  case nonempty =>
    intro empty
    have spelled := toList_toString number
    rw [empty] at spelled
    exact Nat.toDigits_ne_nil spelled.symm
  case unpadded =>
    intro leading
    rw [toList_toString] at leading
    rw [eq_zero_of_head?_toDigits leading]
    rfl
  case read =>
    rw [toList_toString]
    exact Nat.ofDigitChars_ten_toDigits

end ArgReport
