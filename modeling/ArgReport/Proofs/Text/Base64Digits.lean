import ArgReport.Proofs.Text.Base64
import Mathlib.Data.Nat.Digits.Defs
import Mathlib.Tactic.Ring

/-!
# Base64 as digits

Bytes in base64 are a number in other digits. The bytes are its digits in base
256 and the symbols, by their places in the alphabet, its digits in base 64. The
last group may need a few zero bits to be filled, two for each padding sign, and
those are all that the number gains.
-/

namespace ArgReport
namespace Base64

/-- The symbols, by increasing value. -/
def alphabet : List Char :=
  ("ABCDEFGHIJKLMNOPQRSTUVWXYZabcdefghijklmnopqrstuvwxyz" ++
    "0123456789+/").toList

theorem idxOf_symbol {value : Nat} (bound : value < 64) :
    alphabet.idxOf (symbol value) = value := by
  have table : ∀ index : Fin 64,
      alphabet.idxOf (symbol index) = index.val := by
    decide +kernel
  exact table ⟨value, bound⟩

theorem symbol_mem_alphabet {value : Nat} (bound : value < 64) :
    symbol value ∈ alphabet := by
  apply List.idxOf_lt_length_iff.1
  rw [idxOf_symbol bound]
  exact bound

/-- Six bits in a symbol and two in a sign make the eight bits of the bytes. -/
theorem length_sixes (bytes : List UInt8) :
    3 * (sixes bytes).length = 4 * bytes.length + signs bytes.length := by
  fun_induction sixes bytes with
  | case1 first second third rest inductionHypothesis =>
      simp only [List.length_cons, signs_add_three]
      omega
  | case2 | case3 | case4 => rfl

/-- The number that digits of a base stand for, the highest digit first. -/
def number (base : Nat) (digits : List Nat) : Nat :=
  Nat.ofDigits base digits.reverse

@[simp] theorem number_nil (base : Nat) : number base [] = 0 := rfl

@[simp] theorem number_cons (base digit : Nat) (digits : List Nat) :
    number base (digit :: digits) =
      digit * base ^ digits.length + number base digits := by
  rw [number, List.reverse_cons, Nat.ofDigits_append, List.length_reverse,
    Nat.ofDigits_singleton, Nat.mul_comm, Nat.add_comm]
  rfl

/-- The sixes and the bytes are digits of one number, but for the zeros. -/
theorem number_sixes (bytes : List UInt8) :
    number 64 (sixes bytes) =
      number 256 (bytes.map UInt8.toNat) * 4 ^ signs bytes.length := by
  fun_induction sixes bytes with
  | case1 first second third rest inductionHypothesis =>
      have sixBits : 64 = 4 ^ 3 := rfl
      have eightBits : 256 = 4 ^ 4 := rfl
      have powers : 64 ^ (sixes rest).length =
          256 ^ rest.length * 4 ^ signs rest.length := by
        rw [sixBits, eightBits, ← Nat.pow_mul, ← Nat.pow_mul, ← Nat.pow_add,
          length_sixes]
      have group : first.toNat / 4 * 64 ^ 3 +
          (first.toNat % 4 * 16 + second.toNat / 16) * 64 ^ 2 +
          (second.toNat % 16 * 4 + third.toNat / 64) * 64 +
          third.toNat % 64 =
            first.toNat * 256 ^ 2 + second.toNat * 256 + third.toNat := by
        omega
      simp only [List.map_cons, number_cons, List.length_cons,
        List.length_map, signs_add_three, inductionHypothesis]
      calc
        _ = (first.toNat / 4 * 64 ^ 3 +
              (first.toNat % 4 * 16 + second.toNat / 16) * 64 ^ 2 +
              (second.toNat % 16 * 4 + third.toNat / 64) * 64 +
              third.toNat % 64) * 64 ^ (sixes rest).length +
            number 256 (rest.map UInt8.toNat) * 4 ^ signs rest.length := by
          ring
        _ = _ := by
          rw [group, powers]
          ring
  | case2 first second =>
      simp [signs]
      omega
  | case3 first =>
      simp [signs]
      omega
  | case4 => rfl

/-- The text is what some bytes are written as, told without saying how: symbols,
and as many padding signs as fill the last group. Read as digits, the symbols are
the number that the bytes are, with two zero bits for each padding sign. -/
structure Spells (text : List Char) (bytes : List UInt8) : Prop where
  length : text.length = 4 * ((bytes.length + 2) / 3)
  symbols : ∃ symbols : List Char,
    text = symbols ++ List.replicate (signs bytes.length) padding ∧
      (∀ character ∈ symbols, character ∈ alphabet) ∧
      number 64 (symbols.map alphabet.idxOf) =
        number 256 (bytes.map UInt8.toNat) * 4 ^ signs bytes.length

theorem spells_encode (bytes : List UInt8) : Spells (encode bytes) bytes where
  length := length_encode bytes
  symbols := by
    refine ⟨(sixes bytes).map symbol, encode_eq_sixes bytes, ?_, ?_⟩
    · intro character member
      obtain ⟨value, valueMember, rfl⟩ := List.mem_map.1 member
      exact symbol_mem_alphabet (lt_of_mem_sixes valueMember)
    · have places : ((sixes bytes).map symbol).map alphabet.idxOf =
          sixes bytes := by
        rw [List.map_map]
        conv_rhs => rw [← List.map_id (sixes bytes)]
        apply List.map_congr_left
        intro value member
        exact idxOf_symbol (lt_of_mem_sixes member)
      rw [places, number_sixes]

end Base64
end ArgReport
