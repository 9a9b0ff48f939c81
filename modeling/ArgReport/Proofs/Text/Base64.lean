import ArgReport.Text.Base64
import Mathlib.Tactic.Common

/-!
# Reading base64 back

The strict decoder reads every sequence of bytes back from its symbols, and it
reads nothing else: a text that it accepts is the written form of the bytes that
it answers. The symbols are those of the alphabet and the padding sign, so a line
of them has no line break within.
-/

namespace ArgReport
namespace Base64

/-- The padding sign is no symbol of a value. -/
theorem symbol_ne_padding {value : Nat} (bound : value < 64) :
    symbol value ≠ padding := by
  intro same
  have read := value?_symbol bound
  rw [same] at read
  cases read

theorem ofNat_eq_of_toNat
    {byte : UInt8}
    {value : Nat}
    (same : value = byte.toNat) :
    UInt8.ofNat value = byte := by
  rw [same, UInt8.ofNat_toNat]

theorem group?_encode (first second third : UInt8) :
    group? (symbol (first.toNat / 4))
        (symbol (first.toNat % 4 * 16 + second.toNat / 16))
        (symbol (second.toNat % 16 * 4 + third.toNat / 64))
        (symbol (third.toNat % 64)) =
      some [first, second, third] := by
  have firstBound := first.toNat_lt
  have secondBound := second.toNat_lt
  have thirdBound := third.toNat_lt
  rw [group?, value?_symbol (by omega), value?_symbol (by omega),
    value?_symbol (by omega), value?_symbol (by omega)]
  simp only [Option.bind_eq_bind, Option.bind_some, Option.some.injEq,
    List.cons.injEq, and_true]
  refine ⟨?_, ?_, ?_⟩ <;>
  · apply ofNat_eq_of_toNat
    omega

theorem lastBytes?_encode (first second : UInt8) :
    lastBytes? (symbol (first.toNat / 4))
        (symbol (first.toNat % 4 * 16 + second.toNat / 16))
        (symbol (second.toNat % 16 * 4)) =
      some [first, second] := by
  have firstBound := first.toNat_lt
  have secondBound := second.toNat_lt
  rw [lastBytes?, value?_symbol (by omega), value?_symbol (by omega),
    value?_symbol (by omega)]
  simp only [Option.bind_eq_bind, Option.bind_some]
  rw [if_pos (by omega)]
  simp only [Option.some.injEq, List.cons.injEq, and_true]
  refine ⟨?_, ?_⟩ <;>
  · apply ofNat_eq_of_toNat
    omega

theorem lastByte?_encode (first : UInt8) :
    lastByte? (symbol (first.toNat / 4)) (symbol (first.toNat % 4 * 16)) =
      some [first] := by
  have firstBound := first.toNat_lt
  rw [lastByte?, value?_symbol (by omega), value?_symbol (by omega)]
  simp only [Option.bind_eq_bind, Option.bind_some]
  rw [if_pos (by omega)]
  simp only [Option.some.injEq, List.cons.injEq, and_true]
  apply ofNat_eq_of_toNat
  omega

/-- Every sequence of bytes is read back from its symbols. -/
theorem decode?_encode (bytes : List UInt8) :
    decode? (encode bytes) = some bytes := by
  fun_induction encode bytes with
  | case1 first second third rest inductionHypothesis =>
      have unpadded : symbol (third.toNat % 64) ≠ padding :=
        symbol_ne_padding (by omega)
      rw [decode?, if_neg (fun padded => unpadded padded.1), group?_encode,
        inductionHypothesis]
      rfl
  | case2 first second =>
      have unpadded : symbol (second.toNat % 16 * 4) ≠ padding :=
        symbol_ne_padding (by omega)
      rw [decode?, if_pos ⟨rfl, rfl⟩, if_neg unpadded, lastBytes?_encode]
  | case3 first =>
      rw [decode?, if_pos ⟨rfl, rfl⟩, if_pos rfl, lastByte?_encode]
  | case4 => rfl

/-! ## Symbols and padding -/

/-- How many padding signs the written form of so many bytes ends with. -/
def signs (count : Nat) : Nat :=
  (3 - count % 3) % 3

theorem signs_add_three (count : Nat) : signs (count + 3) = signs count := by
  rw [signs, Nat.add_mod_right, signs]

/-- The bits of some bytes, six at a time. Zeros fill up the last six. -/
def sixes : List UInt8 -> List Nat
  | first :: second :: third :: rest =>
      first.toNat / 4 ::
        (first.toNat % 4 * 16 + second.toNat / 16) ::
        (second.toNat % 16 * 4 + third.toNat / 64) ::
        third.toNat % 64 ::
        sixes rest
  | [first, second] =>
      [ first.toNat / 4,
        first.toNat % 4 * 16 + second.toNat / 16,
        second.toNat % 16 * 4 ]
  | [first] => [first.toNat / 4, first.toNat % 4 * 16]
  | [] => []

/-- The written form is the symbols of the sixes, and then padding. -/
theorem encode_eq_sixes (bytes : List UInt8) :
    encode bytes =
      (sixes bytes).map symbol ++
        List.replicate (signs bytes.length) padding := by
  fun_induction encode bytes with
  | case1 first second third rest inductionHypothesis =>
      simp only [inductionHypothesis, sixes, List.map_cons, List.length_cons,
        signs_add_three, List.cons_append]
  | case2 | case3 | case4 => rfl

theorem lt_of_mem_sixes
    {bytes : List UInt8}
    {value : Nat}
    (member : value ∈ sixes bytes) :
    value < 64 := by
  fun_induction sixes bytes with
  | case1 first second third rest inductionHypothesis =>
      have firstBound := first.toNat_lt
      have secondBound := second.toNat_lt
      have thirdBound := third.toNat_lt
      simp only [List.mem_cons] at member
      rcases member with rfl | rfl | rfl | rfl | further
      · omega
      · omega
      · omega
      · omega
      · exact inductionHypothesis further
  | case2 first second =>
      have firstBound := first.toNat_lt
      have secondBound := second.toNat_lt
      simp only [List.mem_cons, List.not_mem_nil, or_false] at member
      omega
  | case3 first =>
      have firstBound := first.toNat_lt
      simp only [List.mem_cons, List.not_mem_nil, or_false] at member
      omega
  | case4 => cases member

/-- A character in base64 is the padding sign or the symbol of a value. -/
theorem mem_encode
    {bytes : List UInt8}
    {character : Char}
    (member : character ∈ encode bytes) :
    character = padding ∨ ∃ value < 64, character = symbol value := by
  rw [encode_eq_sixes] at member
  rcases List.mem_append.1 member with symbols | padded
  · obtain ⟨value, valueMember, rfl⟩ := List.mem_map.1 symbols
    exact .inr ⟨value, lt_of_mem_sixes valueMember, rfl⟩
  · exact .inl (List.eq_of_mem_replicate padded)

/-- Base64 stays on one line. -/
theorem newline_not_mem_encode (bytes : List UInt8) :
    '\n' ∉ encode bytes := by
  intro member
  rcases mem_encode member with padded | ⟨value, bound, same⟩
  · cases padded
  · have read := value?_symbol bound
    rw [← same] at read
    cases read

/-! ## What is read -/

theorem ofNat_place {low character : Char} (least : low ≤ character) :
    Char.ofNat (low.toNat + (character.toNat - low.toNat)) = character := by
  have ordered : low.toNat ≤ character.toNat := least
  rw [Nat.add_sub_cancel' ordered, Char.ofNat_toNat]

/-- Only the symbol of a value is read as the value. -/
theorem eq_symbol_of_value?
    {character : Char}
    {value : Nat}
    (read : value? character = some value) :
    value < 64 ∧ character = symbol value := by
  unfold value? at read
  split_ifs at read with upper lower digit plus slash
  · injection read with same
    have most : character.toNat ≤ 90 := upper.2
    have bound : character.toNat - 'A'.toNat < 26 := by
      change character.toNat - 65 < 26
      omega
    subst same
    refine ⟨by omega, ?_⟩
    rw [symbol, if_pos bound, ofNat_place upper.1]
  · injection read with same
    have most : character.toNat ≤ 122 := lower.2
    have bound : character.toNat - 'a'.toNat < 26 := by
      change character.toNat - 97 < 26
      omega
    subst same
    refine ⟨by omega, ?_⟩
    rw [symbol, if_neg (by omega), if_pos (by omega), Nat.add_sub_cancel,
      ofNat_place lower.1]
  · injection read with same
    have most : character.toNat ≤ 57 := digit.2
    have bound : character.toNat - '0'.toNat < 10 := by
      change character.toNat - 48 < 10
      omega
    subst same
    refine ⟨by omega, ?_⟩
    rw [symbol, if_neg (by omega), if_neg (by omega), if_pos (by omega),
      Nat.add_sub_cancel, ofNat_place digit.1]
  · injection read with same
    subst same plus
    decide
  · injection read with same
    subst same slash
    decide

theorem toNat_ofNat_of_lt {value : Nat} (bound : value < 256) :
    (UInt8.ofNat value).toNat = value := by
  rw [UInt8.toNat_ofNat']
  exact Nat.mod_eq_of_lt bound

/-- A group is read only from the symbols of its bytes. -/
theorem encode_append_of_group?
    {first second third fourth : Char}
    {bytes : List UInt8}
    (read : group? first second third fourth = some bytes)
    (rest : List UInt8) :
    encode (bytes ++ rest) =
      first :: second :: third :: fourth :: encode rest := by
  simp only [group?, Option.bind_eq_bind, Option.bind_eq_some_iff] at read
  obtain ⟨high, highRead, upper, upperRead, lower, lowerRead, low, lowRead,
    same⟩ := read
  injection same with same
  obtain ⟨highBound, rfl⟩ := eq_symbol_of_value? highRead
  obtain ⟨upperBound, rfl⟩ := eq_symbol_of_value? upperRead
  obtain ⟨lowerBound, rfl⟩ := eq_symbol_of_value? lowerRead
  obtain ⟨lowBound, rfl⟩ := eq_symbol_of_value? lowRead
  have firstSix : (high * 4 + upper / 16) / 4 = high := by omega
  have secondSix : (high * 4 + upper / 16) % 4 * 16 +
      (upper % 16 * 16 + lower / 4) / 16 = upper := by omega
  have thirdSix : (upper % 16 * 16 + lower / 4) % 16 * 4 +
      (lower % 4 * 64 + low) / 64 = lower := by omega
  have fourthSix : (lower % 4 * 64 + low) % 64 = low := by omega
  subst same
  simp only [List.cons_append, List.nil_append, encode]
  rw [toNat_ofNat_of_lt (by omega), toNat_ofNat_of_lt (by omega),
    toNat_ofNat_of_lt (by omega), firstSix, secondSix, thirdSix, fourthSix]

theorem encode_of_lastBytes?
    {first second third : Char}
    {bytes : List UInt8}
    (read : lastBytes? first second third = some bytes) :
    encode bytes = [first, second, third, padding] := by
  simp only [lastBytes?, Option.bind_eq_bind, Option.bind_eq_some_iff] at read
  obtain ⟨high, highRead, middle, middleRead, low, lowRead, read⟩ := read
  split_ifs at read with empty
  injection read with same
  obtain ⟨highBound, rfl⟩ := eq_symbol_of_value? highRead
  obtain ⟨middleBound, rfl⟩ := eq_symbol_of_value? middleRead
  obtain ⟨lowBound, rfl⟩ := eq_symbol_of_value? lowRead
  have firstSix : (high * 4 + middle / 16) / 4 = high := by omega
  have secondSix : (high * 4 + middle / 16) % 4 * 16 +
      (middle % 16 * 16 + low / 4) / 16 = middle := by omega
  have thirdSix : (middle % 16 * 16 + low / 4) % 16 * 4 = low := by omega
  subst same
  rw [encode, toNat_ofNat_of_lt (by omega), toNat_ofNat_of_lt (by omega),
    firstSix, secondSix, thirdSix]

theorem encode_of_lastByte?
    {first second : Char}
    {bytes : List UInt8}
    (read : lastByte? first second = some bytes) :
    encode bytes = [first, second, padding, padding] := by
  simp only [lastByte?, Option.bind_eq_bind, Option.bind_eq_some_iff] at read
  obtain ⟨high, highRead, low, lowRead, read⟩ := read
  split_ifs at read with empty
  injection read with same
  obtain ⟨highBound, rfl⟩ := eq_symbol_of_value? highRead
  obtain ⟨lowBound, rfl⟩ := eq_symbol_of_value? lowRead
  have firstSix : (high * 4 + low / 16) / 4 = high := by omega
  have secondSix : (high * 4 + low / 16) % 4 * 16 = low := by omega
  subst same
  rw [encode, toNat_ofNat_of_lt (by omega), firstSix, secondSix]

/-- The strict decoder reads the written form of some bytes, and nothing else. -/
theorem encode_of_decode?
    {text : List Char}
    {bytes : List UInt8}
    (read : decode? text = some bytes) :
    encode bytes = text := by
  fun_induction decode? text generalizing bytes with
  | case1 =>
      injection read with same
      rw [← same, encode_nil]
  | case2 first second fourth rest last =>
      obtain ⟨rfl, rfl⟩ := last
      exact encode_of_lastByte? read
  | case3 first second third fourth rest last unpadded =>
      obtain ⟨rfl, rfl⟩ := last
      exact encode_of_lastBytes? read
  | case4 first second third fourth rest notLast inductionHypothesis =>
      simp only [Option.bind_eq_bind, Option.bind_eq_some_iff] at read
      obtain ⟨group, groupRead, others, othersRead, same⟩ := read
      injection same with same
      rw [← same, encode_append_of_group? groupRead,
        inductionHypothesis othersRead]
  | case5 => cases read

theorem decode?_eq_some_iff
    {text : List Char}
    {bytes : List UInt8} :
    decode? text = some bytes ↔ text = encode bytes := by
  constructor
  · intro read
    exact (encode_of_decode? read).symm
  · rintro rfl
    exact decode?_encode bytes

theorem encode_injective
    {left right : List UInt8}
    (equal : encode left = encode right) :
    left = right := by
  apply Option.some.inj
  rw [← decode?_encode left, ← decode?_encode right, equal]

/-- Whole groups in front are written on their own. -/
theorem encode_append_of_dvd
    {first : List UInt8}
    (whole : 3 ∣ first.length)
    (second : List UInt8) :
    encode (first ++ second) = encode first ++ encode second := by
  fun_induction encode first with
  | case1 one two three rest inductionHypothesis =>
      have restWhole : 3 ∣ rest.length := by
        simp only [List.length_cons] at whole
        omega
      simp only [List.cons_append, encode, inductionHypothesis restWhole]
  | case2 one two =>
      simp only [List.length_cons, List.length_nil] at whole
      omega
  | case3 one =>
      simp only [List.length_cons, List.length_nil] at whole
      omega
  | case4 => rfl

end Base64
end ArgReport
