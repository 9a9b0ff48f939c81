/-!
# Base64 with padding

Three bytes are written as four symbols of six bits each. One or two bytes left
over at the end are written as two or three symbols, filled up to four places
with equals signs.

The encoder goes through the bytes three at a time. The decoder beside it is
strict: it refuses a length that is no multiple of four, a symbol outside the
alphabet, an equals sign anywhere but at the end, and bits past the last byte
that are not zero. So a sequence of bytes has one written form.
-/

namespace ArgReport
namespace Base64

/-- The sign that fills the last group up to four places. -/
def padding : Char := '='

/-- The symbol of a six-bit value. -/
def symbol (value : Nat) : Char :=
  if value < 26 then
    Char.ofNat ('A'.toNat + value)
  else if value < 52 then
    Char.ofNat ('a'.toNat + (value - 26))
  else if value < 62 then
    Char.ofNat ('0'.toNat + (value - 52))
  else if value = 62 then
    '+'
  else
    '/'

/-- The six-bit value that a symbol stands for. -/
def value? (character : Char) : Option Nat :=
  if 'A' ≤ character ∧ character ≤ 'Z' then
    some (character.toNat - 'A'.toNat)
  else if 'a' ≤ character ∧ character ≤ 'z' then
    some (character.toNat - 'a'.toNat + 26)
  else if '0' ≤ character ∧ character ≤ '9' then
    some (character.toNat - '0'.toNat + 52)
  else if character = '+' then
    some 62
  else if character = '/' then
    some 63
  else
    none

/-- Every six-bit value is read back from its symbol. -/
theorem value?_symbol
    {value : Nat}
    (bound : value < 64) :
    value? (symbol value) = some value := by
  have table : ∀ index : Fin 64,
      value? (symbol index) = some index.val := by decide
  exact table ⟨value, bound⟩

/-- Symbols of a sequence of bytes. -/
def encode : List UInt8 -> List Char
  | first :: second :: third :: rest =>
      symbol (first.toNat / 4) ::
        symbol (first.toNat % 4 * 16 + second.toNat / 16) ::
        symbol (second.toNat % 16 * 4 + third.toNat / 64) ::
        symbol (third.toNat % 64) ::
        encode rest
  | [first, second] =>
      [ symbol (first.toNat / 4),
        symbol (first.toNat % 4 * 16 + second.toNat / 16),
        symbol (second.toNat % 16 * 4),
        padding ]
  | [first] =>
      [ symbol (first.toNat / 4),
        symbol (first.toNat % 4 * 16),
        padding,
        padding ]
  | [] => []

@[simp] theorem encode_nil : encode [] = [] := rfl

/-- Four symbols for every group of three bytes or less. -/
@[simp] theorem length_encode (bytes : List UInt8) :
    (encode bytes).length = 4 * ((bytes.length + 2) / 3) := by
  fun_induction encode bytes with
  | case1 first second third rest inductionHypothesis =>
      simp only [List.length_cons, inductionHypothesis]
      omega
  | case2 | case3 | case4 => simp

/-- The byte of a last group with two padding signs. -/
def lastByte? (first second : Char) : Option (List UInt8) := do
  let high ← value? first
  let low ← value? second
  if low % 16 = 0 then
    some [UInt8.ofNat (high * 4 + low / 16)]
  else
    none

/-- The bytes of a last group with one padding sign. -/
def lastBytes? (first second third : Char) : Option (List UInt8) := do
  let high ← value? first
  let middle ← value? second
  let low ← value? third
  if low % 4 = 0 then
    some
      [ UInt8.ofNat (high * 4 + middle / 16),
        UInt8.ofNat (middle % 16 * 16 + low / 4) ]
  else
    none

/-- The bytes of a group without padding. -/
def group? (first second third fourth : Char) : Option (List UInt8) := do
  let high ← value? first
  let upper ← value? second
  let lower ← value? third
  let low ← value? fourth
  some
    [ UInt8.ofNat (high * 4 + upper / 16),
      UInt8.ofNat (upper % 16 * 16 + lower / 4),
      UInt8.ofNat (lower % 4 * 64 + low) ]

/-- Bytes of a sequence of symbols, if it is the written form of any. -/
def decode? : List Char -> Option (List UInt8)
  | [] => some []
  | first :: second :: third :: fourth :: rest =>
      if fourth = padding ∧ rest = [] then
        if third = padding then
          lastByte? first second
        else
          lastBytes? first second third
      else do
        let group ← group? first second third fourth
        let bytes ← decode? rest
        some (group ++ bytes)
  | _ => none

end Base64
end ArgReport
