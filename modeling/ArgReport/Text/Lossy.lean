import ArgReport.Text.WellFormed

/-!
# Decoding bytes that may not be UTF-8

Every sequence of bytes is given a text. Whole characters are kept, and each
longest run of bytes that begins a character without completing it is replaced
by one replacement character, as is each byte that cannot begin a character. A
byte that breaks a character off is read again as the start of the next one, so
damage never reaches past it.

The decoder takes one byte at a time, so decoding a concatenation is decoding
the first part and going on from where it stopped.
-/

namespace ArgReport

/-- What a decoder remembers inside a character. -/
structure Pending where
  /-- Least byte that may come next. -/
  low : UInt8
  /-- Greatest byte that may come next. -/
  high : UInt8
  /-- Number of tail bytes after the next byte. -/
  tails : Nat
  /-- The part of the character's number read so far. -/
  value : Nat
  deriving DecidableEq, Repr

/-- The text decoded so far and the character that is not complete yet. -/
structure Decoder where
  /-- The text of all bytes before the pending character. -/
  text : String := ""
  /-- The pending character, if the last byte left one open. -/
  pending : Option Pending := none

namespace Decoder

/-- The character that stands for bytes that encode none. -/
def replacement : Char := '\uFFFD'

/-- Add a character to the text. The pending character is given up. -/
def push (decoder : Decoder) (character : Char) : Decoder :=
  { text := decoder.text.push character, pending := none }

/-- Read a byte where a character may start. -/
def start (decoder : Decoder) (byte : UInt8) : Decoder :=
  if byte < 0x80 then
    decoder.push (Char.ofNat byte.toNat)
  else
    match Utf8Shape.ofLead? byte with
    | none => decoder.push replacement
    | some shape =>
        { decoder with
          pending := some
            { low := shape.secondLow
              high := shape.secondHigh
              tails := shape.tails
              value := shape.payload byte } }

/-- Read a byte. Inside a character, a byte that cannot continue it ends it
as damage and is read again as a start. -/
def feed (decoder : Decoder) (byte : UInt8) : Decoder :=
  match decoder.pending with
  | none => decoder.start byte
  | some pending =>
      if pending.low ≤ byte ∧ byte ≤ pending.high then
        let value := pending.value * 64 + byte.toNat % 64
        match pending.tails with
        | 0 => decoder.push (Char.ofNat value)
        | tails + 1 =>
            { decoder with
              pending := some ⟨tailLow, tailHigh, tails, value⟩ }
      else
        (decoder.push replacement).start byte

/-- The text at the end of the bytes. A character left open is damage. -/
def finish (decoder : Decoder) : String :=
  match decoder.pending with
  | none => decoder.text
  | some _ => decoder.text.push replacement

end Decoder

/-- The text of any sequence of bytes. -/
def decodeLossy (bytes : List UInt8) : String :=
  (bytes.foldl Decoder.feed {}).finish

@[simp] theorem decodeLossy_nil : decodeLossy [] = "" := rfl

/-- Decoding a concatenation goes on from where the first part stopped. -/
theorem decodeLossy_append (first second : List UInt8) :
    decodeLossy (first ++ second) =
      (second.foldl Decoder.feed (first.foldl Decoder.feed {})).finish := by
  rw [decodeLossy, List.foldl_append]

end ArgReport
