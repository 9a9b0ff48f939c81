/-!
# Well-formed UTF-8

A byte below `0x80` stands for a character on its own. Every other character is
a lead byte, a second byte whose range depends on the lead, and up to two more
tail bytes. The eight shapes listed here are exactly those that leave out
overlong forms, surrogates and values above `0x10FFFF`.

The module states the shapes as data and well-formedness as an inductive
predicate over them.
-/

namespace ArgReport

/-- A range of lead bytes, the range of the byte that must follow, and how many
tail bytes come after that one. -/
structure Utf8Shape where
  /-- Least lead byte. -/
  leadLow : UInt8
  /-- Greatest lead byte. -/
  leadHigh : UInt8
  /-- Least second byte. -/
  secondLow : UInt8
  /-- Greatest second byte. -/
  secondHigh : UInt8
  /-- Number of tail bytes after the second byte. -/
  tails : Nat
  deriving DecidableEq, Repr

namespace Utf8Shape

/-- Every shape of a character of more than one byte. -/
def all : List Utf8Shape :=
  [ ⟨0xC2, 0xDF, 0x80, 0xBF, 0⟩,
    ⟨0xE0, 0xE0, 0xA0, 0xBF, 1⟩,
    ⟨0xE1, 0xEC, 0x80, 0xBF, 1⟩,
    ⟨0xED, 0xED, 0x80, 0x9F, 1⟩,
    ⟨0xEE, 0xEF, 0x80, 0xBF, 1⟩,
    ⟨0xF0, 0xF0, 0x90, 0xBF, 2⟩,
    ⟨0xF1, 0xF3, 0x80, 0xBF, 2⟩,
    ⟨0xF4, 0xF4, 0x80, 0x8F, 2⟩ ]

/-- A character of the shape may start with this byte. -/
def Leads (shape : Utf8Shape) (byte : UInt8) : Prop :=
  shape.leadLow ≤ byte ∧ byte ≤ shape.leadHigh

instance (shape : Utf8Shape) (byte : UInt8) : Decidable (shape.Leads byte) :=
  inferInstanceAs (Decidable (_ ∧ _))

/-- A character of the shape may go on with this byte after its lead. -/
def Seconds (shape : Utf8Shape) (byte : UInt8) : Prop :=
  shape.secondLow ≤ byte ∧ byte ≤ shape.secondHigh

instance (shape : Utf8Shape) (byte : UInt8) : Decidable (shape.Seconds byte) :=
  inferInstanceAs (Decidable (_ ∧ _))

/-- The shape that a lead byte announces, if it announces any. -/
def ofLead? (byte : UInt8) : Option Utf8Shape :=
  all.find? fun shape => shape.Leads byte

/-- The part of the character's number that the lead byte carries: its low five
bits, less one for each tail. -/
def payload (shape : Utf8Shape) (lead : UInt8) : Nat :=
  lead.toNat % (1 <<< (5 - shape.tails))

end Utf8Shape

/-- The least byte that may stand past the second place of a character. -/
def tailLow : UInt8 := 0x80

/-- The greatest byte that may stand past the second place of a character. -/
def tailHigh : UInt8 := 0xBF

/-- A byte that continues a character and never starts one. -/
def IsTail (byte : UInt8) : Prop :=
  tailLow ≤ byte ∧ byte ≤ tailHigh

instance (byte : UInt8) : Decidable (IsTail byte) :=
  inferInstanceAs (Decidable (_ ∧ _))

/-- The bytes are a sequence of whole characters. -/
inductive WellFormed : List UInt8 -> Prop
  /-- No character. -/
  | nil : WellFormed []
  /-- A character of one byte, then more. -/
  | single
      {byte : UInt8}
      {rest : List UInt8} :
      byte < 0x80 ->
      WellFormed rest ->
      WellFormed (byte :: rest)
  /-- A character of several bytes, then more. -/
  | several
      {shape : Utf8Shape}
      {lead second : UInt8}
      {tails rest : List UInt8} :
      shape ∈ Utf8Shape.all ->
      shape.Leads lead ->
      shape.Seconds second ->
      tails.length = shape.tails ->
      (∀ byte ∈ tails, IsTail byte) ->
      WellFormed rest ->
      WellFormed (lead :: second :: (tails ++ rest))

end ArgReport
