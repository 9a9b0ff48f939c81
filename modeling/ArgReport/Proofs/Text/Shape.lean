import ArgReport.Proofs.Text.WellFormed

/-!
# Characters of several bytes

Bytes of one of the eight shapes tell a number, six bits in every byte after the
lead. The character of that number is encoded in those bytes and no others: no
shape tells a number that has a shorter encoding, that is a surrogate, or that is
too large.
-/

namespace ArgReport

/-! ## The number of a character -/

theorem toNat_val_ofNat {value : Nat} (valid : value.isValidChar) :
    (Char.ofNat value).val.toNat = value := by
  unfold Char.ofNat
  rw [dif_pos valid]
  rfl

/-- The number that a character has from what was read of it and from the bytes
that are still to come. -/
def numberFrom (value : Nat) (bytes : List UInt8) : Nat :=
  bytes.foldl (fun value byte => value * 64 + byte.toNat % 64) value

section Bytes

variable {lead second third fourth : UInt8}

theorem utf8EncodeChar_of_two
    (leads : 0xC2 ≤ lead.toNat ∧ lead.toNat ≤ 0xDF)
    (seconds : IsTail second) :
    String.utf8EncodeChar
        (Char.ofNat (numberFrom (lead.toNat % 32) [second])) =
      [lead, second] := by
  have least : 0x80 ≤ second.toNat := seconds.1
  have most : second.toNat ≤ 0xBF := seconds.2
  simp only [numberFrom, List.foldl_cons, List.foldl_nil]
  generalize value_eq : lead.toNat % 32 * 64 + second.toNat % 64 = value
  have valid : value.isValidChar := .inl (by omega)
  have first : value / 64 % 32 + 192 = lead.toNat := by omega
  have last : value % 64 + 128 = second.toNat := by omega
  simp only [String.utf8EncodeChar, toNat_val_ofNat valid]
  rw [if_neg (by omega), if_pos (by omega), first, last, UInt8.ofNat_toNat,
    UInt8.ofNat_toNat]

theorem utf8EncodeChar_of_three
    (leads : 0xE0 ≤ lead.toNat ∧ lead.toNat ≤ 0xEF)
    (seconds : IsTail second)
    (thirds : IsTail third)
    (notShort : lead.toNat = 0xE0 -> 0xA0 ≤ second.toNat)
    (noSurrogate : lead.toNat = 0xED -> second.toNat ≤ 0x9F) :
    String.utf8EncodeChar
        (Char.ofNat (numberFrom (lead.toNat % 16) [second, third])) =
      [lead, second, third] := by
  have secondLeast : 0x80 ≤ second.toNat := seconds.1
  have secondMost : second.toNat ≤ 0xBF := seconds.2
  have thirdLeast : 0x80 ≤ third.toNat := thirds.1
  have thirdMost : third.toNat ≤ 0xBF := thirds.2
  simp only [numberFrom, List.foldl_cons, List.foldl_nil]
  generalize value_eq : (lead.toNat % 16 * 64 + second.toNat % 64) * 64 +
    third.toNat % 64 = value
  have valid : value.isValidChar := by
    unfold Nat.isValidChar
    omega
  have first : value / 4096 % 16 + 224 = lead.toNat := by omega
  have middle : value / 64 % 64 + 128 = second.toNat := by omega
  have last : value % 64 + 128 = third.toNat := by omega
  simp only [String.utf8EncodeChar, toNat_val_ofNat valid]
  rw [if_neg (by omega), if_neg (by omega), if_pos (by omega), first, middle,
    last, UInt8.ofNat_toNat, UInt8.ofNat_toNat, UInt8.ofNat_toNat]

theorem utf8EncodeChar_of_four
    (leads : 0xF0 ≤ lead.toNat ∧ lead.toNat ≤ 0xF4)
    (seconds : IsTail second)
    (thirds : IsTail third)
    (fourths : IsTail fourth)
    (notShort : lead.toNat = 0xF0 -> 0x90 ≤ second.toNat)
    (notLarge : lead.toNat = 0xF4 -> second.toNat ≤ 0x8F) :
    String.utf8EncodeChar
        (Char.ofNat (numberFrom (lead.toNat % 8) [second, third, fourth])) =
      [lead, second, third, fourth] := by
  have secondLeast : 0x80 ≤ second.toNat := seconds.1
  have secondMost : second.toNat ≤ 0xBF := seconds.2
  have thirdLeast : 0x80 ≤ third.toNat := thirds.1
  have thirdMost : third.toNat ≤ 0xBF := thirds.2
  have fourthLeast : 0x80 ≤ fourth.toNat := fourths.1
  have fourthMost : fourth.toNat ≤ 0xBF := fourths.2
  simp only [numberFrom, List.foldl_cons, List.foldl_nil]
  generalize value_eq : ((lead.toNat % 8 * 64 + second.toNat % 64) * 64 +
    third.toNat % 64) * 64 + fourth.toNat % 64 = value
  have valid : value.isValidChar := by
    unfold Nat.isValidChar
    omega
  have first : value / 262144 % 8 + 240 = lead.toNat := by omega
  have upper : value / 4096 % 64 + 128 = second.toNat := by omega
  have lower : value / 64 % 64 + 128 = third.toNat := by omega
  have last : value % 64 + 128 = fourth.toNat := by omega
  simp only [String.utf8EncodeChar, toNat_val_ofNat valid]
  rw [if_neg (by omega), if_neg (by omega), if_neg (by omega), first, upper,
    lower, last, UInt8.ofNat_toNat, UInt8.ofNat_toNat, UInt8.ofNat_toNat,
    UInt8.ofNat_toNat]

end Bytes

namespace Utf8Shape

/-- A lead byte belongs to one shape. -/
theorem ofLead?_of_leads
    {shape : Utf8Shape}
    (member : shape ∈ all)
    {lead : UInt8}
    (leads : shape.Leads lead) :
    ofLead? lead = some shape := by
  have table : ∀ shape ∈ all, ∀ value : Fin 256,
      shape.Leads (UInt8.ofNat value) ->
        ofLead? (UInt8.ofNat value) = some shape := by
    decide +kernel
  have found := table shape member ⟨lead.toNat, lead.toNat_lt⟩
  rw [UInt8.ofNat_toNat] at found
  exact found leads

/-! Three bytes that tell a number of two, or a surrogate, are of no shape. Nor
are four bytes that tell a number of three, or one that is too large. -/

theorem bounds_of_no_tail :
    ∀ shape ∈ all, shape.tails = 0 ->
      0xC2 ≤ shape.leadLow.toNat ∧ shape.leadHigh.toNat ≤ 0xDF := by
  decide

theorem bounds_of_one_tail :
    ∀ shape ∈ all, shape.tails = 1 ->
      0xE0 ≤ shape.leadLow.toNat ∧ shape.leadHigh.toNat ≤ 0xEF ∧
        (shape.leadLow.toNat ≤ 0xE0 -> 0xA0 ≤ shape.secondLow.toNat) ∧
        (shape.leadLow.toNat ≤ 0xED -> 0xED ≤ shape.leadHigh.toNat ->
          shape.secondHigh.toNat ≤ 0x9F) := by
  decide

theorem bounds_of_two_tails :
    ∀ shape ∈ all, shape.tails = 2 ->
      0xF0 ≤ shape.leadLow.toNat ∧ shape.leadHigh.toNat ≤ 0xF4 ∧
        (shape.leadLow.toNat ≤ 0xF0 -> 0x90 ≤ shape.secondLow.toNat) ∧
        (0xF4 ≤ shape.leadHigh.toNat -> shape.secondHigh.toNat ≤ 0x8F) := by
  decide

theorem tails_le_two : ∀ shape ∈ all, shape.tails ≤ 2 := by
  decide

/-- A second byte is a tail byte, whatever else its shape asks of it. -/
theorem seconds_are_tails :
    ∀ shape ∈ all,
      tailLow ≤ shape.secondLow ∧ shape.secondHigh ≤ tailHigh := by
  decide

/-- A lead byte is past all tail bytes. -/
theorem tail_lt_of_leads
    {shape : Utf8Shape}
    (member : shape ∈ all)
    {lead : UInt8}
    (leads : shape.Leads lead) :
    tailHigh < lead := by
  have past : ∀ shape ∈ all, tailHigh < shape.leadLow := by
    decide
  exact UInt8.lt_of_lt_of_le (past shape member) leads.1

/-- The bytes of a shape are those of the character whose number they tell. -/
theorem utf8EncodeChar_numberFrom
    {shape : Utf8Shape}
    (member : shape ∈ all)
    {lead second : UInt8}
    {tails : List UInt8}
    (leads : shape.Leads lead)
    (seconds : shape.Seconds second)
    (count : tails.length = shape.tails)
    (tail : ∀ byte ∈ tails, IsTail byte) :
    String.utf8EncodeChar
        (Char.ofNat (numberFrom (shape.payload lead) (second :: tails))) =
      lead :: second :: tails := by
  obtain ⟨tailLeast, tailMost⟩ := seconds_are_tails shape member
  have secondTail : IsTail second :=
    ⟨UInt8.le_trans tailLeast seconds.1, UInt8.le_trans seconds.2 tailMost⟩
  have few := tails_le_two shape member
  have leadLeast : shape.leadLow.toNat ≤ lead.toNat := leads.1
  have leadMost : lead.toNat ≤ shape.leadHigh.toNat := leads.2
  have secondLeast : shape.secondLow.toNat ≤ second.toNat := seconds.1
  have secondMost : second.toNat ≤ shape.secondHigh.toNat := seconds.2
  match tails, count with
  | [], count =>
      obtain ⟨least, most⟩ := bounds_of_no_tail shape member count.symm
      rw [payload, ← count]
      exact utf8EncodeChar_of_two ⟨by omega, by omega⟩ secondTail
  | [third], count =>
      obtain ⟨least, most, notShort, noSurrogate⟩ :=
        bounds_of_one_tail shape member count.symm
      rw [payload, ← count]
      exact utf8EncodeChar_of_three ⟨by omega, by omega⟩ secondTail
        (tail third (by simp)) (by omega) (by omega)
  | [third, fourth], count =>
      obtain ⟨least, most, notShort, notLarge⟩ :=
        bounds_of_two_tails shape member count.symm
      rw [payload, ← count]
      exact utf8EncodeChar_of_four ⟨by omega, by omega⟩ secondTail
        (tail third (by simp)) (tail fourth (by simp)) (by omega) (by omega)
  | third :: fourth :: fifth :: rest, count =>
      rw [← count] at few
      simp only [List.length_cons] at few
      omega

end Utf8Shape

end ArgReport
