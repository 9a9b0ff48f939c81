import ArgReport.Text.Quoted
import Mathlib.Tactic.Common

/-!
# Reading a quotation

The reader gets every text back from the interior of its quotation, whatever
comes after it. A double quote within an interior always has its own backslash
before it, and no interior ends with a backslash that has nothing to introduce.

From this a quotation can be found in a longer text from either side. Read on
from its first character it ends at a certain place, and read back from the end
of a text it begins at a certain place.
-/

namespace ArgReport
namespace Quoted

/-! ## Numbers -/

theorem digitValue?_digitChar {value : Nat} (bound : value < 16) :
    digitValue? value.digitChar = some value := by
  have table : ∀ digit : Fin 16,
      digitValue? (Nat.digitChar digit) = some digit.val := by
    decide
  exact table ⟨value, bound⟩

theorem digitChar_ne_close {value : Nat} (bound : value < 16) :
    value.digitChar ≠ '\x7d' := by
  intro same
  have read := digitValue?_digitChar bound
  rw [same] at read
  cases read

theorem mem_toDigits
    {number : Nat}
    {digit : Char}
    (member : digit ∈ Nat.toDigits 16 number) :
    ∃ value < 16, digit = value.digitChar := by
  induction number using Nat.strongRecOn with
  | _ number inductionHypothesis =>
      by_cases small : number < 16
      · rw [Nat.toDigits_of_lt_base small, List.mem_singleton] at member
        exact ⟨number, small, member⟩
      · have large : 16 ≤ number := Nat.le_of_not_lt small
        rw [Nat.toDigits_of_base_le (by decide) large, List.mem_append,
          List.mem_singleton] at member
        rcases member with higher | last
        · exact inductionHypothesis (number / 16) (by omega) higher
        · exact ⟨number % 16, Nat.mod_lt _ (by decide), last⟩

theorem readFrom_digitChar
    {value : Nat}
    (bound : value < 16)
    (higher : Nat)
    (rest : List Char) :
    readFrom (.digits higher) (value.digitChar :: rest) =
      readFrom (.digits (16 * higher + value)) rest := by
  rw [readFrom, if_neg (digitChar_ne_close bound), digitValue?_digitChar bound]

/-- The digits of a number are read as the number. -/
theorem readFrom_toDigits (number : Nat) (rest : List Char) :
    readFrom (.digits 0) (Nat.toDigits 16 number ++ rest) =
      readFrom (.digits number) rest := by
  induction number using Nat.strongRecOn generalizing rest with
  | _ number inductionHypothesis =>
      by_cases small : number < 16
      · rw [Nat.toDigits_of_lt_base small, List.singleton_append,
          readFrom_digitChar small, Nat.mul_zero, Nat.zero_add]
      · have large : 16 ≤ number := Nat.le_of_not_lt small
        have less : number / 16 < number := by omega
        rw [Nat.toDigits_of_base_le (by decide) large, List.append_assoc,
          inductionHypothesis _ less, List.singleton_append,
          readFrom_digitChar (Nat.mod_lt _ (by decide)), Nat.div_add_mod]

/-! ## One character -/

/-- The character may stand in a quotation as it is. -/
def StandsRaw (character : Char) : Prop :=
  character ≠ '\x00' ∧ character ≠ '\t' ∧ character ≠ '\n' ∧
    character ≠ '\r' ∧ ¬IsUnprintable character

/-- The three ways in which a character is written. -/
inductive Written : Char -> List Char -> Prop
  /-- By a letter that stands for it. -/
  | letter
      {letter character : Char}
      (meant : letter? letter = some character) :
      Written character ['\\', letter]
  /-- By its number. -/
  | number (character : Char) :
      Written character
        (['\\', 'u', '\x7b'] ++ Nat.toDigits 16 character.toNat ++ ['\x7d'])
  /-- As itself. -/
  | raw
      {character : Char}
      (notQuote : character ≠ '\"')
      (notBackslash : character ≠ '\\')
      (standsRaw : StandsRaw character) :
      Written character [character]

theorem written_escape (character : Char) :
    Written character (escape character) := by
  unfold escape
  split_ifs with nul tab newline carriageReturn quote backslash listed
  · rw [nul]
    exact .letter rfl
  · rw [tab]
    exact .letter rfl
  · rw [newline]
    exact .letter rfl
  · rw [carriageReturn]
    exact .letter rfl
  · rw [quote]
    exact .letter rfl
  · rw [backslash]
    exact .letter rfl
  · exact .number character
  · exact .raw quote backslash ⟨nul, tab, newline, carriageReturn, listed⟩

/-- A written character is read as the character, whatever comes after it. -/
theorem readFrom_written_append
    {character : Char}
    {written : List Char}
    (isWritten : Written character written)
    (rest : List Char) :
    readFrom .outside (written ++ rest) =
      (readFrom .outside rest).map (character :: ·) := by
  cases isWritten with
  | @letter letter _ meant =>
      have notNumber : letter ≠ 'u' := by
        intro same
        rw [same] at meant
        cases meant
      rw [List.cons_append, readFrom, if_pos rfl, List.singleton_append,
        readFrom, if_neg notNumber, meant]
  | number =>
      simp only [List.append_assoc, List.cons_append, List.nil_append]
      rw [readFrom, if_pos rfl, readFrom, if_pos rfl, readFrom, if_pos rfl,
        readFrom_toDigits, readFrom, if_pos rfl, Char.ofNat_toNat]
  | raw notQuote notBackslash _ =>
      rw [List.singleton_append, readFrom, if_neg notBackslash,
        if_neg notQuote]

/-- No printable character of ASCII is listed. -/
theorem standsRaw_of_ascii
    {character : Char}
    (lower : 0x20 ≤ character.toNat)
    (upper : character.toNat < 0x7F) :
    StandsRaw character := by
  have elsewhere : ∀ range ∈ unprintableRanges,
      range.2 < 0x20 ∨ 0x7F ≤ range.1 := by
    decide +kernel
  have notControl {control : Char} (low : control.toNat < 0x20) :
      character ≠ control := by
    intro same
    rw [same] at lower
    omega
  refine ⟨notControl (by decide), notControl (by decide),
    notControl (by decide), notControl (by decide), ?_⟩
  rintro ⟨range, member, above, below⟩
  rcases elsewhere range member with before | after <;> omega

theorem standsRaw_letter
    {letter character : Char}
    (meant : letter? letter = some character) :
    StandsRaw letter := by
  have ascii : 0x20 ≤ letter.toNat ∧ letter.toNat < 0x7F := by
    unfold letter? at meant
    split at meant
    case h_7 => cases meant
    all_goals decide
  exact standsRaw_of_ascii ascii.1 ascii.2

theorem standsRaw_digitChar {value : Nat} (bound : value < 16) :
    StandsRaw value.digitChar := by
  have table : ∀ digit : Fin 16,
      0x20 ≤ (Nat.digitChar digit).toNat ∧
        (Nat.digitChar digit).toNat < 0x7F := by
    decide
  have ascii := table ⟨value, bound⟩
  exact standsRaw_of_ascii ascii.1 ascii.2

theorem Written.standsRaw
    {character : Char}
    {written : List Char}
    (isWritten : Written character written) :
    ∀ symbol ∈ written, StandsRaw symbol := by
  have backslash : StandsRaw '\\' := standsRaw_of_ascii (by decide) (by decide)
  cases isWritten with
  | letter meant => simpa using ⟨backslash, standsRaw_letter meant⟩
  | number =>
      have introduces : ∀ symbol ∈ ['\\', 'u', '\x7b'], StandsRaw symbol := by
        have letter : StandsRaw 'u' :=
          standsRaw_of_ascii (by decide) (by decide)
        have opening : StandsRaw '\x7b' :=
          standsRaw_of_ascii (by decide) (by decide)
        simpa using ⟨backslash, letter, opening⟩
      intro symbol member
      rw [List.mem_append, List.mem_append, List.mem_singleton] at member
      rcases member with (early | digit) | rfl
      · exact introduces symbol early
      · obtain ⟨value, bound, rfl⟩ := mem_toDigits digit
        exact standsRaw_digitChar bound
      · exact standsRaw_of_ascii (by decide) (by decide)
  | raw _ _ standsRaw => simpa using standsRaw

/-- A double quote is written by a backslash and itself, and takes part in the
writing of no other character. -/
theorem Written.of_quote_mem
    {character : Char}
    {before after : List Char}
    (isWritten : Written character (before ++ '\"' :: after)) :
    character = '\"' ∧ before = ['\\'] ∧ after = [] := by
  generalize split : before ++ '\"' :: after = written at isWritten
  cases isWritten with
  | letter meant =>
      rcases before with _ | ⟨first, _ | ⟨second, others⟩⟩
      · simp at split
      · simp only [List.cons_append, List.nil_append, List.cons.injEq] at split
        obtain ⟨rfl, rfl, rfl⟩ := split
        exact ⟨(Option.some.inj meant).symm, rfl, rfl⟩
      · simp at split
  | number =>
      have member : '\"' ∈ ['\\', 'u', '\x7b'] ++
          Nat.toDigits 16 character.toNat ++ ['\x7d'] := by
        rw [← split]
        simp
      have inDigits : '\"' ∈ Nat.toDigits 16 character.toNat := by
        simpa using member
      obtain ⟨value, bound, same⟩ := mem_toDigits inDigits
      have read := digitValue?_digitChar bound
      rw [← same] at read
      cases read
  | raw notQuote _ _ =>
      have member : '\"' ∈ [character] := by
        rw [← split]
        simp
      exact absurd (List.mem_singleton.1 member).symm notQuote

/-! ## The interior -/

theorem readFrom_interior_append (characters rest : List Char) :
    readFrom .outside (interior characters ++ rest) =
      (readFrom .outside rest).map (characters ++ ·) := by
  induction characters with
  | nil => simp
  | cons character others inductionHypothesis =>
      rw [interior_cons, List.append_assoc,
        readFrom_written_append (written_escape character),
        inductionHypothesis, Option.map_map]
      rfl

/-- Every text is read back from its interior. -/
theorem read?_interior (characters : List Char) :
    read? (interior characters) = some characters := by
  have read := readFrom_interior_append characters []
  rw [List.append_nil] at read
  rw [read?, read, readFrom, Option.map_some, List.append_nil]

theorem interior_injective
    {first second : List Char}
    (same : interior first = interior second) :
    first = second := by
  have read := read?_interior first
  rw [same, read?_interior] at read
  exact (Option.some.inj read).symm

theorem standsRaw_of_mem_interior
    {characters : List Char}
    {symbol : Char}
    (member : symbol ∈ interior characters) :
    StandsRaw symbol := by
  obtain ⟨character, _, inEscape⟩ := List.mem_flatMap.1 member
  exact (written_escape character).standsRaw symbol inEscape

/-- Every double quote within an interior is the second half of the pair that
stands for a double quote. -/
theorem interior_eq_append_quote
    {characters before after : List Char}
    (split : interior characters = before ++ '\"' :: after) :
    ∃ first last, characters = first ++ '\"' :: last ∧
      before = interior first ++ ['\\'] ∧ after = interior last := by
  induction characters generalizing before with
  | nil => simp at split
  | cons character others inductionHypothesis =>
      rw [interior_cons, List.append_eq_append_iff] at split
      rcases split with ⟨middle, rfl, further⟩ | ⟨middle, here, further⟩
      · obtain ⟨first, last, rfl, rfl, rfl⟩ := inductionHypothesis further
        exact ⟨character :: first, last, rfl, by simp, rfl⟩
      · cases middle with
        | nil =>
            obtain ⟨first, last, _, opened, _⟩ :=
              @inductionHypothesis [] further.symm
            simp at opened
        | cons symbol rest =>
            obtain ⟨rfl, rfl⟩ := List.cons.inj further
            have isWritten := written_escape character
            rw [here] at isWritten
            obtain ⟨rfl, rfl, rfl⟩ := isWritten.of_quote_mem
            exact ⟨[], others, rfl, rfl, rfl⟩

/-- An interior has no bare quote after another interior. -/
theorem interior_append_quote_ne (first second rest : List Char) :
    interior first ++ '\"' :: rest ≠ interior second := by
  intro same
  obtain ⟨begun, _, _, lone, _⟩ := interior_eq_append_quote same.symm
  have read := read?_interior first
  rw [lone, read?, readFrom_interior_append] at read
  cases read

/-- What stands before a quote within an interior ends with a backslash. -/
theorem getLast?_of_interior_eq
    {characters before after : List Char}
    (split : interior characters = before ++ '\"' :: after)
    (front : List Char) :
    (front ++ '\"' :: before).getLast? = some '\\' := by
  obtain ⟨first, _, _, rfl, _⟩ := interior_eq_append_quote split
  rw [← List.cons_append, ← List.append_assoc, List.getLast?_concat]

/-! ## A quotation within a text -/

/-- Read on from its first character, a quotation ends at one place only. -/
theorem interior_append_quote_inj
    {first second firstRest secondRest : List Char}
    (same : interior first ++ '\"' :: firstRest =
      interior second ++ '\"' :: secondRest) :
    first = second ∧ firstRest = secondRest := by
  -- Were one of the interiors shorter, the other would have a bare quote.
  rcases List.append_eq_append_iff.1 same with
    ⟨_ | ⟨symbol, middle⟩, longer, further⟩ |
      ⟨_ | ⟨symbol, middle⟩, longer, further⟩
  · rw [List.append_nil] at longer
    exact ⟨(interior_injective longer).symm, (List.cons.inj further).2⟩
  · obtain ⟨rfl, -⟩ := List.cons.inj further
    exact absurd longer.symm (interior_append_quote_ne first second middle)
  · rw [List.append_nil] at longer
    exact ⟨interior_injective longer, (List.cons.inj further).2.symm⟩
  · obtain ⟨rfl, -⟩ := List.cons.inj further
    exact absurd longer.symm (interior_append_quote_ne second first middle)

/-- Read back from the end, a quotation begins at one place only, unless a
backslash stands before it. -/
theorem append_quote_interior_inj
    {firstFront secondFront first second : List Char}
    (firstEnds : firstFront.getLast? ≠ some '\\')
    (secondEnds : secondFront.getLast? ≠ some '\\')
    (same : firstFront ++ '\"' :: interior first =
      secondFront ++ '\"' :: interior second) :
    firstFront = secondFront ∧ first = second := by
  -- Were one of the interiors longer, the other's quote would stand in it.
  rcases List.append_eq_append_iff.1 same with
    ⟨_ | ⟨symbol, middle⟩, longer, further⟩ |
      ⟨_ | ⟨symbol, middle⟩, longer, further⟩
  · rw [List.append_nil] at longer
    exact ⟨longer.symm, interior_injective (List.cons.inj further).2⟩
  · obtain ⟨rfl, split⟩ := List.cons.inj further
    rw [longer] at secondEnds
    exact absurd (getLast?_of_interior_eq split firstFront) secondEnds
  · rw [List.append_nil] at longer
    exact ⟨longer, (interior_injective (List.cons.inj further).2).symm⟩
  · obtain ⟨rfl, split⟩ := List.cons.inj further
    rw [longer] at firstEnds
    exact absurd (getLast?_of_interior_eq split secondFront) firstEnds

end Quoted
end ArgReport
