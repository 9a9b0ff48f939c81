import ArgReport.CommandLine
import ArgReport.Proofs.Text.Lossy
import Mathlib.Data.List.Forall2

/-!
# Entries that are no text

An entry of a command line may be any bytes, and the program goes by the text
that they are decoded as. Decoding is conservative, final and local: it keeps
what is well-formed and nothing else, it has nothing left to do on its own
results, and it replaces damage where the damage stands.

So the program cannot tell an entry from the encoding of its text.
-/

namespace ArgReport

/-- The program goes by the texts of its entries. -/
theorem runProgram_congr
    {entries others : List (List UInt8)}
    (alike : List.Forall₂
      (fun entry other => decodeLossy other = decodeLossy entry)
      entries others)
    (output : Output) :
    runProgram output others = runProgram output entries := by
  have texts : others.map decodeLossy = entries.map decodeLossy := by
    induction alike with
    | nil => rfl
    | cons same _ inductionHypothesis =>
        rw [List.map_cons, List.map_cons, same, inductionHypothesis]
  rw [runProgram, runProgram, texts]

/-- Whole characters within damage are kept, and the damage on either side is
decoded as if it stood alone. -/
theorem decodeLossy_around
    {part : List UInt8}
    (formed : WellFormed part)
    (nonempty : part ≠ [])
    (before behind : List UInt8) :
    decodeLossy (before ++ part ++ behind) =
      decodeLossy before ++ decodeLossy part ++ decodeLossy behind := by
  obtain ⟨byte, rest, rfl⟩ := List.exists_cons_of_ne_nil nonempty
  have notTail := formed.not_isTail_head
  rw [List.append_assoc, List.cons_append,
    decodeLossy_append_cons notTail, ← List.cons_append,
    formed.decodeLossy_append, String.append_assoc]

/-- Decoding confines damage. Exactly the well-formed bytes, which are the
encodings of texts, are kept. Decoding its own result again changes nothing, so
any entries of a command line may be replaced by the encodings of their texts
without a change to how the program ends. And bytes are decoded in parts wherever
a whole character ends or something other than a tail byte begins. -/
theorem decodeLossy_confines_damage :
    (∀ bytes, utf8 (decodeLossy bytes) = bytes ↔ WellFormed bytes) ∧
    (∀ bytes, WellFormed bytes ↔ ∃ text, utf8 text = bytes) ∧
    (∀ bytes, decodeLossy (utf8 (decodeLossy bytes)) = decodeLossy bytes) ∧
    (∀ entries others : List (List UInt8),
      List.Forall₂
          (fun entry other =>
            other = entry ∨ other = utf8 (decodeLossy entry))
          entries others ->
        ∀ output, runProgram output others = runProgram output entries) ∧
    (∀ first second : List UInt8,
      (WellFormed first ∨ second = [] ∨
          ∃ byte rest, second = byte :: rest ∧
            (byte < 0x80 ∨ 0xBF < byte)) ->
        decodeLossy (first ++ second) =
          decodeLossy first ++ decodeLossy second) ∧
    ∀ before part behind : List UInt8, WellFormed part -> part ≠ [] ->
      decodeLossy (before ++ part ++ behind) =
          decodeLossy before ++ decodeLossy part ++ decodeLossy behind ∧
        utf8 (decodeLossy part) = part := by
  refine ⟨fun _ => utf8_decodeLossy_eq_self_iff,
    fun _ => wellFormed_iff_exists_utf8, fun _ => decodeLossy_utf8 _,
    ?entries, ?parts, ?around⟩
  case entries =>
    intro entries others replaced output
    apply runProgram_congr _ output
    apply replaced.imp
    rintro entry other (rfl | rfl)
    · rfl
    · exact decodeLossy_utf8 _
  case parts =>
    rintro first second (formed | rfl | ⟨byte, rest, rfl, outside⟩)
    · exact formed.decodeLossy_append second
    · rw [List.append_nil, decodeLossy_nil, String.append_empty]
    · have notTail : ¬IsTail byte := by
        rintro ⟨lower, upper⟩
        rcases outside with below | above
        · exact absurd below (UInt8.not_lt.2 lower)
        · exact absurd above (UInt8.not_lt.2 upper)
      exact decodeLossy_append_cons notTail first rest
  case around =>
    intro before part behind formed nonempty
    exact ⟨decodeLossy_around formed nonempty before behind,
      utf8_decodeLossy_of_wellFormed formed⟩

/-- A surrogate, a zero in two bytes and a number past the last are damage. A
character between a broken one and a stray tail byte is kept. -/
theorem decodeLossy_confines_damage_around_character :
    let surrogate : List UInt8 := [0xED, 0xA0, 0x80]
    let overlong : List UInt8 := [0xC0, 0x80]
    let large : List UInt8 := [0xF4, 0x90, 0x80, 0x80]
    let broken : List UInt8 := [0xE2, 0x82]
    let stray : List UInt8 := [0x80]
    ¬WellFormed surrogate ∧ ¬WellFormed overlong ∧ ¬WellFormed large ∧
      (∀ output,
        runProgram output [[0x61], utf8 "\uFFFD\uFFFD\uFFFD"] =
          runProgram output [[0x61], surrogate]) ∧
      WellFormed (utf8 "é") ∧
      decodeLossy (broken ++ utf8 "é" ++ stray) =
        "\uFFFD" ++ "é" ++ "\uFFFD" ∧
      decodeLossy (broken ++ [0xC3, 0xA9]) = "\uFFFD" ++ "é" := by
  intro surrogate overlong large broken stray
  obtain ⟨kept, encodings, _, entries, parts, around⟩ :=
    decodeLossy_confines_damage
  have decoded : decodeLossy surrogate = "\uFFFD\uFFFD\uFFFD" := by
    decide +kernel
  have replaced : List.Forall₂
      (fun entry other => other = entry ∨ other = utf8 (decodeLossy entry))
      [[0x61], surrogate] [[0x61], utf8 "\uFFFD\uFFFD\uFFFD"] := by
    rw [← decoded]
    exact .cons (.inl rfl) (.cons (.inr rfl) .nil)
  have formed : WellFormed (utf8 "é") := (encodings _).2 ⟨_, rfl⟩
  have nonempty : utf8 "é" ≠ [] := by decide
  have before : decodeLossy broken = "\uFFFD" := by decide +kernel
  have behind : decodeLossy stray = "\uFFFD" := by decide +kernel
  have within : decodeLossy (utf8 "é") = "é" := by decide +kernel
  refine ⟨?_, ?_, ?_, fun output => entries _ _ replaced output, formed, ?_,
    ?_⟩
  · rw [← kept]
    decide +kernel
  · rw [← kept]
    decide +kernel
  · rw [← kept]
    decide +kernel
  · rw [(around broken _ stray formed nonempty).1, before, within, behind]
  · have cut := parts broken [0xC3, 0xA9]
      (.inr (.inr ⟨0xC3, [0xA9], rfl, .inr (by decide)⟩))
    rw [cut, before]
    exact congrArg _ within

end ArgReport
