import ArgReport.Text.Utf8
import Mathlib.Data.List.Basic

/-!
# Lines of bytes

Bytes are read as lines that end with a newline, and perhaps the beginning of one
more. What has been written of some lines, cut anywhere, has the first few of
them as its complete lines, and has all of them only if nothing was cut off.
-/

namespace ArgReport

/-- The byte that ends a line. -/
def newline : UInt8 := 0x0A

/-- The lines that have come to their newline, without it. -/
def completeLines (bytes : List UInt8) : List (List UInt8) :=
  (bytes.splitOn newline).dropLast

/-- The bytes of some lines, each with its newline. -/
def writtenLines (lines : List (List UInt8)) : List UInt8 :=
  lines.flatMap fun line => line ++ [newline]

@[simp] theorem writtenLines_nil : writtenLines [] = [] := rfl

@[simp] theorem writtenLines_cons
    (line : List UInt8)
    (rest : List (List UInt8)) :
    writtenLines (line :: rest) = line ++ newline :: writtenLines rest := by
  simp [writtenLines]

theorem writtenLines_append (first second : List (List UInt8)) :
    writtenLines (first ++ second) =
      writtenLines first ++ writtenLines second := by
  rw [writtenLines, List.flatMap_append, writtenLines, writtenLines]

section Line

variable
  {line : List UInt8}
  (unbroken : newline ∉ line)

include unbroken

theorem completeLines_of_unbroken : completeLines line = [] := by
  rw [completeLines, List.splitOn_eq_singleton unbroken]
  rfl

theorem completeLines_append_cons (rest : List UInt8) :
    completeLines (line ++ newline :: rest) = line :: completeLines rest := by
  rw [completeLines, List.splitOn_append_cons_self_of_not_mem unbroken,
    List.dropLast_cons_of_ne_nil (List.splitOn_ne_nil _ _)]
  rfl

/-- A beginning of a line and more lies within the line, or goes past its
newline. -/
theorem prefix_line_cases
    {written rest : List UInt8}
    (begun : written <+: line ++ newline :: rest) :
    newline ∉ written ∨
      ∃ more, written = line ++ newline :: more ∧ more <+: rest := by
  have lineBegins : line ++ [newline] <+: line ++ newline :: rest := by
    rw [List.prefix_append_right_inj]
    exact (List.prefix_cons_inj _).2 List.nil_prefix
  rcases List.prefix_or_prefix_of_prefix begun lineBegins with short | long
  · rcases List.prefix_concat_iff.1 short with whole | within
    · exact .inr ⟨[], whole, List.nil_prefix⟩
    · exact .inl fun member => unbroken (within.subset member)
  · obtain ⟨more, rfl⟩ := long
    rw [List.append_assoc, List.singleton_append] at begun ⊢
    refine .inr ⟨more, rfl, ?_⟩
    rw [List.prefix_append_right_inj, List.prefix_cons_inj] at begun
    exact begun

end Line

/-- What is written of some lines has the first few of them as its complete
lines. -/
theorem completeLines_of_prefix
    {lines : List (List UInt8)}
    (unbroken : ∀ line ∈ lines, newline ∉ line)
    {written : List UInt8}
    (begun : written <+: writtenLines lines) :
    ∃ count ≤ lines.length,
      completeLines written = lines.take count ∧
        (count = lines.length ↔ written = writtenLines lines) := by
  induction lines generalizing written with
  | nil =>
      have nothing : written = [] := List.prefix_nil.1 begun
      subst nothing
      exact ⟨0, Nat.le_refl 0, rfl, by simp⟩
  | cons line rest inductionHypothesis =>
      have lineUnbroken := unbroken line List.mem_cons_self
      have restUnbroken : ∀ other ∈ rest, newline ∉ other :=
        fun other member => unbroken other (List.mem_cons_of_mem _ member)
      rw [writtenLines_cons] at begun
      rcases prefix_line_cases lineUnbroken begun with
        within | ⟨more, rfl, moreBegun⟩
      · refine ⟨0, Nat.zero_le _, completeLines_of_unbroken within, ?_⟩
        constructor
        · intro none
          cases none
        · intro whole
          rw [whole, writtenLines_cons] at within
          simp at within
      · obtain ⟨count, bound, complete, whole⟩ :=
          inductionHypothesis restUnbroken moreBegun
        refine ⟨count + 1, Nat.succ_le_succ bound, ?_, ?_⟩
        · rw [completeLines_append_cons lineUnbroken, complete,
            List.take_succ_cons]
        · rw [List.length_cons, Nat.add_right_cancel_iff, whole,
            writtenLines_cons, List.append_cancel_left_eq, List.cons.injEq]
          simp

/-! ## Texts of one line -/

theorem newline_eq_ofNat_iff {value : Nat} :
    newline = UInt8.ofNat value ↔ value % 256 = 0x0A := by
  rw [← UInt8.toNat_inj, UInt8.toNat_ofNat']
  exact eq_comm

/-- Only a line break has a newline among its bytes: the bytes of a character of
several are all past the ASCII ones. -/
theorem eq_of_newline_mem
    {character : Char}
    (member : newline ∈ String.utf8EncodeChar character) :
    character = '\n' := by
  have number : character.val.toNat = 0x0A := by
    unfold String.utf8EncodeChar at member
    generalize character.val.toNat = value at member ⊢
    simp only at member
    split_ifs at member
    all_goals
      simp only [List.mem_cons, List.not_mem_nil, or_false,
        newline_eq_ofNat_iff] at member
      omega
  apply Char.ext
  exact UInt32.toNat_inj.1 number

/-- A text without a line break has no newline among its bytes. -/
theorem newline_not_mem_utf8
    {text : String}
    (oneLine : '\n' ∉ text.toList) :
    newline ∉ utf8 text := by
  intro member
  obtain ⟨character, inText, inCharacter⟩ := List.mem_flatMap.1 member
  rw [eq_of_newline_mem inCharacter] at inText
  exact oneLine inText

end ArgReport
