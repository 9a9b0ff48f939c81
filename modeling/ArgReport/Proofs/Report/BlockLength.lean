import ArgReport.Proofs.Plan.Notices
import ArgReport.Proofs.Report.Defaults
import ArgReport.Proofs.Text.Base64
import ArgReport.Proofs.Text.Numeral
import Mathlib.Algebra.GroupWithZero.Nat
import Mathlib.Data.Nat.Log

/-!
# How long a block is

The default reporters write an argument twice as it is, its length in decimal, and
its bytes in base64. So the length of its block depends on the length of the
argument alone, and where the blocks of a report stand depends on the lengths of
its arguments.
-/

namespace ArgReport

/-! ## Texts of one byte a character -/

theorem utf8ByteSize_ofList_of_ascii
    {characters : List Char}
    (ascii : ∀ character ∈ characters, character.utf8Size = 1) :
    (String.ofList characters).utf8ByteSize = characters.length := by
  have ones : characters.map (fun character =>
      (String.utf8EncodeChar character).length) =
        List.replicate characters.length 1 := by
    rw [← List.map_const']
    apply List.map_congr_left
    intro character member
    rw [String.length_utf8EncodeChar, ascii character member]
  rw [← length_utf8, utf8, String.toList_ofList, List.length_flatMap, ones,
    List.sum_replicate_nat, Nat.mul_one]

/-- How many digits a number has in decimal. Zero has one. -/
def decimalDigits (number : Nat) : Nat :=
  Nat.log 10 number + 1

theorem length_toDigits (number : Nat) :
    (Nat.toDigits 10 number).length = decimalDigits number := by
  induction number using Nat.strongRecOn with
  | _ number inductionHypothesis =>
      by_cases small : number < 10
      · rw [Nat.toDigits_of_lt_base small, decimalDigits, Nat.log_of_lt small]
        rfl
      · have large : 10 ≤ number := Nat.le_of_not_lt small
        have less : number / 10 < number := by omega
        rw [Nat.toDigits_of_base_le (by decide) large, List.length_append,
          inductionHypothesis _ less, decimalDigits, decimalDigits,
          Nat.log_of_one_lt_of_le (by decide) large]
        rfl

theorem utf8ByteSize_toString (number : Nat) :
    (toString number).utf8ByteSize = decimalDigits number := by
  rw [← String.ofList_toList (s := toString number),
    utf8ByteSize_ofList_of_ascii, toList_toString, length_toDigits]
  intro digit member
  have isDigit := isDigit_of_mem_toString member
  rw [Char.isDigit, Bool.and_eq_true, decide_eq_true_eq, decide_eq_true_eq]
    at isDigit
  exact Char.utf8Size_eq_one_iff.2 (UInt32.le_trans isDigit.2 (by decide))

theorem Builtin.utf8ByteSize_base64 (argument : String) :
    (base64 argument).utf8ByteSize = 4 * ((argument.utf8ByteSize + 2) / 3) := by
  rw [base64, utf8ByteSize_ofList_of_ascii, Base64.length_encode, length_utf8]
  intro character member
  have table : ∀ index : Fin 64, (Base64.symbol index).utf8Size = 1 := by
    decide
  rcases Base64.mem_encode member with rfl | ⟨value, bound, rfl⟩
  · decide
  · exact table ⟨value, bound⟩

namespace Report

/-- How long the block of an argument of some length is. -/
def blockLength (size : Nat) : Nat :=
  2 * size + decimalDigits size + 4 * ((size + 2) / 3) + 179

theorem length_blockText_defaults (argument : String) :
    (utf8 (blockText Reporter.defaults argument)).length =
      blockLength (utf8 argument).length := by
  have notice : noticeText.utf8ByteSize = 28 := by decide
  have border : borderLine.utf8ByteSize = 61 := by decide
  have lineEnd : "\n".utf8ByteSize = 1 := by decide
  have separator : ": ".utf8ByteSize = 2 := by decide
  have opening : " (".utf8ByteSize = 2 := by decide
  have closing : " bytes)".utf8ByteSize = 7 := by decide
  have ham : (Builtin.label .echo).utf8ByteSize = 3 := by decide
  have spam : (Builtin.label .measure).utf8ByteSize = 4 := by decide
  have eggs : (Builtin.label .encode).utf8ByteSize = 4 := by decide
  simp only [length_utf8, blockText_defaults, Builtin.line, Builtin.finding,
    String.utf8ByteSize_append, Builtin.utf8ByteSize_base64,
    utf8ByteSize_toString, notice, border, lineEnd, separator, opening, closing,
    ham, spam, eggs, blockLength]
  omega

theorem length_reportText
    (reporters : List Reporter)
    (arguments : List String) :
    (utf8 (reportText reporters arguments)).length =
      (arguments.map fun argument =>
        (utf8 (blockText reporters argument)).length).sum := by
  induction arguments with
  | nil => rfl
  | cons argument rest inductionHypothesis =>
      rw [reportText_cons, utf8_append, List.length_append, List.map_cons,
        List.sum_cons, inductionHypothesis]

/-- How long a report by the default reporters is. -/
theorem length_reportText_defaults (arguments : List String) :
    (utf8 (reportText Reporter.defaults arguments)).length =
      (arguments.map fun argument =>
        blockLength (utf8 argument).length).sum := by
  simp only [length_reportText, length_blockText_defaults]

/-- Where the notices of a report by the default reporters end. -/
theorem noticeEnd_defaults (arguments : List String) (number : Nat) :
    noticeEnd Reporter.defaults arguments number =
      28 + ((arguments.take number).map fun argument =>
        blockLength (utf8 argument).length).sum := by
  have notice : (utf8 noticeText).length = 28 := by decide
  rw [noticeEnd, utf8_append, List.length_append, length_reportText_defaults,
    notice, Nat.add_comm]

end Report
end ArgReport
