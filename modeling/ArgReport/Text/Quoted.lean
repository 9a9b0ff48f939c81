import ArgReport.Text.Unprintable

/-!
# Quoted text

A quotation stands between double quotes on one line. Inside it, a backslash
introduces what cannot stand for itself: NUL, tab, newline, carriage return,
the double quote, the backslash, and unprintable characters by their number in
lowercase hexadecimal between braces. An apostrophe stands for itself.

Each character is written on its own, so the quotation of a concatenation is
the concatenation of the quotations. The reader beside the writer goes from
left to right through the interior of a quotation and refuses everything that
is not an escape or a character that may stand for itself.
-/

namespace ArgReport
namespace Quoted

/-- How one character is written inside a quotation. -/
def escape (character : Char) : List Char :=
  if character = '\x00' then
    ['\\', '0']
  else if character = '\t' then
    ['\\', 't']
  else if character = '\n' then
    ['\\', 'n']
  else if character = '\r' then
    ['\\', 'r']
  else if character = '\"' then
    ['\\', '\"']
  else if character = '\\' then
    ['\\', '\\']
  else if IsUnprintable character then
    ['\\', 'u', '\x7b'] ++ Nat.toDigits 16 character.toNat ++ ['\x7d']
  else
    [character]

/-- What stands between the quotes. -/
def interior (characters : List Char) : List Char :=
  characters.flatMap escape

@[simp] theorem interior_nil : interior [] = [] := rfl

@[simp] theorem interior_cons
    (character : Char)
    (rest : List Char) :
    interior (character :: rest) = escape character ++ interior rest := by
  simp [interior]

/-- The interior of a concatenation is the concatenation of the interiors. -/
@[simp] theorem interior_append (left right : List Char) :
    interior (left ++ right) = interior left ++ interior right := by
  simp [interior]

/-- The quotation of a text. -/
def quote (text : String) : String :=
  "\"" ++ String.ofList (interior text.toList) ++ "\""

theorem toList_quote (text : String) :
    (quote text).toList = '\"' :: (interior text.toList ++ ['\"']) := by
  simp [quote]

/-- The value of a lowercase hexadecimal digit. -/
def digitValue? (character : Char) : Option Nat :=
  if '0' ≤ character ∧ character ≤ '9' then
    some (character.toNat - '0'.toNat)
  else if 'a' ≤ character ∧ character ≤ 'f' then
    some (character.toNat - 'a'.toNat + 10)
  else
    none

/-- The character of an escape of one letter. -/
def letter? (character : Char) : Option Char :=
  match character with
  | '0' => some '\x00'
  | 't' => some '\t'
  | 'n' => some '\n'
  | 'r' => some '\r'
  | '\"' => some '\"'
  | '\\' => some '\\'
  | _ => none

/-- Where the reader of an interior stands. -/
inductive Place
  /-- Between written characters. -/
  | outside
  /-- After a backslash. -/
  | escaped
  /-- After a backslash and a `u`. -/
  | number
  /-- Among the digits of a number, with the value of those read. -/
  | digits (value : Nat)
  deriving DecidableEq, Repr

/-- Read an interior on from a place in it. -/
def readFrom : Place -> List Char -> Option (List Char)
  | .outside, [] => some []
  | .outside, character :: rest =>
      if character = '\\' then
        readFrom .escaped rest
      else if character = '\"' then
        none
      else
        (readFrom .outside rest).map (character :: ·)
  | .escaped, character :: rest =>
      if character = 'u' then
        readFrom .number rest
      else
        match letter? character with
        | some meant => (readFrom .outside rest).map (meant :: ·)
        | none => none
  | .number, character :: rest =>
      if character = '\x7b' then
        readFrom (.digits 0) rest
      else
        none
  | .digits value, character :: rest =>
      if character = '\x7d' then
        (readFrom .outside rest).map (Char.ofNat value :: ·)
      else
        match digitValue? character with
        | some digit => readFrom (.digits (16 * value + digit)) rest
        | none => none
  | .escaped, [] => none
  | .number, [] => none
  | .digits _, [] => none

/-- The characters whose interior this is, if it is one. -/
def read? (written : List Char) : Option (List Char) :=
  readFrom .outside written

end Quoted
end ArgReport
