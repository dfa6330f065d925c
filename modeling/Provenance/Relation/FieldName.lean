import Provenance.Relation.Basic
import Provenance.Relation.ReservedWord
import Provenance.Text.Blank
import Provenance.Text.Digit
import Provenance.Text.Lowercase

/-!
# Field names

A field name is the word for a whole table, or runs of small letters and digits joined by single
underscores.  Reserved words and plain numbers are not field names.
-/

namespace Provenance.FieldName

/-- Whether a character may stand in a run of a field name. -/
def isRunChar (c : Char) : Bool :=
  (decide ('a' ≤ c) && decide (c ≤ 'z')) || (decide ('0' ≤ c) && decide (c ≤ '9'))

/-- Whether the characters are runs joined by single underscores; `inRun` says that a run has
begun. -/
def isSnake (inRun : Bool) : List Char → Bool
  | [] => inRun
  | c :: cs => if isRunChar c then isSnake true cs else c == '_' && inRun && isSnake false cs

/-- Whether the characters are one or more digits. -/
def isDigits (cs : List Char) : Bool := !cs.isEmpty && cs.all Text.isDecimalDigit

/-- Whether the characters are a number: an optional minus, digits, and optionally a point and
more digits. -/
def isNumeral (cs : List Char) : Bool :=
  let cs := match cs with
    | '-' :: rest => rest
    | rest => rest
  let whole := cs.takeWhile Text.isDecimalDigit
  match cs.dropWhile Text.isDecimalDigit with
  | [] => isDigits whole
  | '.' :: fraction => isDigits whole && isDigits fraction
  | _ => false

/-- Whether a text is a field name. -/
def isValid (field : String) : Bool :=
  if field.isEmpty then false
  else if field = wholeTable then true
  else if isReserved field then false
  else if isNumeral field.toList then false
  else if field.toList.contains '*' then false
  else isSnake false field.toList

/-- A text, unless it is empty. -/
def nonempty? (s : String) : Option String := if s.isEmpty then none else some s

/-- The field name that a value stands for: without blanks at the ends, in small letters.  A value
that is not a string stands for its compact text; a missing or blank value stands for nothing. -/
def ofValue (value : Option Json) : Option String :=
  match value with
  | none => none
  | some .null => none
  | some (.str s) => nonempty? (Text.lowercase (Text.trim s))
  | some other => nonempty? (Text.lowercase (Text.trim other.compact))

end Provenance.FieldName
