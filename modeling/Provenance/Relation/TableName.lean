import Provenance.Text.Lowercase
import Provenance.Zone

/-!
# Table names

Only tables of known zones take part in relations.  A table of a landing zone may have any name.
Any other name is a zone and a table joined by a single dot, and the zone begins like a result
zone, a process zone or a staging area.  Capital and small letters are not told apart there.
-/

namespace Provenance.TableName

/-- Whether a character is the given small letter up to case.  Two characters outside the basic
alphabet, the long s and the kelvin sign, are case variants of letters in it. -/
def sameLetter (letter c : Char) : Bool :=
  c == letter || c.toLower == letter || (letter == 's' && c == 'ſ') || (letter == 'k' && c == 'K')

/-- What follows a stem at the beginning of a name, if the name begins with the stem up to case. -/
def afterStem? : (stem : List Char) → List Char → Option (List Char)
  | [], cs => some cs
  | _ :: _, [] => none
  | l :: ls, c :: cs => if sameLetter l c then afterStem? ls cs else none

/-- Whether the characters hold exactly one dot, with something after it. -/
def isDotted (cs : List Char) : Bool :=
  match cs.dropWhile fun c => c != '.' with
  | _ :: table => !table.isEmpty && !table.contains '.'
  | [] => false

/-- Whether a name is a zone that begins with the stem and a table, joined by a single dot. -/
def matchesStem (stem name : String) : Bool := (afterStem? stem.toList name.toList).any isDotted

/-- The beginnings of zones whose tables take part in relations. -/
def stems : List String := [stagingStem, processStem, resultsStem]

/-- Whether a table takes part in relations. -/
def isAllowed (name : String) : Bool :=
  if name.isEmpty then false
  else if isLanding name then true
  else stems.any fun stem => matchesStem stem name

/-- The table name that a value stands for: without blanks at the ends, in small letters.  Only
strings name tables. -/
def ofValue : Option Json → String
  | some (.str s) => Text.lowercase (Text.trim s)
  | _ => ""

end Provenance.TableName
