import Provenance.Text.Cased
import Provenance.Text.LowerRuns

/-!
# Lower case

The lower case of a text, by the rules that hold in every language.  Most letters have one lower
case letter that does not depend on their place.  There are two exceptions: capital I with a dot
becomes an i followed by a combining dot, and capital sigma has a separate form at the end of a
word.
-/

namespace Provenance.Text

/-- The lower case of a character, apart from its place in a word. -/
def lowerChar (c : Char) : List Char :=
  if c.toNat < 0x80 then [c.toLower]
  else if c = 'İ' then ['i', '\u0307']
  else
    match lowerRuns.find? fun r => r.contains c.toNat with
    | some r => [Char.ofNat (c.toNat - r.first + r.image)]
    | none => [c]

/-- Whether the nearest character that counts is a cased letter; `cs` starts at the nearest one. -/
def meetsCased (cs : List Char) : Bool :=
  (cs.dropWhile isCaseIgnorable).head?.any isCased

/-- The lower case of one character, given the characters before it (nearest first) and after it. -/
def lowerAt (before : List Char) (c : Char) (after : List Char) : List Char :=
  if c = 'Σ' then
    if meetsCased before && !meetsCased after then ['ς'] else ['σ']
  else lowerChar c

/-- The lower case of `cs`, which follow the characters `before` (nearest first). -/
def lowerFrom (before : List Char) : List Char → List Char
  | [] => []
  | c :: cs => lowerAt before c cs ++ lowerFrom (c :: before) cs

/-- The lower case of a text. -/
def lowercase (s : String) : String := String.ofList (lowerFrom [] s.toList)

end Provenance.Text
