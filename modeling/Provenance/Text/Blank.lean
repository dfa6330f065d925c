import Provenance.Text.CodeRange

/-!
# Blank characters

Names and texts are compared after removing the blanks at both ends.  Blank means white space in
the sense of the character standard: no zero width space, no byte order mark and none of the
separators U+001C to U+001F.
-/

namespace Provenance.Text

/-- Code points of blank characters. -/
def blankRanges : CodeRanges :=
  [(0x0009, 0x000d), (0x0020, 0x0020), (0x0085, 0x0085), (0x00a0, 0x00a0), (0x1680, 0x1680),
   (0x2000, 0x200a), (0x2028, 0x2029), (0x202f, 0x202f), (0x205f, 0x205f), (0x3000, 0x3000)]

/-- Whether a character is blank. -/
def isBlank (c : Char) : Bool := blankRanges.contains c

/-- Remove the blanks at both ends of a list of characters. -/
def trimList (cs : List Char) : List Char :=
  ((cs.dropWhile isBlank).reverse.dropWhile isBlank).reverse

/-- Remove the blanks at both ends of a text. -/
def trim (s : String) : String := String.ofList (trimList s.toList)

/-- Whether a text holds nothing but blanks. -/
def isBlankText (s : String) : Bool := s.toList.all isBlank

/-- Whether a text begins with another one. -/
def startsWith (s start : String) : Bool := start.toList.isPrefixOf s.toList

end Provenance.Text
