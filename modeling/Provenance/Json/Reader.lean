import Provenance.Json.Fault

/-!
# Reading JSON

A reader takes the characters that are left and gives a value and the characters left after it, or
the reason to stop.  Every round of a loop over the text takes at least one character, so a loop
gets the text it starts with as a budget and gives up one character of it in every round.

Values that nobody asked for are passed over by a second, looser reader: it checks the shape of
the text, but neither the depth of brackets nor the range of numbers nor the pairing of
surrogates.
-/

namespace Provenance.Json

/-- Stop at the current place. -/
def stopHere {α : Type} (cause : Cause) (rest : List Char) : Except Stop α :=
  .error ⟨cause, rest, 0⟩

/-- Stop and point one byte further. -/
def stopNext {α : Type} (cause : Cause) (rest : List Char) : Except Stop α :=
  .error ⟨cause, rest, 1⟩

/-- White space between tokens. -/
def isSpace (c : Char) : Bool := c == ' ' || c == '\t' || c == '\n' || c == '\r'

/-- Pass over white space. -/
def skipSpace (cs : List Char) : List Char := cs.dropWhile isSpace

/-- Pass over the remaining letters of a literal. -/
def readLetters : (letters : List Char) → List Char → Except Stop (Unit × List Char)
  | [], cs => .ok ((), cs)
  | _ :: _, [] => stopHere .endInValue []
  | l :: ls, c :: cs => if l = c then readLetters ls cs else stopNext .misspeltLiteral (c :: cs)

/-! ## Strings -/

/-- The value of a hexadecimal digit. -/
def hexValue? (c : Char) : Option Nat :=
  if '0' ≤ c ∧ c ≤ '9' then some (c.toNat - '0'.toNat)
  else if 'a' ≤ c ∧ c ≤ 'f' then some (c.toNat - 'a'.toNat + 10)
  else if 'A' ≤ c ∧ c ≤ 'F' then some (c.toNat - 'A'.toNat + 10)
  else none

/-- Four hexadecimal digits, if the text begins with them. -/
def fourHex? : List Char → Option (Nat × List Char)
  | a :: b :: c :: d :: rest => do
    let a ← hexValue? a
    let b ← hexValue? b
    let c ← hexValue? c
    let d ← hexValue? d
    return (((a * 16 + b) * 16 + c) * 16 + d, rest)
  | _ => none

/-- Read four hexadecimal digits; four bytes are taken whatever they are. -/
def readFourHex (cs : List Char) : Except Stop (Nat × List Char) :=
  match fourHex? cs with
  | some r => .ok r
  | none => if byteCount cs < 4 then stopHere .endInString [] else .error ⟨.invalidEscape, cs, 4⟩

/-- Whether a code unit is the first half of a surrogate pair. -/
def isLeading (n : Nat) : Bool := decide (0xd800 ≤ n) && decide (n ≤ 0xdbff)

/-- Whether a code unit is the second half of a surrogate pair. -/
def isTrailing (n : Nat) : Bool := decide (0xdc00 ≤ n) && decide (n ≤ 0xdfff)

/-- Read the second half of a pair whose first half is `lead`. -/
def readPair (lead : Nat) : List Char → Except Stop (Char × List Char)
  | [] => stopHere .endInString []
  | '\\' :: [] => stopHere .endInString []
  | '\\' :: 'u' :: cs => do
    let (trail, rest) ← readFourHex cs
    if isTrailing trail then
      return (Char.ofNat ((lead - 0xd800) * 0x400 + (trail - 0xdc00) + 0x10000), rest)
    else stopHere .unpairedSurrogate rest
  | '\\' :: cs => stopNext .brokenSurrogatePair cs
  | cs => stopNext .brokenSurrogatePair cs

/-- Read a character given by its number, after the letter that announces it. -/
def readNumbered (cs : List Char) : Except Stop (Char × List Char) := do
  let (n, rest) ← readFourHex cs
  if isTrailing n then stopHere .unpairedSurrogate rest
  else if isLeading n then readPair n rest
  else return (Char.ofNat n, rest)

/-- The character that a one-letter escape stands for. -/
def escapeLetter? (c : Char) : Option Char :=
  if c = '"' then some '"'
  else if c = '\\' then some '\\'
  else if c = '/' then some '/'
  else if c = 'b' then some '\x08'
  else if c = 'f' then some '\x0c'
  else if c = 'n' then some '\n'
  else if c = 'r' then some '\r'
  else if c = 't' then some '\t'
  else none

/-- Read an escape after its backslash. -/
def readEscape : List Char → Except Stop (Char × List Char)
  | [] => stopHere .endInString []
  | c :: cs =>
    if c = 'u' then readNumbered cs
    else match escapeLetter? c with
      | some x => .ok (x, cs)
      | none => stopNext .invalidEscape (c :: cs)

/-- Read the characters of a string up to its closing quote. -/
def readChars : (budget : List Char) → List Char → Except Stop (List Char × List Char)
  | [], _ => stopHere .endInString []
  | _, [] => stopHere .endInString []
  | _ :: budget, c :: cs =>
    if c = '"' then .ok ([], cs)
    else if c = '\\' then do
      let (x, rest) ← readEscape cs
      let (xs, rest) ← readChars budget rest
      return (x :: xs, rest)
    else if c.toNat < 0x20 then stopNext .controlCharacter (c :: cs)
    else do
      let (xs, rest) ← readChars budget cs
      return (c :: xs, rest)

/-- Read a string after its opening quote. -/
def readString (cs : List Char) : Except Stop (String × List Char) := do
  let (xs, rest) ← readChars cs cs
  return (String.ofList xs, rest)

/-! ## Numbers -/

/-- Whether a character is one of the ten digits of a number. -/
def isDigit (c : Char) : Bool := decide ('0' ≤ c) && decide (c ≤ '9')

/-- The value of a digit. -/
def digitValue (c : Char) : Nat := c.toNat - '0'.toNat

/-- The largest significand that is kept. -/
def significandLimit : Nat := Nat.pow 2 64 - 1

/-- A number being read: its digits so far, and the power of ten they stand at. -/
structure Significand where
  digits : Nat
  exponent : Int

/-- Whether there is room for one more digit. -/
def Significand.fits (s : Significand) (c : Char) : Bool :=
  decide (s.digits * 10 + digitValue c ≤ significandLimit)

/-- Take the digits before the point.  Once a digit does not fit, it and those after it only raise
the power. -/
def Significand.whole (s : Significand) (full : Bool) : List Char → Significand
  | [] => s
  | c :: cs =>
    if full || !s.fits c then Significand.whole ⟨s.digits, s.exponent + 1⟩ true cs
    else Significand.whole ⟨s.digits * 10 + digitValue c, s.exponent⟩ false cs

/-- Take the digits after the point.  Once a digit does not fit, it and those after it are
dropped. -/
def Significand.fraction (s : Significand) : List Char → Significand
  | [] => s
  | c :: cs =>
    if s.fits c then Significand.fraction ⟨s.digits * 10 + digitValue c, s.exponent - 1⟩ cs else s

/-- A power of ten as a double. -/
def powerOfTen (n : Nat) : Float := Float.ofScientific 1 false n

/-- Divide by `10 ^ n` in steps that stay within the range of doubles. -/
def divideByPower (f : Float) (n : Nat) : (fuel : Nat) → Float
  | 0 => f
  | fuel + 1 =>
    if n ≤ 308 then f / powerOfTen n
    else if f == 0.0 then f
    else divideByPower (f / powerOfTen 308) (n - 308) fuel

/-- The double of a significand, unless it is too large for one. -/
def Significand.toFloat? (s : Significand) : Option Float :=
  let f := Float.ofNat s.digits
  match s.exponent with
  | .ofNat n =>
    if n ≤ 308 then
      let g := f * powerOfTen n
      if g.isInf then none else some g
    else if f == 0.0 then some f
    else none
  | .negSucc n => some (divideByPower f (n + 1) 4)

/-- Give a double its sign. -/
def signed (negative : Bool) (f : Float) : Float := if negative then -f else f

/-- The number of a significand, in a number that is not an integer. -/
def Significand.finish (s : Significand) (negative : Bool) (rest : List Char) :
    Except Stop (Number × List Char) :=
  match s.toFloat? with
  | some f => .ok (.real (signed negative f), rest)
  | none => stopHere .numberOutOfRange rest

/-- Exponents beyond this are not computed. -/
def exponentLimit : Nat := Nat.pow 2 31 - 1

/-- Read the digits of an exponent: its value, or nothing if it is beyond the limit; then the rest
is the text after the digit that went beyond. -/
def readExponentDigits (value : Nat) : List Char → Option Nat × List Char
  | [] => (some value, [])
  | c :: cs =>
    if isDigit c then
      let next := value * 10 + digitValue c
      if next ≤ exponentLimit then readExponentDigits next cs else (none, cs)
    else (some value, c :: cs)

/-- Take the sign of an exponent, if there is one: whether it is a minus, and the text after it. -/
def exponentSign : List Char → Bool × List Char
  | '+' :: cs => (false, cs)
  | '-' :: cs => (true, cs)
  | cs => (false, cs)

/-- Read an exponent after its sign, and finish the number. -/
def readUnsignedExponent (negative down : Bool) (s : Significand) :
    List Char → Except Stop (Number × List Char)
  | [] => stopHere .endInValue []
  | c :: rest =>
    if isDigit c then
      match readExponentDigits (digitValue c) rest with
      | (some e, rest) =>
        let exponent := if down then s.exponent - e else s.exponent + e
        Significand.finish ⟨s.digits, exponent⟩ negative rest
      | (none, rest) =>
        if s.digits ≠ 0 ∧ ¬ down then stopHere .numberOutOfRange rest
        else .ok (.real (signed negative 0.0), rest.dropWhile isDigit)
    else stopNext .invalidNumber (c :: rest)

/-- Read an exponent after its letter, and finish the number. -/
def readExponent (negative : Bool) (s : Significand) (cs : List Char) :
    Except Stop (Number × List Char) :=
  let (down, cs) := exponentSign cs
  readUnsignedExponent negative down s cs

/-- Go on after the digits after the point. -/
def readAfterFraction (negative : Bool) (s : Significand) :
    List Char → Except Stop (Number × List Char)
  | 'e' :: cs => readExponent negative s cs
  | 'E' :: cs => readExponent negative s cs
  | cs => s.finish negative cs

/-- Read the digits after the point. -/
def readFraction (negative : Bool) (s : Significand) (cs : List Char) :
    Except Stop (Number × List Char) :=
  match cs.takeWhile isDigit, cs.dropWhile isDigit with
  | [], [] => stopNext .endInValue []
  | [], rest => stopNext .invalidNumber rest
  | digits, rest => readAfterFraction negative (s.fraction digits) rest

/-- The smallest integer that is kept exactly is `-integerFloor`. -/
def integerFloor : Nat := Nat.pow 2 63

/-- An integer that fits; minus zero and integers below the smallest one are doubles. -/
def wholeNumber (negative : Bool) (n : Nat) : Number :=
  if negative then
    if n = 0 ∨ integerFloor < n then .real (-(Float.ofNat n)) else .int (-(n : Int))
  else .int n

/-- Go on after the digits before the point. -/
def readAfterWhole (negative : Bool) (s : Significand) :
    List Char → Except Stop (Number × List Char)
  | '.' :: cs => readFraction negative s cs
  | 'e' :: cs => readExponent negative s cs
  | 'E' :: cs => readExponent negative s cs
  | cs => if s.exponent = 0 then .ok (wholeNumber negative s.digits, cs) else s.finish negative cs

/-- Read a number after its sign. -/
def readMagnitude (negative : Bool) : List Char → Except Stop (Number × List Char)
  | [] => stopHere .endInValue []
  | '0' :: cs =>
    match cs with
    | c :: _ => if isDigit c then stopNext .invalidNumber cs else readAfterWhole negative ⟨0, 0⟩ cs
    | [] => readAfterWhole negative ⟨0, 0⟩ []
  | c :: cs =>
    if isDigit c then
      let digits := cs.takeWhile isDigit
      readAfterWhole negative (Significand.whole ⟨digitValue c, 0⟩ false digits)
        (cs.dropWhile isDigit)
    else stopNext .invalidNumber (c :: cs)

/-- Read a number. -/
def readNumber : List Char → Except Stop (Number × List Char)
  | '-' :: cs => readMagnitude true cs
  | cs => readMagnitude false cs

/-- Whether a number can begin with this character. -/
def startsNumber (c : Char) : Bool := c == '-' || isDigit c

/-! ## Arrays and objects -/

/-- What follows an item of an array: the closing bracket, or a comma and another item. -/
inductive Continuation where
  | closed (rest : List Char)
  | another (rest : List Char)

/-- Pass over the comma between two items, or over the closing bracket. -/
def nextItem (cs : List Char) : Except Stop Continuation :=
  match skipSpace cs with
  | [] => stopNext .endInList []
  | ']' :: rest => .ok (.closed rest)
  | ',' :: rest =>
    match skipSpace rest with
    | [] => stopNext .endInValue []
    | ']' :: more => stopNext .trailingComma (']' :: more)
    | more => .ok (.another more)
  | rest => stopNext .missingListComma rest

/-- Look for the first item of an array. -/
def firstItem (cs : List Char) : Except Stop Continuation :=
  match skipSpace cs with
  | [] => stopNext .endInList []
  | ']' :: rest => .ok (.closed rest)
  | rest => .ok (.another rest)

/-- Read the remaining items of an array; `next` has looked at what follows. -/
def readItems {α : Type} (item : List Char → Except Stop (α × List Char))
    (next : Except Stop Continuation) : (budget : List Char) → Except Stop (List α × List Char)
  | [] => stopHere .endInList []
  | _ :: budget => do
    match ← next with
    | .closed rest => return ([], rest)
    | .another rest =>
      let (x, rest) ← item rest
      let (xs, rest) ← readItems item (nextItem rest) budget
      return (x :: xs, rest)

/-- Read an array after its opening bracket, item by item. -/
def readArray {α : Type} (item : List Char → Except Stop (α × List Char)) (cs : List Char) :
    Except Stop (List α × List Char) :=
  readItems item (firstItem cs) ('[' :: cs)

/-- Pass over the comma between two fields up to the opening quote of the next name, or over the
closing brace. -/
def nextField (cs : List Char) : Except Stop Continuation :=
  match skipSpace cs with
  | [] => stopNext .endInObject []
  | '\x7d' :: rest => .ok (.closed rest)
  | ',' :: rest =>
    match skipSpace rest with
    | [] => stopNext .endInValue []
    | '"' :: more => .ok (.another more)
    | '\x7d' :: more => stopNext .trailingComma ('\x7d' :: more)
    | more => stopNext .keyNotString more
  | rest => stopNext .missingObjectComma rest

/-- Look for the first field of an object. -/
def firstField (cs : List Char) : Except Stop Continuation :=
  match skipSpace cs with
  | [] => stopNext .endInObject []
  | '\x7d' :: rest => .ok (.closed rest)
  | '"' :: rest => .ok (.another rest)
  | rest => stopNext .keyNotString rest

/-- Pass over the colon after a name. -/
def readColon (cs : List Char) : Except Stop (List Char) :=
  match skipSpace cs with
  | [] => stopNext .endInObject []
  | ':' :: rest => .ok rest
  | rest => stopNext .missingColon rest

/-- Read the remaining fields of an object.  `field` gets what has been read so far, the name, and
the text after the name. -/
def readFields {σ : Type} (field : σ → String → List Char → Except Stop (σ × List Char)) (sofar : σ)
    (next : Except Stop Continuation) : (budget : List Char) → Except Stop (σ × List Char)
  | [] => stopHere .endInObject []
  | _ :: budget => do
    match ← next with
    | .closed rest => return (sofar, rest)
    | .another rest =>
      let (name, rest) ← readString rest
      let (sofar, rest) ← field sofar name rest
      readFields field sofar (nextField rest) budget

/-- Read an object after its opening brace, field by field. -/
def readObject {σ : Type} (field : σ → String → List Char → Except Stop (σ × List Char)) (start : σ)
    (cs : List Char) : Except Stop (σ × List Char) :=
  readFields field start (firstField cs) ('\x7b' :: cs)

/-! ## Values -/

/-- How many brackets may be open at once, less one. -/
def depthLimit : Nat := 128

/-- Read the value of a member of an object, and set the field of this name. -/
def readMember (value : List Char → Except Stop (Json × List Char))
    (fields : List (String × Json)) (name : String) (cs : List Char) :
    Except Stop (List (String × Json) × List Char) := do
  let cs ← readColon cs
  let (x, cs) ← value cs
  return (putField name x fields, cs)

/-- Read a value.  `depth` bounds the open brackets; the last one it counts is refused. -/
def readValue : (depth : Nat) → List Char → Except Stop (Json × List Char)
  | 0, cs => stopNext .tooDeep cs
  | depth + 1, cs =>
    match skipSpace cs with
    | [] => stopNext .endInValue []
    | 'n' :: rest => do
      let (_, rest) ← readLetters ['u', 'l', 'l'] rest
      return (null, rest)
    | 't' :: rest => do
      let (_, rest) ← readLetters ['r', 'u', 'e'] rest
      return (bool true, rest)
    | 'f' :: rest => do
      let (_, rest) ← readLetters ['a', 'l', 's', 'e'] rest
      return (bool false, rest)
    | '"' :: rest => do
      let (s, rest) ← readString rest
      return (str s, rest)
    | '[' :: rest => do
      if depth = 0 then stopNext .tooDeep ('[' :: rest)
      else
        let (items, rest) ← readArray (readValue depth) rest
        return (arr items, rest)
    | '\x7b' :: rest => do
      if depth = 0 then stopNext .tooDeep ('\x7b' :: rest)
      else
        let (fields, rest) ← readObject (readMember (readValue depth)) [] rest
        return (obj fields, rest)
    | c :: rest =>
      if startsNumber c then do
        let (n, rest) ← readNumber (c :: rest)
        return (num n, rest)
      else stopNext .missingValue (c :: rest)

/-! ## Passing over values -/

/-- Pass over an escape after its backslash. -/
def skipEscape : List Char → Except Stop (Unit × List Char)
  | [] => stopHere .endInString []
  | c :: cs =>
    if c = 'u' then do
      let (_, rest) ← readFourHex cs
      return ((), rest)
    else if (escapeLetter? c).isSome then .ok ((), cs)
    else stopNext .invalidEscape (c :: cs)

/-- Pass over the characters of a string and its closing quote. -/
def skipChars : (budget : List Char) → List Char → Except Stop (Unit × List Char)
  | [], _ => stopHere .endInString []
  | _, [] => stopHere .endInString []
  | _ :: budget, c :: cs =>
    if c = '"' then .ok ((), cs)
    else if c = '\\' then do
      let (_, rest) ← skipEscape cs
      skipChars budget rest
    else if c.toNat < 0x20 then stopHere .controlCharacter (c :: cs)
    else skipChars budget cs

/-- Pass over a string after its opening quote. -/
def skipString (cs : List Char) : Except Stop (Unit × List Char) := skipChars cs cs

/-- Pass over an exponent after its letter. -/
def skipExponent (cs : List Char) : Except Stop (Unit × List Char) :=
  match (exponentSign cs).2 with
  | [] => stopHere .invalidNumber []
  | c :: rest =>
    if isDigit c then .ok ((), rest.dropWhile isDigit)
    else stopNext .invalidNumber (c :: rest)

/-- Go on after the digits after the point. -/
def skipAfterFraction : List Char → Except Stop (Unit × List Char)
  | 'e' :: cs => skipExponent cs
  | 'E' :: cs => skipExponent cs
  | cs => .ok ((), cs)

/-- Go on after the digits before the point. -/
def skipAfterWhole : List Char → Except Stop (Unit × List Char)
  | '.' :: cs =>
    match cs.takeWhile isDigit with
    | [] => stopNext .invalidNumber cs
    | _ => skipAfterFraction (cs.dropWhile isDigit)
  | cs => skipAfterFraction cs

/-- Pass over a number after its sign. -/
def skipMagnitude : List Char → Except Stop (Unit × List Char)
  | [] => stopHere .invalidNumber []
  | '0' :: cs =>
    match cs with
    | c :: _ => if isDigit c then stopNext .invalidNumber cs else skipAfterWhole cs
    | [] => .ok ((), [])
  | c :: cs =>
    if isDigit c then skipAfterWhole (cs.dropWhile isDigit)
    else stopNext .invalidNumber (c :: cs)

/-- What an open bracket waits for. -/
inductive Bracket where
  | list
  | object
  deriving DecidableEq

/-- The character that closes a bracket. -/
def Bracket.closing : Bracket → Char
  | list => ']'
  | object => '\x7d'

/-- The cause to report when the text ends inside a bracket. -/
def Bracket.endInside : Bracket → Cause
  | list => .endInList
  | object => .endInObject

/-- The cause to report when two entries are not separated. -/
def Bracket.missingComma : Bracket → Cause
  | list => .missingListComma
  | object => .missingObjectComma

/-- Pass over the name and the colon that come before a value inside a bracket, if there are any. -/
def skipName (bracket : Bracket) (cs : List Char) : Except Stop (Unit × List Char) :=
  match bracket with
  | .list => .ok ((), cs)
  | .object =>
    match skipSpace cs with
    | [] => stopNext .endInObject []
    | '"' :: rest => do
      let (_, rest) ← skipString rest
      let rest ← readColon rest
      return ((), rest)
    | rest => stopNext .keyNotString rest

/-- Pass over what follows an entry: closing brackets, until a comma asks for another entry.
Gives the brackets still open, innermost first. -/
def skipClosing (sawValue : Bool) :
    List Bracket → List Char → Except Stop (List Bracket × List Char)
  | [], cs => .ok ([], cs)
  | bracket :: outer, cs =>
    match skipSpace cs with
    | [] => stopNext bracket.endInside []
    | c :: rest =>
      if c = ',' ∧ sawValue then .ok (bracket :: outer, rest)
      else if c = bracket.closing then skipClosing true outer rest
      else if sawValue then stopNext bracket.missingComma (c :: rest)
      else .ok (bracket :: outer, c :: rest)

/-- Pass over the beginning of a value: a whole scalar, or an opening bracket. -/
def skipStart (cs : List Char) : Except Stop (Option Bracket × List Char) :=
  match skipSpace cs with
  | [] => stopNext .endInValue []
  | 'n' :: rest => do
    let (_, rest) ← readLetters ['u', 'l', 'l'] rest
    return (none, rest)
  | 't' :: rest => do
    let (_, rest) ← readLetters ['r', 'u', 'e'] rest
    return (none, rest)
  | 'f' :: rest => do
    let (_, rest) ← readLetters ['a', 'l', 's', 'e'] rest
    return (none, rest)
  | '"' :: rest => do
    let (_, rest) ← skipString rest
    return (none, rest)
  | '[' :: rest => .ok (some .list, rest)
  | '\x7b' :: rest => .ok (some .object, rest)
  | '-' :: rest => do
    let (_, rest) ← skipMagnitude rest
    return (none, rest)
  | c :: rest =>
    if isDigit c then do
      let (_, rest) ← skipMagnitude (c :: rest)
      return (none, rest)
    else stopNext .missingValue (c :: rest)

/-- Go on after the beginning of a value: brackets are closed, and `next` is asked for the next
entry if one is still open. -/
def skipAfterStart (next : List Bracket → List Char → Except Stop (Unit × List Char))
    (sawValue : Bool) (opened : List Bracket) (cs : List Char) :
    Except Stop (Unit × List Char) := do
  match ← skipClosing sawValue opened cs with
  | ([], rest) => return ((), rest)
  | (bracket :: outer, rest) =>
    let (_, rest) ← skipName bracket rest
    next (bracket :: outer) rest

/-- Pass over values until no bracket is open. -/
def skipEntries : (budget : List Char) → List Bracket → List Char → Except Stop (Unit × List Char)
  | [], _, _ => stopNext .endInValue []
  | _ :: budget, opened, cs => do
    let (start, rest) ← skipStart cs
    skipAfterStart (skipEntries budget) start.isNone (start.toList ++ opened) rest

/-- Pass over a value. -/
def skipValue (cs : List Char) : Except Stop (Unit × List Char) := skipEntries cs [] cs

/-! ## Whole texts -/

/-- After the value nothing but white space may follow. -/
def readEnd (cs : List Char) : Except Stop Unit :=
  match skipSpace cs with
  | [] => .ok ()
  | rest => stopNext .trailingCharacters rest

/-- Read a whole text with a reader for its value. -/
def readText {α : Type} (value : List Char → Except Stop (α × List Char)) (text : String) :
    Except Fault α :=
  let cs := text.toList
  let result := do
    let (x, rest) ← value cs
    readEnd rest
    return x
  result.mapError fun stop => stop.locate cs

/-- Read a text as one JSON value. -/
def parse (text : String) : Except Fault Json := readText (readValue depthLimit) text

end Provenance.Json
