import Provenance.Proofs.Json.Written

/-!
# Reading strings

A string that stands for a text is read as this text, up to its closing quote.  The reader that
passes over values gets to the same place, but it does not need a text: it also accepts half a
surrogate pair.  This module begins with what all readers have to do with blanks, and with what
may follow a value.

Main results:

- Theorem `readString_pieces`: a string is read as the text that it stands for.
- Theorem `skipString_pieces`: every string is passed over.
-/

namespace Provenance.Json

/-! ## Steps that succeed -/

@[simp]
theorem ok_bind {α β : Type} (a : α) (f : α → Except Stop β) : (Except.ok a >>= f) = f a := rfl

@[simp]
theorem pure_eq_ok {α : Type} (a : α) : (pure a : Except Stop α) = .ok a := rfl

/-! ## Blanks and what follows a value -/

/-- Every blank is white space. -/
theorem Blank.isSpace_char (b : Blank) : isSpace b.char = true := by
  cases b <;> rfl

theorem Gap.chars_append (g h : Gap) : Gap.chars (g ++ h) = g.chars ++ h.chars :=
  List.map_append

/-- White space is skipped. -/
theorem skipSpace_gap (g : Gap) (cs : List Char) : skipSpace (g.chars ++ cs) = skipSpace cs := by
  induction g with
  | nil => rfl
  | cons b g ih =>
      have hb : isSpace b.char = true := b.isSpace_char
      simp only [Gap.chars, List.map_cons, List.cons_append] at ih ⊢
      rw [skipSpace, List.dropWhile_cons_of_pos hb]
      exact ih

/-- Nothing is skipped where something else than white space begins. -/
theorem skipSpace_cons {c : Char} (h : isSpace c = false) (cs : List Char) :
    skipSpace (c :: cs) = c :: cs := by
  simp [skipSpace, h]

/-- What may follow a value: nothing, a blank, a comma or a closing bracket. -/
def endsValue : List Char → Bool
  | [] => true
  | c :: _ => isSpace c || c == ',' || c == ']' || c == '\x7d'

/-- A text that does not go on with a digit. -/
def endsDigits : List Char → Bool
  | [] => true
  | c :: _ => !isDigit c

/-- White space may stand between a value and what ends it. -/
theorem endsValue_gap (g : Gap) {rest : List Char} (h : endsValue rest = true) :
    endsValue (g.chars ++ rest) = true := by
  cases g with
  | nil => exact h
  | cons b g => simp [Gap.chars, endsValue, b.isSpace_char]

/-- What ends a value does not go on with a digit. -/
theorem endsDigits_of_endsValue {rest : List Char} (h : endsValue rest = true) :
    endsDigits rest = true := by
  cases rest with
  | nil => rfl
  | cons c rest =>
      simp only [endsValue, isSpace, Bool.or_eq_true, beq_iff_eq] at h
      rcases h with (((((rfl | rfl) | rfl) | rfl) | rfl) | rfl) | rfl <;> rfl

/-! ## Strings -/

/-- A hexadecimal digit is read as its value, large or small. -/
theorem HexDigit.hexValue?_char (d : HexDigit) : hexValue? d.char = some d.value.val := by
  obtain ⟨value, capital⟩ := d
  revert value capital
  decide

/-- Four hexadecimal digits are read as the code unit that they stand for. -/
theorem readFourHex_digits (u : CodeUnit) (rest : List Char) :
    readFourHex (u.digits ++ rest) = .ok (u.value, rest) := by
  have hfour : fourHex? (u.digits ++ rest) = some (u.value, rest) := by
    simp [fourHex?, CodeUnit.digits, HexDigit.hexValue?_char, CodeUnit.value]
  simp only [readFourHex, hfour]

/-- The letter of an escape is read as its meaning. -/
theorem Escape.escapeLetter?_letter (e : Escape) : escapeLetter? e.letter = some e.meaning := by
  cases e <;> rfl

/-- The letter that announces four digits belongs to no other escape. -/
theorem Escape.letter_ne (e : Escape) : e.letter ≠ 'u' := by
  cases e <;> decide

/-- An escape by a letter is read as its meaning. -/
theorem readEscape_letter (e : Escape) (rest : List Char) :
    readEscape (e.letter :: rest) = .ok (e.meaning, rest) := by
  simp only [readEscape, if_neg e.letter_ne, e.escapeLetter?_letter]

/-- A code unit that is no half of a surrogate pair is read as its character. -/
theorem readEscape_unit {u : CodeUnit} (htrail : ¬ isTrailing u.value = true)
    (hlead : ¬ isLeading u.value = true) (rest : List Char) :
    readEscape ('u' :: (u.digits ++ rest)) = .ok (Char.ofNat u.value, rest) := by
  simp [readEscape, readNumbered, readFourHex_digits, htrail, hlead]

/-- Two halves of a surrogate pair are read as one character. -/
theorem readEscape_pair {u v : CodeUnit} (htrail : ¬ isTrailing u.value = true)
    (hlead : isLeading u.value = true) (hsecond : isTrailing v.value = true)
    (rest : List Char) :
    readEscape ('u' :: (u.digits ++ '\\' :: 'u' :: (v.digits ++ rest))) =
      .ok (u.pair v, rest) := by
  simp [readEscape, readNumbered, readPair, readFourHex_digits, htrail, hlead, hsecond,
    CodeUnit.pair]

section Rounds

variable {budget cs rest xs : List Char} {b c : Char}

/-- One round that takes a character as it is. -/
theorem readChars_plain (visible : 0x20 ≤ c.toNat) (notQuote : c ≠ '"')
    (notBackslash : c ≠ '\\') (h : readChars budget cs = .ok (xs, rest)) :
    readChars (b :: budget) (c :: cs) = .ok (c :: xs, rest) := by
  simp [readChars, notQuote, notBackslash, Nat.not_lt.2 visible, h]

/-- One round that takes an escape. -/
theorem readChars_escape {cs' : List Char} (hescape : readEscape cs = .ok (c, cs'))
    (h : readChars budget cs' = .ok (xs, rest)) :
    readChars (b :: budget) ('\\' :: cs) = .ok (c :: xs, rest) := by
  simp [readChars, hescape, h]

end Rounds

/-- A budget that lasts for one more round. -/
theorem exists_cons_of_lt_length {n : Nat} {budget : List Char} (h : n < budget.length) :
    ∃ b budget', budget = b :: budget' ∧ n ≤ budget'.length := by
  cases budget with
  | nil => contradiction
  | cons b budget' => exact ⟨b, budget', rfl, Nat.le_of_lt_succ h⟩

/-- Every piece has at least one character, so that a text lasts as a budget for its pieces. -/
theorem length_le_flatMap_chars (pieces : List Piece) :
    pieces.length ≤ (pieces.flatMap Piece.chars).length := by
  induction pieces with
  | nil => exact Nat.le_refl 0
  | cons piece pieces ih =>
      have hpiece : 1 ≤ piece.chars.length := by
        cases piece <;> simp [Piece.chars]
      simp only [List.flatMap_cons, List.length_append, List.length_cons]
      omega

/-- Pieces are read as the characters that they stand for. -/
theorem readChars_pieces {pieces : List Piece} {xs : List Char}
    (h : Piece.decode? pieces = some xs) (rest : List Char) {budget : List Char}
    (hbudget : pieces.length < budget.length) :
    readChars budget (pieces.flatMap Piece.chars ++ '"' :: rest) = .ok (xs, rest) := by
  -- every round takes a piece, or the two pieces of a pair, and one character of the budget
  fun_induction Piece.decode? pieces generalizing xs budget with
  | case1 =>
      obtain ⟨b, budget, rfl, -⟩ := exists_cons_of_lt_length hbudget
      obtain rfl := Option.some.inj h
      rfl
  | case2 c visible notQuote notBackslash pieces ih =>
      obtain ⟨b, budget, rfl, hrest⟩ := exists_cons_of_lt_length hbudget
      obtain ⟨xs, hxs, rfl⟩ := Option.map_eq_some_iff.1 h
      exact readChars_plain visible notQuote notBackslash (ih hxs hrest)
  | case3 e pieces ih =>
      obtain ⟨b, budget, rfl, hrest⟩ := exists_cons_of_lt_length hbudget
      obtain ⟨xs, hxs, rfl⟩ := Option.map_eq_some_iff.1 h
      exact readChars_escape (readEscape_letter e _) (ih hxs hrest)
  | case4 => contradiction
  | case5 u htrail hlead v pieces hsecond ih =>
      obtain ⟨b, budget, rfl, hrest⟩ := exists_cons_of_lt_length hbudget
      obtain ⟨xs, hxs, rfl⟩ := Option.map_eq_some_iff.1 h
      have hpair := readEscape_pair htrail hlead hsecond
        (pieces.flatMap Piece.chars ++ '"' :: rest)
      have hround := readChars_escape (b := b) hpair (ih hxs (Nat.le_of_lt hrest))
      simpa [Piece.chars] using hround
  | case6 => contradiction
  | case7 => contradiction
  | case8 u pieces htrail hlead ih =>
      obtain ⟨b, budget, rfl, hrest⟩ := exists_cons_of_lt_length hbudget
      obtain ⟨xs, hxs, rfl⟩ := Option.map_eq_some_iff.1 h
      have hunit := readEscape_unit htrail hlead (pieces.flatMap Piece.chars ++ '"' :: rest)
      have hround := readChars_escape (b := b) hunit (ih hxs hrest)
      simpa [Piece.chars] using hround

/-- A string that stands for a text is read as this text. -/
theorem readString_pieces {pieces : List Piece} {s : String} (h : Piece.text? pieces = some s)
    (rest : List Char) :
    readString (pieces.flatMap Piece.chars ++ '"' :: rest) = .ok (s, rest) := by
  obtain ⟨xs, hxs, rfl⟩ := Option.map_eq_some_iff.1 h
  have hbudget : pieces.length < (pieces.flatMap Piece.chars ++ '"' :: rest).length := by
    have hlength := length_le_flatMap_chars pieces
    simp only [List.length_append, List.length_cons]
    omega
  simp [readString, readChars_pieces hxs rest hbudget]

/-- An escape is passed over whatever it stands for. -/
theorem skipEscape_digits (u : CodeUnit) (rest : List Char) :
    skipEscape ('u' :: (u.digits ++ rest)) = .ok ((), rest) := by
  simp [skipEscape, readFourHex_digits]

/-- An escape by a letter is skipped. -/
theorem skipEscape_letter (e : Escape) (rest : List Char) :
    skipEscape (e.letter :: rest) = .ok ((), rest) := by
  simp [skipEscape, e.letter_ne, e.escapeLetter?_letter]

/-- Pieces are passed over whatever they stand for, also half a surrogate pair. -/
theorem skipChars_pieces (pieces : List Piece) (rest : List Char) {budget : List Char}
    (hbudget : pieces.length < budget.length) :
    skipChars budget (pieces.flatMap Piece.chars ++ '"' :: rest) = .ok ((), rest) := by
  induction pieces generalizing budget with
  | nil =>
      obtain ⟨b, budget, rfl, -⟩ := exists_cons_of_lt_length hbudget
      rfl
  | cons piece pieces ih =>
      obtain ⟨b, budget, rfl, hrest⟩ := exists_cons_of_lt_length hbudget
      have hnext := ih hrest
      cases piece with
      | plain c visible notQuote notBackslash =>
          simpa [Piece.chars, skipChars, notQuote, notBackslash, Nat.not_lt.2 visible] using hnext
      | escape e =>
          simpa [Piece.chars, skipChars, skipEscape_letter] using hnext
      | unit u =>
          simpa [Piece.chars, skipChars, skipEscape_digits] using hnext

/-- A string is skipped up to its closing quote. -/
theorem skipString_pieces (pieces : List Piece) (rest : List Char) :
    skipString (pieces.flatMap Piece.chars ++ '"' :: rest) = .ok ((), rest) := by
  refine skipChars_pieces pieces rest ?_
  have hlength := length_le_flatMap_chars pieces
  simp only [List.length_append, List.length_cons]
  omega

end Provenance.Json
