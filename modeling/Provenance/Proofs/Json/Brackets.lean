import Mathlib.Data.List.Forall2
import Provenance.Proofs.Json.Strings

/-!
# Reading arrays and objects

Arrays and objects are read entry by entry, with a reader for one entry.  If this reader takes
every entry up to its end, whatever follows, then the whole array or object is taken up to its
closing bracket, with all its entries and in their order.

Main results:

- Theorem `readArray_items`: an array is read as the values of its items.
- Theorem `readObject_members`: an object is read member by member.
-/

namespace Provenance.Json

/-! ## The text after an entry -/

/-- What follows the first entry in brackets: the other entries, each after a comma, and the
closing bracket. -/
def continued (close : Char) (rest : List Char) : List (List Char) → List Char
  | [] => close :: rest
  | text :: texts => ',' :: (text ++ continued close rest texts)

/-- The entries in brackets are the first one and what follows it. -/
theorem commaSeparated_cons (close : Char) (rest text : List Char) (texts : List (List Char)) :
    commaSeparated (text :: texts) ++ close :: rest = text ++ continued close rest texts := by
  induction texts generalizing text with
  | nil => rfl
  | cons next texts ih =>
      simp only [commaSeparated, continued, List.append_assoc, List.cons_append, ih]

/-- What follows the first entry is longer than the number of entries in it. -/
theorem length_lt_continued (close : Char) (rest : List Char) (texts : List (List Char)) :
    texts.length < (continued close rest texts).length := by
  induction texts with
  | nil => exact Nat.succ_pos _
  | cons text texts ih =>
      simp only [continued, List.length_cons, List.length_append]
      omega

/-- A value can end wherever a comma or the closing bracket follows. -/
theorem endsValue_continued {close : Char} {rest : List Char}
    (hclose : endsValue (close :: rest) = true) (texts : List (List Char)) :
    endsValue (continued close rest texts) = true := by
  cases texts with
  | nil => exact hclose
  | cons text texts => simp [continued, endsValue]

/-- A text that begins with something else than a blank or a closing bracket. -/
def startsItem : List Char → Bool
  | [] => false
  | c :: _ => !isSpace c && c != ']'

/-- A text that begins an item has a first character, which neither is white space nor closes the
array. -/
theorem exists_cons_of_startsItem {text : List Char} (h : startsItem text = true) :
    ∃ c cs, text = c :: cs ∧ isSpace c = false ∧ c ≠ ']' := by
  cases text with
  | nil => contradiction
  | cons c cs =>
      refine ⟨c, cs, rfl, ?_⟩
      simpa [startsItem] using h

/-! ## Arrays -/

section Looking

variable {text : List Char} (h : startsItem text = true)

include h

/-- Where an item begins after the opening bracket, the reader finds one more. -/
theorem firstItem_another (g : Gap) (rest : List Char) :
    firstItem (g.chars ++ (text ++ rest)) = .ok (.another (text ++ rest)) := by
  obtain ⟨c, cs, rfl, hspace, hclose⟩ := exists_cons_of_startsItem h
  rw [firstItem, skipSpace_gap, List.cons_append, skipSpace_cons hspace]
  split <;> simp_all

/-- Where an item begins after a comma, the reader finds one more. -/
theorem nextItem_another (after before : Gap) (rest : List Char) :
    nextItem (after.chars ++ ',' :: (before.chars ++ (text ++ rest))) =
      .ok (.another (text ++ rest)) := by
  obtain ⟨c, cs, rfl, hspace, hclose⟩ := exists_cons_of_startsItem h
  have hcomma : isSpace ',' = false := rfl
  simp only [nextItem, skipSpace_gap, List.cons_append, skipSpace_cons hspace,
    skipSpace_cons hcomma]
  split <;> simp_all

end Looking

/-- An array can be closed right after it was opened. -/
theorem firstItem_closed (g : Gap) (rest : List Char) :
    firstItem (g.chars ++ ']' :: rest) = .ok (.closed rest) := by
  rw [firstItem, skipSpace_gap]
  rfl

/-- An array can be closed after an item. -/
theorem nextItem_closed (g : Gap) (rest : List Char) :
    nextItem (g.chars ++ ']' :: rest) = .ok (.closed rest) := by
  rw [nextItem, skipSpace_gap]
  rfl

section Arrays

variable {α β : Type} {item : List Char → Except Stop (β × List Char)} {content : α → List Char}
  {items : List (Padded α)} {values : List β}

/-- A reader takes a text as a value, whatever follows. -/
structure Reads (item : List Char → Except Stop (β × List Char)) (text : List Char) (value : β) :
    Prop where
  starts : startsItem text = true
  ends : ∀ rest, endsValue rest = true → item (text ++ rest) = .ok (value, rest)

/-- A reader takes all items of an array. -/
abbrev ReadsAll (item : List Char → Except Stop (β × List Char)) (content : α → List Char) :
    List (Padded α) → List β → Prop :=
  List.Forall₂ fun p value => Reads item (content p.content) value

/-- One round that takes an item. -/
theorem readItems_another {next : Except Stop Continuation} {text more rest budget : List Char}
    {b : Char} {value : β} (hnext : next = .ok (.another (text ++ more)))
    (hitem : Reads item text value) (hmore : endsValue more = true)
    (h : readItems item (nextItem more) budget = .ok (values, rest)) :
    readItems item next (b :: budget) = .ok (value :: values, rest) := by
  simp [readItems, hnext, hitem.ends more hmore, h]

/-- After an item the other items are read up to the closing bracket. -/
theorem readItems_continued (h : ReadsAll item content items values) (after : Gap)
    (rest : List Char) {budget : List Char} (hbudget : items.length < budget.length) :
    readItems item
      (nextItem (after.chars ++ continued ']' rest (items.map (Padded.chars content)))) budget =
        .ok (values, rest) := by
  induction h generalizing after budget with
  | nil =>
      obtain ⟨b, budget, rfl, -⟩ := exists_cons_of_lt_length hbudget
      simp [readItems, continued, nextItem_closed]
  | @cons p value items values hp h ih =>
      obtain ⟨b, budget, rfl, hrest⟩ := exists_cons_of_lt_length hbudget
      refine readItems_another ?_ hp (endsValue_gap _ (endsValue_continued rfl _))
        (ih p.after hrest)
      simp only [List.map_cons, continued, Padded.chars, List.append_assoc]
      exact nextItem_another hp.starts after p.before _

/-- An array is read as the values of its items. -/
theorem readArray_items (h : ReadsAll item content items values) (inner : Gap)
    (rest : List Char) :
    readArray item (inner.chars ++
      (commaSeparated (items.map (Padded.chars content)) ++ ']' :: rest)) = .ok (values, rest) := by
  cases h with
  | nil => simp [readArray, readItems, commaSeparated, firstItem_closed]
  | @cons p value items values hp h =>
      rw [List.map_cons, commaSeparated_cons, readArray]
      refine readItems_another ?_ hp (endsValue_gap _ (endsValue_continued rfl _))
        (readItems_continued h p.after rest ?_)
      · simp only [Padded.chars, List.append_assoc]
        rw [← List.append_assoc, ← Gap.chars_append]
        exact firstItem_another hp.starts _ _
      · have hlength := length_lt_continued ']' rest (items.map (Padded.chars content))
        simp only [List.length_map, List.length_append] at hlength ⊢
        omega

end Arrays

/-! ## Objects -/

/-- Where a name begins after the opening brace, the reader finds one more member. -/
theorem firstField_another (g : Gap) (name : List Piece) (rest : List Char) :
    firstField (g.chars ++ (quotedChars name ++ rest)) =
      .ok (.another (name.flatMap Piece.chars ++ '"' :: rest)) := by
  have hquote : isSpace '"' = false := rfl
  simp [firstField, skipSpace_gap, quotedChars, skipSpace_cons hquote]

/-- Where a name begins after a comma, the reader finds one more member. -/
theorem nextField_another (after before : Gap) (name : List Piece) (rest : List Char) :
    nextField (after.chars ++ ',' :: (before.chars ++ (quotedChars name ++ rest))) =
      .ok (.another (name.flatMap Piece.chars ++ '"' :: rest)) := by
  have hcomma : isSpace ',' = false := rfl
  have hquote : isSpace '"' = false := rfl
  simp [nextField, skipSpace_gap, quotedChars, skipSpace_cons hcomma, skipSpace_cons hquote]

/-- An object can be closed right after it was opened. -/
theorem firstField_closed (g : Gap) (rest : List Char) :
    firstField (g.chars ++ '\x7d' :: rest) = .ok (.closed rest) := by
  rw [firstField, skipSpace_gap]
  rfl

/-- An object can be closed after a member. -/
theorem nextField_closed (g : Gap) (rest : List Char) :
    nextField (g.chars ++ '\x7d' :: rest) = .ok (.closed rest) := by
  rw [nextField, skipSpace_gap]
  rfl

/-- A colon may stand after white space. -/
theorem readColon_gap (g : Gap) (rest : List Char) :
    readColon (g.chars ++ ':' :: rest) = .ok rest := by
  rw [readColon, skipSpace_gap]
  rfl

section Objects

variable {α σ : Type} {field : σ → String → List Char → Except Stop (σ × List Char)}
  {content : α → List Char} {members : List (Member α)} {start final : σ}

/-- A reader takes the members of an object one after the other, whatever follows them, and what
has been read so far goes from the first state to the last. -/
inductive Collects (field : σ → String → List Char → Except Stop (σ × List Char))
    (content : α → List Char) : σ → List (Member α) → σ → Prop where
  | nil (sofar : σ) : Collects field content sofar [] sofar
  | cons {sofar next final : σ} {name : String} {m : Member α} {members : List (Member α)}
      (hname : Piece.text? m.name = some name)
      (hfield : ∀ rest, endsValue rest = true →
        field sofar name (m.tailChars content ++ rest) = .ok (next, rest))
      (hmembers : Collects field content next members final) :
      Collects field content sofar (m :: members) final

/-- One round that takes a member. -/
theorem readFields_another {next : Except Stop Continuation} {m : Member α}
    {more rest budget : List Char} {b : Char} {sofar between : σ} {name : String}
    (hnext : next = .ok
      (.another (m.name.flatMap Piece.chars ++ '"' :: (m.tailChars content ++ more))))
    (hname : Piece.text? m.name = some name)
    (hfield : field sofar name (m.tailChars content ++ more) = .ok (between, more))
    (h : readFields field between (nextField more) budget = .ok (final, rest)) :
    readFields field sofar next (b :: budget) = .ok (final, rest) := by
  simp [readFields, hnext, readString_pieces hname, hfield, h]

/-- After a member the other members are read up to the closing bracket. -/
theorem readFields_continued (h : Collects field content start members final) (after : Gap)
    (rest : List Char) {budget : List Char} (hbudget : members.length < budget.length) :
    readFields field start
      (nextField (after.chars ++ continued '\x7d' rest (members.map (Member.chars content))))
      budget = .ok (final, rest) := by
  induction h generalizing after budget with
  | nil sofar =>
      obtain ⟨b, budget, rfl, -⟩ := exists_cons_of_lt_length hbudget
      simp [readFields, continued, nextField_closed]
  | @cons sofar next final name m members hname hfield h ih =>
      obtain ⟨b, budget, rfl, hrest⟩ := exists_cons_of_lt_length hbudget
      refine readFields_another ?_ hname
        (hfield _ (endsValue_gap _ (endsValue_continued rfl _))) (ih m.afterValue hrest)
      simp only [List.map_cons, continued, Member.chars, List.append_assoc]
      exact nextField_another after m.beforeName m.name _

/-- An object is read member by member. -/
theorem readObject_members (h : Collects field content start members final) (inner : Gap)
    (rest : List Char) :
    readObject field start (inner.chars ++
      (commaSeparated (members.map (Member.chars content)) ++ '\x7d' :: rest)) =
        .ok (final, rest) := by
  cases h with
  | nil sofar => simp [readObject, readFields, commaSeparated, firstField_closed]
  | @cons _ next _ name m members hname hfield h =>
      rw [List.map_cons, commaSeparated_cons, readObject]
      refine readFields_another ?_ hname
        (hfield _ (endsValue_gap _ (endsValue_continued rfl _)))
        (readFields_continued h m.afterValue rest ?_)
      · simp only [Member.chars, List.append_assoc]
        rw [← List.append_assoc, ← Gap.chars_append]
        exact firstField_another _ m.name _
      · have hlength := length_lt_continued '\x7d' rest (members.map (Member.chars content))
        simp only [List.length_map, List.length_append] at hlength ⊢
        omega

end Objects

end Provenance.Json
