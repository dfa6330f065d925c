import Provenance.Proofs.Json.Values

/-!
# Passing over values

A value that nobody asked for is passed over.  The reader that does this keeps a stack of open
brackets instead of calling itself, so that no depth is too much for it.  It does not compute
numbers and does not decode strings.  Hence it gets over every tree, also over one that has no
value.

Main results:

- Theorem `Tree.passes_chars`: a tree is passed over, whatever brackets are open around it.
- Theorem `Tree.skipValue_chars`: every tree is passed over.
-/

namespace Provenance.Json

/-! ## Rounds -/

/-- The next round for an entry of the innermost bracket. -/
def enter (budget : List Char) (bracket : Bracket) (opened : List Bracket) (cs : List Char) :
    Except Stop (Unit × List Char) := do
  let (_, rest) ← skipName bracket cs
  skipEntries budget (bracket :: opened) rest

section Rounds

variable {b : Char} {budget cs rest : List Char} {opened : List Bracket} {bracket : Bracket}
  {sawValue : Bool}

/-- A round that passes over a value without brackets goes on after it. -/
theorem skipEntries_scalar (h : skipStart cs = .ok (none, rest)) :
    skipEntries (b :: budget) opened cs =
      skipAfterStart (skipEntries budget) true opened rest := by
  simp [skipEntries, h]

/-- A round that meets a bracket goes on inside of it. -/
theorem skipEntries_bracket (h : skipStart cs = .ok (some bracket, rest)) :
    skipEntries (b :: budget) opened cs =
      skipAfterStart (skipEntries budget) false (bracket :: opened) rest := by
  simp [skipEntries, h]

/-- Blanks before an entry do not matter. -/
theorem skipEntries_gap (g : Gap) :
    skipEntries budget opened (g.chars ++ cs) = skipEntries budget opened cs := by
  cases budget with
  | nil => rfl
  | cons b budget => simp only [skipEntries, skipStart, skipSpace_gap]

/-- White space in front of an entry is skipped. -/
theorem enter_gap (g : Gap) :
    enter budget bracket opened (g.chars ++ cs) = enter budget bracket opened cs := by
  cases bracket with
  | list => simp only [enter, skipName, ok_bind, skipEntries_gap]
  | object => simp only [enter, skipName, skipSpace_gap]

/-- The name of a member and its colon are skipped. -/
theorem skipName_object (before after : Gap) (name : List Piece) :
    skipName .object (before.chars ++ (quotedChars name ++ (after.chars ++ ':' :: rest))) =
      .ok ((), rest) := by
  have hquote : isSpace '"' = false := rfl
  simp [skipName, skipSpace_gap, quotedChars, skipSpace_cons hquote, skipString_pieces,
    readColon_gap]

/-- Blanks after an entry do not matter. -/
theorem skipAfterStart_gap (g : Gap) :
    skipAfterStart (skipEntries budget) sawValue (bracket :: opened) (g.chars ++ cs) =
      skipAfterStart (skipEntries budget) sawValue (bracket :: opened) cs := by
  simp only [skipAfterStart, skipClosing, skipSpace_gap]

/-- A closing bracket ends the innermost bracket. -/
theorem skipAfterStart_closing :
    skipAfterStart (skipEntries budget) sawValue (bracket :: opened) (bracket.closing :: rest) =
      skipAfterStart (skipEntries budget) true opened rest := by
  have hspace : isSpace bracket.closing = false := by cases bracket <;> rfl
  have hcomma : bracket.closing ≠ ',' := by cases bracket <;> decide
  simp only [skipAfterStart, skipClosing, skipSpace_cons hspace, hcomma, false_and, if_false,
    if_true]

/-- After a comma the next entry follows. -/
theorem skipAfterStart_comma :
    skipAfterStart (skipEntries budget) true (bracket :: opened) (',' :: cs) =
      enter budget bracket opened cs := by
  have hspace : isSpace ',' = false := rfl
  simp [skipAfterStart, skipClosing, skipSpace_cons hspace, enter]

/-- After an opening bracket the first entry follows, unless the bracket is closed again. -/
theorem skipAfterStart_first {c : Char} (hspace : isSpace c = false)
    (hclose : c ≠ bracket.closing) :
    skipAfterStart (skipEntries budget) false (bracket :: opened) (c :: cs) =
      enter budget bracket opened (c :: cs) := by
  simp [skipAfterStart, skipClosing, skipSpace_cons hspace, hclose, enter]

end Rounds

/-! ## Entries -/

/-- A value is passed over, whatever brackets are open and whatever follows, in at most as many
rounds as it has characters. -/
def Passes (text : List Char) : Prop :=
  ∀ (budget : List Char) (opened : List Bracket) {rest : List Char}, endsValue rest = true →
    text.length ≤ budget.length → ∃ left : List Char,
      budget.length ≤ left.length + text.length ∧
        skipEntries budget opened (text ++ rest) =
          skipAfterStart (skipEntries left) true opened rest

/-- An entry of a bracket is passed over, with its name if it has one. -/
structure PassesEntry (bracket : Bracket) (text : List Char) : Prop where
  starts : ∃ (g : Gap) (c : Char) (cs : List Char),
    text = g.chars ++ c :: cs ∧ isSpace c = false ∧ c ≠ bracket.closing
  ends : ∀ (budget : List Char) (opened : List Bracket) {rest : List Char},
    endsValue rest = true → text.length ≤ budget.length → ∃ left : List Char,
      budget.length ≤ left.length + text.length ∧
        enter budget bracket opened (text ++ rest) =
          skipAfterStart (skipEntries left) true (bracket :: opened) rest

section Entries

variable {bracket : Bracket} {texts : List (List Char)}

/-- A value can end where a bracket is closed. -/
theorem endsValue_closing (bracket : Bracket) (rest : List Char) :
    endsValue (bracket.closing :: rest) = true := by
  cases bracket <;> rfl

/-- After an entry the other entries are passed over, up to the closing bracket. -/
theorem passes_continued (h : ∀ text ∈ texts, PassesEntry bracket text) (budget : List Char)
    (opened : List Bracket) (rest : List Char)
    (hbudget : (continued bracket.closing [] texts).length ≤ budget.length) :
    ∃ left : List Char,
      budget.length ≤ left.length + (continued bracket.closing [] texts).length ∧
        skipAfterStart (skipEntries budget) true (bracket :: opened)
          (continued bracket.closing rest texts) =
            skipAfterStart (skipEntries left) true opened rest := by
  induction texts generalizing budget with
  | nil => exact ⟨budget, Nat.le_add_right _ _, skipAfterStart_closing⟩
  | cons text texts ih =>
      have hrest := endsValue_continued (endsValue_closing bracket rest) texts
      simp only [continued, List.length_cons, List.length_append] at hbudget ⊢
      obtain ⟨left, hleft, hentry⟩ :=
        (h text List.mem_cons_self).ends budget opened hrest (by omega)
      obtain ⟨last, hlast, hothers⟩ :=
        ih (fun text ht => h text (List.mem_cons_of_mem _ ht)) left (by omega)
      refine ⟨last, by omega, ?_⟩
      rw [skipAfterStart_comma, hentry, hothers]

variable (bracket) in
/-- A bracket with its entries is passed over. -/
theorem passes_bracket {c : Char} (hstart : ∀ cs, skipStart (c :: cs) = .ok (some bracket, cs))
    (h : ∀ text ∈ texts, PassesEntry bracket text) (inner : Gap) :
    Passes (c :: (inner.chars ++ commaSeparated texts ++ [bracket.closing])) := by
  intro budget opened rest _ hbudget
  simp only [List.length_cons, List.length_append, List.length_nil] at hbudget ⊢
  obtain ⟨b, budget, rfl, hlong⟩ := exists_cons_of_lt_length hbudget
  simp only [List.cons_append, List.append_assoc, List.nil_append, List.length_cons]
  rw [skipEntries_bracket (hstart _), skipAfterStart_gap]
  cases texts with
  | nil =>
      refine ⟨budget, by omega, ?_⟩
      rw [commaSeparated, List.nil_append, skipAfterStart_closing]
  | cons text texts =>
      have hfirst := h text List.mem_cons_self
      have hlength : (commaSeparated (text :: texts)).length + 1 =
          text.length + (continued bracket.closing [] texts).length := by
        have hcons := congrArg List.length (commaSeparated_cons bracket.closing [] text texts)
        simpa using hcons
      have hends := endsValue_continued (endsValue_closing bracket rest) texts
      obtain ⟨left, hleft, hentry⟩ := hfirst.ends budget opened hends (by omega)
      obtain ⟨last, hlast, hothers⟩ :=
        passes_continued (fun text ht => h text (List.mem_cons_of_mem _ ht)) left opened rest
          (by omega)
      refine ⟨last, by omega, ?_⟩
      rw [commaSeparated_cons, ← hothers, ← hentry]
      obtain ⟨g, c, cs, rfl, hspace, hclose⟩ := hfirst.starts
      rw [List.append_assoc, List.cons_append, skipAfterStart_gap, enter_gap,
        skipAfterStart_first hspace hclose]

end Entries

/-! ## Values -/

/-- A value that is skipped at once is passed over in one round. -/
theorem passes_of_skipStart {c : Char} {cs : List Char}
    (h : ∀ rest, endsValue rest = true → skipStart (c :: cs ++ rest) = .ok (none, rest)) :
    Passes (c :: cs) := by
  intro budget opened rest hrest hbudget
  obtain ⟨b, left, rfl, -⟩ := exists_cons_of_lt_length hbudget
  refine ⟨left, ?_, skipEntries_scalar (h rest hrest)⟩
  simp only [List.length_cons]
  omega

/-- A string is skipped at once. -/
theorem skipStart_string (pieces : List Piece) (rest : List Char) :
    skipStart (quotedChars pieces ++ rest) = .ok (none, rest) := by
  have hspace : isSpace '"' = false := rfl
  simp [quotedChars, skipStart, skipSpace_cons hspace, skipString_pieces]

theorem skipStart_minus {cs rest : List Char} (h : skipMagnitude cs = .ok ((), rest)) :
    skipStart ('-' :: cs) = .ok (none, rest) := by
  have hspace : isSpace '-' = false := rfl
  simp [skipStart, skipSpace_cons hspace, h]

theorem skipStart_digit {c : Char} {cs rest : List Char} (hc : isDigit c = true)
    (h : skipMagnitude (c :: cs) = .ok ((), rest)) : skipStart (c :: cs) = .ok (none, rest) := by
  have hspace : isSpace c = false := isSpace_of_startsNumber (by simp [startsNumber, hc])
  rw [skipStart, skipSpace_cons hspace]
  split
  case h_9 heq =>
    obtain ⟨rfl, rfl⟩ := List.cons.inj heq
    simp [hc, h]
  all_goals
    rename_i heq
    cases heq <;> contradiction

/-- A number is skipped at once. -/
theorem Numeral.skipStart_chars (n : Numeral) {rest : List Char} (hrest : endsValue rest = true) :
    skipStart (n.chars ++ rest) = .ok (none, rest) := by
  have hskip := n.skipMagnitude_chars hrest
  unfold Numeral.chars
  split
  · exact skipStart_minus hskip
  · exact skipStart_digit (isDigit_digitChar n.first) hskip

namespace Tree

/-- An item is passed over if its value is. -/
theorem passesEntry_item {p : Padded Tree} (h : Passes p.content.chars) :
    PassesEntry .list (Padded.chars chars p) := by
  constructor
  · obtain ⟨c, cs, hchars, hspace, hclose⟩ :=
      exists_cons_of_startsItem p.content.startsItem_chars
    exact ⟨p.before, c, cs ++ p.after.chars, by simp [Padded.chars, hchars], hspace, hclose⟩
  · intro budget opened rest hrest hbudget
    simp only [Padded.chars, List.length_append] at hbudget ⊢
    obtain ⟨left, hleft, hpass⟩ :=
      h budget (.list :: opened) (endsValue_gap p.after hrest) (by omega)
    refine ⟨left, by omega, ?_⟩
    rw [List.append_assoc, enter_gap, List.append_assoc, ← skipAfterStart_gap p.after, ← hpass]
    rfl

/-- A member is passed over if its value is. -/
theorem passesEntry_member {m : Member Tree} (h : Passes m.value.chars) :
    PassesEntry .object (Member.chars chars m) := by
  constructor
  · exact ⟨m.beforeName, '"', _, rfl, rfl, by decide⟩
  · intro budget opened rest hrest hbudget
    simp only [Member.chars, Member.tailChars, List.length_append, List.length_cons]
      at hbudget ⊢
    obtain ⟨left, hleft, hpass⟩ :=
      h budget (.object :: opened) (endsValue_gap m.afterValue hrest) (by omega)
    refine ⟨left, by omega, ?_⟩
    simp only [List.append_assoc, List.cons_append, enter, skipName_object, ok_bind,
      skipEntries_gap, hpass, skipAfterStart_gap]

/-- A tree is passed over, whatever brackets are open around it. -/
theorem passes_chars (t : Tree) : Passes t.chars := by
  induction t with
  | null => exact passes_of_skipStart fun rest _ => rfl
  | bool b => cases b <;> exact passes_of_skipStart fun rest _ => rfl
  | number n =>
      obtain ⟨c, cs, hchars, -⟩ := n.exists_chars
      rw [chars, hchars]
      refine passes_of_skipStart fun rest hrest => ?_
      rw [← hchars]
      exact n.skipStart_chars hrest
  | string pieces => exact passes_of_skipStart fun rest _ => skipStart_string pieces rest
  | array inner items ih =>
      rw [chars, itemChars_eq_map]
      refine passes_bracket .list (fun cs => rfl) (fun text htext => ?_) inner
      obtain ⟨p, hp, rfl⟩ := List.mem_map.1 htext
      exact passesEntry_item (ih p hp)
  | object inner members ih =>
      rw [chars, memberChars_eq_map]
      refine passes_bracket .object (fun cs => rfl) (fun text htext => ?_) inner
      obtain ⟨m, hm, rfl⟩ := List.mem_map.1 htext
      exact passesEntry_member (ih m hm)

/-- Every tree is passed over. -/
theorem skipValue_chars (t : Tree) (g : Gap) {rest : List Char} (hrest : endsValue rest = true) :
    skipValue (g.chars ++ (t.chars ++ rest)) = .ok ((), rest) := by
  have hbudget : t.chars.length ≤ (g.chars ++ (t.chars ++ rest)).length := by
    simp only [List.length_append]
    omega
  obtain ⟨left, -, hpass⟩ := t.passes_chars _ [] hrest hbudget
  rw [skipValue, skipEntries_gap, hpass]
  rfl

end Tree

end Provenance.Json
