import Provenance.Proofs.Json.Brackets
import Provenance.Proofs.Json.Numerals

/-!
# Reading values

A tree that stands for a value is read as this value, if its brackets are not too deep.

Main results:

- Theorem `Tree.inside_induction`: induction over the trees inside a tree.
- Theorem `Tree.reads_chars`: a tree is read as the value that it stands for.
-/

namespace Provenance.Json

/-! ## Trees -/

namespace Tree

/-- What holds of a tree if it holds of all trees inside it holds of all trees. -/
@[induction_eliminator]
theorem inside_induction {P : Tree → Prop} (null : P null) (bool : ∀ b, P (bool b))
    (number : ∀ n, P (number n)) (string : ∀ pieces, P (string pieces))
    (array : ∀ inner items, (∀ p ∈ items, P p.content) → P (array inner items))
    (object : ∀ inner members, (∀ m ∈ members, P m.value) → P (object inner members)) :
    ∀ t, P t
  | .null => null
  | .bool b => bool b
  | .number n => number n
  | .string pieces => string pieces
  | .array inner items =>
      array inner items fun p _ => inside_induction null bool number string array object p.content
  | .object inner members =>
      object inner members fun m _ =>
        inside_induction null bool number string array object m.value
termination_by t => sizeOf t
decreasing_by
  · have hp := List.sizeOf_lt_of_mem ‹p ∈ items›
    have hcontent : sizeOf p.content < sizeOf p := by
      cases p
      simp +arith
    simp only [Tree.array.sizeOf_spec]
    omega
  · have hm := List.sizeOf_lt_of_mem ‹m ∈ members›
    have hvalue : sizeOf m.value < sizeOf m := by
      cases m
      simp +arith
    simp only [Tree.object.sizeOf_spec]
    omega

/-- The texts of items are made one by one. -/
theorem itemChars_eq_map (items : List (Padded Tree)) :
    itemChars items = items.map (Padded.chars chars) := by
  induction items with
  | nil => rw [itemChars, List.map_nil]
  | cons p items ih => rw [itemChars, ih, List.map_cons, Padded.chars]

/-- The texts of members are made one by one. -/
theorem memberChars_eq_map (members : List (Member Tree)) :
    memberChars members = members.map (Member.chars chars) := by
  induction members with
  | nil => rw [memberChars, List.map_nil]
  | cons m members ih => rw [memberChars, ih, List.map_cons, Member.chars, Member.tailChars]

end Tree

/-! ## Beginnings -/

/-- A character that begins a number differs from one that does not. -/
theorem ne_of_startsNumber {c d : Char} (hc : startsNumber c = true)
    (hd : startsNumber d = false) : c ≠ d := by
  rintro rfl
  rw [hc] at hd
  contradiction

/-- No number begins with white space. -/
theorem isSpace_of_startsNumber {c : Char} (h : startsNumber c = true) : isSpace c = false := by
  have hspace : c ≠ ' ' := ne_of_startsNumber h rfl
  have htab : c ≠ '\t' := ne_of_startsNumber h rfl
  have hnewline : c ≠ '\n' := ne_of_startsNumber h rfl
  have hreturn : c ≠ '\r' := ne_of_startsNumber h rfl
  simp [isSpace, hspace, htab, hnewline, hreturn]

/-- A digit begins a number. -/
theorem startsNumber_digitChar (d : Digit) : startsNumber (Nat.digitChar d.val) = true := by
  simp [startsNumber, isDigit_digitChar]

/-- A numeral begins with its sign or with its first digit. -/
theorem Numeral.exists_chars (n : Numeral) :
    ∃ c cs, n.chars = c :: cs ∧ startsNumber c = true := by
  unfold Numeral.chars
  split
  · exact ⟨'-', _, rfl, rfl⟩
  · exact ⟨_, _, rfl, startsNumber_digitChar n.first⟩

/-- The text of a tree begins with something that the reader takes for a value. -/
theorem Tree.startsItem_chars (t : Tree) : startsItem t.chars = true := by
  cases t with
  | null => simp [chars, startsItem, isSpace]
  | bool b => cases b <;> simp [chars, startsItem, isSpace]
  | number n =>
      obtain ⟨c, cs, hchars, hc⟩ := n.exists_chars
      have hclose : c ≠ ']' := ne_of_startsNumber hc rfl
      simp [chars, hchars, startsItem, isSpace_of_startsNumber hc, hclose]
  | string pieces => simp [chars, quotedChars, startsItem, isSpace]
  | array inner items => simp [chars, startsItem, isSpace]
  | object inner members => simp [chars, startsItem, isSpace]

/-! ## Reading -/

section Kinds

variable {depth : Nat} {cs rest : List Char}

/-- White space in front of a value is skipped. -/
theorem readValue_gap (g : Gap) : readValue (depth + 1) (g.chars ++ cs) =
    readValue (depth + 1) cs := by
  simp only [readValue, skipSpace_gap]

/-- A quote begins a string. -/
theorem readValue_string {s : String} (h : readString cs = .ok (s, rest)) :
    readValue (depth + 1) ('"' :: cs) = .ok (str s, rest) := by
  have hspace : isSpace '"' = false := rfl
  simp [readValue, skipSpace_cons hspace, h]

/-- A sign or a digit begins a number. -/
theorem readValue_number {c : Char} {n : Number} (hc : startsNumber c = true)
    (h : readNumber (c :: cs) = .ok (n, rest)) :
    readValue (depth + 1) (c :: cs) = .ok (num n, rest) := by
  simp only [readValue, skipSpace_cons (isSpace_of_startsNumber hc)]
  split
  case h_8 heq =>
    obtain ⟨rfl, rfl⟩ := List.cons.inj heq
    simp [hc, h]
  all_goals
    rename_i heq
    cases heq <;> contradiction

/-- A bracket begins an array, if one more bracket may be open. -/
theorem readValue_array {values : List Json} (hdepth : depth ≠ 0)
    (h : readArray (readValue depth) cs = .ok (values, rest)) :
    readValue (depth + 1) ('[' :: cs) = .ok (arr values, rest) := by
  have hspace : isSpace '[' = false := rfl
  simp [readValue, skipSpace_cons hspace, hdepth, h]

/-- A brace begins an object, if one more bracket may be open. -/
theorem readValue_object {fields : List (String × Json)} (hdepth : depth ≠ 0)
    (h : readObject (readMember (readValue depth)) [] cs = .ok (fields, rest)) :
    readValue (depth + 1) ('\x7b' :: cs) = .ok (obj fields, rest) := by
  have hspace : isSpace '\x7b' = false := rfl
  simp [readValue, skipSpace_cons hspace, hdepth, h]

end Kinds

namespace Tree

/-- The items of an array stand for its values one by one. -/
theorem readsAll_items {item : List Char → Except Stop (Json × List Char)}
    {items : List (Padded Tree)} {values : List Json} (h : itemValues? items = some values)
    (hitem : ∀ p ∈ items, ∀ j, p.content.value? = some j → Reads item p.content.chars j) :
    ReadsAll item chars items values := by
  induction items generalizing values with
  | nil =>
      rw [itemValues?] at h
      obtain rfl := Option.some.inj h
      exact .nil
  | cons p items ih =>
      rw [itemValues?] at h
      simp only [Option.bind_eq_bind, Option.bind_eq_some_iff] at h
      obtain ⟨j, hj, values, hvalues, hcons⟩ := h
      obtain rfl := Option.some.inj hcons
      exact .cons (hitem p List.mem_cons_self j hj)
        (ih hvalues fun q hq => hitem q (List.mem_cons_of_mem p hq))

/-- The members of an object set its fields one by one. -/
theorem collects_members {value : List Char → Except Stop (Json × List Char)}
    {members : List (Member Tree)} {fields : List (String × Json)}
    (h : memberValues? members = some fields)
    (hvalue : ∀ m ∈ members, ∀ j, m.value.value? = some j → ∀ (g : Gap) rest,
      endsValue rest = true → value (g.chars ++ (m.value.chars ++ rest)) = .ok (j, rest))
    (sofar : List (String × Json)) :
    Collects (readMember value) chars sofar members
      (fields.foldl (fun sofar (name, value) => putField name value sofar) sofar) := by
  induction members generalizing fields sofar with
  | nil =>
      rw [memberValues?] at h
      obtain rfl := Option.some.inj h
      exact .nil sofar
  | cons m members ih =>
      rw [memberValues?] at h
      simp only [Option.bind_eq_bind, Option.bind_eq_some_iff] at h
      obtain ⟨name, hname, j, hj, fields, hfields, hcons⟩ := h
      obtain rfl := Option.some.inj hcons
      refine .cons hname ?_ (ih hfields (fun m hm => hvalue m (List.mem_cons_of_mem _ hm)) _)
      intro rest hrest
      simp [Member.tailChars, readMember, readColon_gap,
        hvalue m List.mem_cons_self j hj m.beforeValue rest hrest]

/-- No item is deeper than all items together. -/
theorem depth_le_itemsDepth {items : List (Padded Tree)} {p : Padded Tree} (h : p ∈ items) :
    p.content.depth ≤ itemsDepth items := by
  induction items with
  | nil => contradiction
  | cons q items ih =>
      rw [itemsDepth]
      rcases List.mem_cons.1 h with rfl | h
      · exact Nat.le_max_left _ _
      · exact Nat.le_trans (ih h) (Nat.le_max_right _ _)

/-- No value of a member is deeper than all members together. -/
theorem depth_le_membersDepth {members : List (Member Tree)} {m : Member Tree}
    (h : m ∈ members) : m.value.depth ≤ membersDepth members := by
  induction members with
  | nil => contradiction
  | cons q members ih =>
      rw [membersDepth]
      rcases List.mem_cons.1 h with rfl | h
      · exact Nat.le_max_left _ _
      · exact Nat.le_trans (ih h) (Nat.le_max_right _ _)

/-- A tree is read as the value that it stands for. -/
theorem reads_chars {t : Tree} {j : Json} {depth : Nat} (h : t.value? = some j)
    (hdepth : t.depth ≤ depth) : Reads (readValue (depth + 1)) t.chars j := by
  refine ⟨t.startsItem_chars, ?_⟩
  induction t generalizing j depth with
  | null =>
      intro rest _
      obtain rfl := Option.some.inj h
      rfl
  | bool b =>
      intro rest _
      obtain rfl := Option.some.inj h
      cases b <;> rfl
  | number n =>
      intro rest hrest
      obtain ⟨x, hx, rfl⟩ := Option.map_eq_some_iff.1 h
      obtain ⟨c, cs, hchars, hc⟩ := n.exists_chars
      have hread := Numeral.readNumber_chars hx hrest
      rw [chars, hchars]
      rw [hchars] at hread
      exact readValue_number hc hread
  | string pieces =>
      intro rest _
      obtain ⟨s, hs, rfl⟩ := Option.map_eq_some_iff.1 h
      rw [chars, quotedChars, List.append_assoc]
      exact readValue_string (readString_pieces hs rest)
  | array inner items ih =>
      intro rest _
      rw [Tree.depth] at hdepth
      obtain ⟨depth, rfl⟩ := Nat.exists_eq_add_of_le' (Nat.le_trans (Nat.le_add_left 1 _) hdepth)
      rw [value?] at h
      obtain ⟨values, hvalues, rfl⟩ := Option.map_eq_some_iff.1 h
      have hitems : ReadsAll (readValue (depth + 1)) chars items values := by
        refine readsAll_items hvalues fun p hp j hj => ⟨p.content.startsItem_chars, ?_⟩
        have hle := depth_le_itemsDepth hp
        exact ih p hp hj (by omega)
      have hread := readValue_array (Nat.succ_ne_zero depth) (readArray_items hitems inner rest)
      simpa [chars, itemChars_eq_map] using hread
  | object inner members ih =>
      intro rest _
      rw [Tree.depth] at hdepth
      obtain ⟨depth, rfl⟩ := Nat.exists_eq_add_of_le' (Nat.le_trans (Nat.le_add_left 1 _) hdepth)
      rw [value?] at h
      obtain ⟨fields, hfields, rfl⟩ := Option.map_eq_some_iff.1 h
      have hmembers : Collects (readMember (readValue (depth + 1))) chars [] members
          (fields.foldl (fun sofar (name, value) => putField name value sofar) []) := by
        refine collects_members hfields (fun m hm j hj g rest hrest => ?_) []
        have hle := depth_le_membersDepth hm
        rw [readValue_gap]
        exact ih m hm hj (by omega) rest hrest
      have hread := readValue_object (Nat.succ_ne_zero depth)
        (readObject_members hmembers inner rest)
      simpa [chars, memberChars_eq_map] using hread

end Tree

end Provenance.Json
