import Provenance.Json.Attributes
import Provenance.Proofs.Json.Skipping

/-!
# Reading records

A record that is written as an object may have its attributes in any order and other members
between them.  The reader fills one slot per attribute.  This module shows that every slot ends up
with the value of the member that has its name, if no two members have the same known name, and
that the other members leave no trace.

Main results:

- Definition `slotsOf`: the slots of a record, by the names of its members.
- Theorem `Shape.reads_object`: an object is read into these slots.
- Theorem `Tree.readOptional_chars`: a null is read as no value.
-/

namespace Provenance.Json

variable {α : Type}

/-- Whether a member has this name. -/
def Member.isNamed (name : String) (m : Member Tree) : Bool := Piece.text? m.name == some name

/-- The slots of a record with these members: for every attribute the value of the member that
has its name, if there is one. -/
def slotsOf (names : List String) (value : Member Tree → α) (members : List (Member Tree)) :
    Slots α :=
  names.map fun name => (members.find? (Member.isNamed name)).map value

section Slots

variable {names : List String} {value : Member Tree → α} {seen : List (Member Tree)}
  {m : Member Tree} {name : String}

theorem Member.isNamed_self (h : Piece.text? m.name = some name) : m.isNamed name = true := by
  simp [isNamed, h]

theorem Member.isNamed_of_ne {other : String} (h : Piece.text? m.name = some name)
    (hne : other ≠ name) : m.isNamed other = false := by
  simp [isNamed, h, Ne.symm hne]

/-- A member of an unknown name fills no slot. -/
theorem slotsOf_of_not_mem (hm : Piece.text? m.name = some name) (hname : name ∉ names) :
    slotsOf names value (seen ++ [m]) = slotsOf names value seen := by
  refine List.map_congr_left fun other hother => ?_
  have hne : other ≠ name := by
    rintro rfl
    exact hname hother
  simp [List.find?_append, Member.isNamed_of_ne hm hne]

/-- A member of a known name fills the slot of this name and no other one. -/
theorem slotsOf_of_idxOf? (hnodup : names.Nodup) (hm : Piece.text? m.name = some name)
    {index : Nat} (hindex : names.idxOf? name = some index)
    (hfresh : seen.find? (Member.isNamed name) = none) :
    slotsOf names value (seen ++ [m]) = (slotsOf names value seen).set index (some (value m)) := by
  obtain ⟨hlt, hname, -⟩ := List.idxOf?_eq_some_iff.1 hindex
  refine List.ext_getElem (by simp [slotsOf]) fun j hj _ => ?_
  have hj : j < names.length := by simpa [slotsOf] using hj
  simp only [slotsOf, List.getElem_map, List.getElem_set, List.find?_append]
  by_cases hindexj : index = j
  · subst hindexj
    simp [hname, hfresh, Member.isNamed_self hm]
  · have hne : names[j] ≠ name := by
      rw [← hname]
      exact fun h => hindexj ((List.getElem_inj hnodup).1 h.symm)
    simp [hindexj, Member.isNamed_of_ne hm hne]

/-- The slot of a name that no member had yet is empty. -/
theorem getD_slotsOf {index : Nat} (hindex : names.idxOf? name = some index)
    (hfresh : seen.find? (Member.isNamed name) = none) :
    (slotsOf names value seen).getD index none = none := by
  obtain ⟨hlt, hname, -⟩ := List.idxOf?_eq_some_iff.1 hindex
  simp [slotsOf, hlt, hname, hfresh]

end Slots

/-- How often a name is written. -/
def countNamed (name : String) (members : List (Member Tree)) : Nat :=
  members.countP (Member.isNamed name)

namespace Shape

variable {shape : Shape α} {depth : Nat} {members : List (Member Tree)}
  {value : Member Tree → α}

/-- A reader takes the values of all members that have a known name. -/
def ReadsKnown (shape : Shape α) (depth : Nat) (value : Member Tree → α)
    (members : List (Member Tree)) : Prop :=
  ∀ m ∈ members, ∀ name index, Piece.text? m.name = some name →
    shape.names.idxOf? name = some index → ∀ (g : Gap) (rest : List Char),
      endsValue rest = true →
        shape.value depth index (g.chars ++ (m.value.chars ++ rest)) = .ok (value m, rest)

/-- The members of an object fill the slots one by one. -/
theorem collects_readField (hnodup : shape.names.Nodup)
    (hnames : ∀ m ∈ members, (Piece.text? m.name).isSome)
    (hvalues : shape.ReadsKnown depth value members) (seen : List (Member Tree))
    (honce : ∀ name ∈ shape.names, countNamed name (seen ++ members) ≤ 1) :
    Collects (shape.readField depth) Tree.chars (slotsOf shape.names value seen) members
      (slotsOf shape.names value (seen ++ members)) := by
  induction members generalizing seen with
  | nil =>
      rw [List.append_nil]
      exact .nil _
  | cons m members ih =>
      have hassoc : seen ++ m :: members = (seen ++ [m]) ++ members := by simp
      have hothers := ih (fun m hm => hnames m (List.mem_cons_of_mem _ hm))
        (fun m hm => hvalues m (List.mem_cons_of_mem _ hm)) (seen ++ [m])
        (by rwa [← hassoc])
      obtain ⟨name, hm⟩ := Option.isSome_iff_exists.1 (hnames m List.mem_cons_self)
      rw [hassoc]
      refine .cons hm ?_ hothers
      intro rest hrest
      simp only [Member.tailChars, List.append_assoc, List.cons_append]
      unfold readField
      cases hindex : shape.names.idxOf? name with
      | none =>
          have hname := List.idxOf?_eq_none_iff.1 hindex
          simp [readColon_gap, m.value.skipValue_chars m.beforeValue hrest,
            slotsOf_of_not_mem hm hname]
      | some index =>
          have hname : name ∈ shape.names := by
            obtain ⟨hlt, rfl, -⟩ := List.idxOf?_eq_some_iff.1 hindex
            exact List.getElem_mem hlt
          have hfresh : seen.find? (Member.isNamed name) = none := by
            have hcount := honce name hname
            simp only [countNamed, List.countP_append, List.countP_cons,
              Member.isNamed_self hm, if_true] at hcount
            refine List.find?_eq_none.2 (List.countP_eq_zero.1 ?_)
            omega
          have hread := hvalues m List.mem_cons_self name index hm hindex m.beforeValue rest hrest
          simp only [getD_slotsOf hindex hfresh]
          simp [readColon_gap, hread, slotsOf_of_idxOf? hnodup hm hindex hfresh]

/-- A record that is written as an object is read into its slots. -/
theorem reads_object (hnodup : shape.names.Nodup)
    (hnames : ∀ m ∈ members, (Piece.text? m.name).isSome)
    (honce : ∀ name ∈ shape.names, countNamed name members ≤ 1)
    (hvalues : shape.ReadsKnown (depth + 1) value members) (inner : Gap) :
    Reads (shape.read (depth + 2)) (Tree.object inner members).chars
      (slotsOf shape.names value members) := by
  refine ⟨Tree.startsItem_chars _, fun rest _ => ?_⟩
  have hcollects := collects_readField hnodup hnames hvalues [] honce
  have hobject := readObject_members hcollects inner rest
  have hspace : isSpace '\x7b' = false := rfl
  rw [Tree.chars, Tree.memberChars_eq_map]
  simp only [List.cons_append, List.append_assoc, List.nil_append, read, skipSpace_cons hspace]
  have hdepth : ¬ depth + 2 ≤ 1 := by omega
  rw [if_neg hdepth]
  exact hobject

end Shape

/-! ## Optional values -/

/-- What a value says about an attribute: null says nothing. -/
def present? : Json → Option Json
  | null => none
  | value => some value

theorem readOptional_eq {depth : Nat} {cs rest : List Char} {j : Json}
    (h : readValue depth cs = .ok (j, rest)) :
    readOptional depth cs = .ok (j.present?, rest) := by
  cases j <;> simp [readOptional, h, present?]

/-- A value is read as an optional one, also after blanks. -/
theorem Tree.readOptional_chars {t : Tree} {j : Json} {depth : Nat} (h : t.value? = some j)
    (hdepth : t.depth ≤ depth) (g : Gap) {rest : List Char} (hrest : endsValue rest = true) :
    readOptional (depth + 1) (g.chars ++ (t.chars ++ rest)) = .ok (j.present?, rest) := by
  refine readOptional_eq ?_
  rw [readValue_gap]
  exact (reads_chars h hdepth).ends rest hrest

end Provenance.Json
