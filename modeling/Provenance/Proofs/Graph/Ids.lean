import Mathlib.Data.List.Infix
import Provenance.Graph.Basic

/-!
# Ids and the names in them

Ids are put together from names without any escape: a word for the kind of node, the name of
the table, for a field a colon and its name, and for an edge the ids of its two nodes with an
arrow between them.  The name of a table may hold almost any character, so an id does not
always tell what it was put together from.  This module says when it does.

Main results:

- Theorem `edgeId_eq_iff`: two edges have the same id only if they join the same nodes or an
  arrow stands within the id of a node.
- Theorem `Endpoint.id_eq_iff`: the id of a node tells its table and its field.
- Theorem `Endpoint.edgeId_eq_iff`: the id of an edge tells its nodes, unless the name of a
  table holds an arrow to a node.
-/

namespace Provenance

/-! ## Taking texts apart -/

/-- A character that a text does not hold comes after the text. -/
theorem exists_append_of_append_eq {c : Char} {front back before after : List Char}
    (hc : c ∉ front) (h : front ++ back = before ++ c :: after) :
    ∃ rest, before = front ++ rest ∧ back = rest ++ c :: after := by
  rcases List.append_eq_append_iff.1 h with ⟨rest, hbefore, hback⟩ | ⟨rest, hfront, hrest⟩
  · exact ⟨rest, hbefore, hback⟩
  · cases rest with
    | nil =>
        rw [List.append_nil] at hfront
        exact ⟨[], by rw [hfront, List.append_nil], hrest.symm⟩
    | cons d rest =>
        obtain ⟨rfl, -⟩ := List.cons.inj hrest
        exact absurd (by simp [hfront]) hc

/-- The last place of a character cuts a text in two. -/
theorem append_cons_inj_of_not_mem {c : Char} {before after before' after' : List Char}
    (hafter : c ∉ after) (hafter' : c ∉ after')
    (h : before ++ c :: after = before' ++ c :: after') :
    before = before' ∧ after = after' := by
  rcases List.append_eq_append_iff.1 h with ⟨rest, hbefore, hrest⟩ | ⟨rest, hbefore, hrest⟩
  · cases rest with
    | nil => exact ⟨by simpa using hbefore.symm, (List.cons.inj hrest).2⟩
    | cons d rest =>
        obtain ⟨-, hmem⟩ := List.cons.inj hrest
        exact absurd (by simp [hmem]) hafter
  · cases rest with
    | nil => exact ⟨by simpa using hbefore, (List.cons.inj hrest).2.symm⟩
    | cons d rest =>
        obtain ⟨-, hmem⟩ := List.cons.inj hrest
        exact absurd (by simp [hmem]) hafter'

/-! ## Ids of nodes -/

theorem toList_tableId (table : String) :
    (tableId table).toList = "table:".toList ++ table.toList :=
  String.toList_append

theorem toList_fieldId (table field : String) :
    (fieldId table field).toList =
      ("column:".toList ++ table.toList) ++ ':' :: field.toList := by
  simp [fieldId]

theorem toList_edgeId (source target : String) :
    (edgeId source target).toList = source.toList ++ '-' :: '>' :: target.toList := by
  simp [edgeId]

/-- The id of a table tells its name. -/
theorem tableId_inj {table table' : String} :
    tableId table = tableId table' ↔ table = table' := by
  rw [← String.toList_inj, toList_tableId, toList_tableId, List.append_cancel_left_eq,
    String.toList_inj]

/-- The id of a field tells its table and its name, if there is no colon in the latter. -/
theorem fieldId_inj {table field table' field' : String} (hfield : ':' ∉ field.toList)
    (hfield' : ':' ∉ field'.toList) :
    fieldId table field = fieldId table' field' ↔ table = table' ∧ field = field' := by
  constructor
  · intro h
    have hlist := congrArg String.toList h
    rw [toList_fieldId, toList_fieldId] at hlist
    obtain ⟨htable, hname⟩ := append_cons_inj_of_not_mem hfield hfield' hlist
    rw [List.append_cancel_left_eq] at htable
    exact ⟨String.toList_inj.1 htable, String.toList_inj.1 hname⟩
  · rintro ⟨rfl, rfl⟩
    rfl

theorem tableId_ne_fieldId (table table' field : String) :
    tableId table ≠ fieldId table' field := by
  intro h
  have hlist := congrArg String.toList h
  rw [toList_tableId, toList_fieldId] at hlist
  exact absurd (List.cons.inj hlist).1 (by decide)

/-! ## Ids of edges -/

/-- Two edges have the same id exactly if they join the same nodes, or if the target of one and
the source of the other hold an arrow each and agree on what lies between the arrows. -/
theorem edgeId_eq_iff {a b c d : String} :
    edgeId a b = edgeId c d ↔
      (a = c ∧ b = d) ∨ (∃ m, c = edgeId a m ∧ b = edgeId m d) ∨
        ∃ m, a = edgeId c m ∧ d = edgeId m b := by
  have hjoined {a b c d : String} {rest : List Char} (hc : c.toList = a.toList ++ rest)
      (hb : '-' :: '>' :: b.toList = rest ++ '-' :: '>' :: d.toList) :
      (a = c ∧ b = d) ∨ ∃ m, c = edgeId a m ∧ b = edgeId m d := by
    -- Arrows cannot overlap: what lies between their beginnings is nothing or a whole arrow.
    rcases rest with _ | ⟨x, _ | ⟨y, rest⟩⟩
    · left
      exact ⟨by simpa [String.toList_inj] using hc.symm, by simpa [String.toList_inj] using hb⟩
    · simp at hb
    · right
      simp only [List.cons_append, List.cons.injEq] at hb
      obtain ⟨rfl, rfl, hb⟩ := hb
      refine ⟨String.ofList rest, ?_, ?_⟩
      · rw [← String.toList_inj, toList_edgeId, String.toList_ofList, hc]
      · rw [← String.toList_inj, toList_edgeId, String.toList_ofList, hb]
  constructor
  · intro h
    have hlist := congrArg String.toList h
    rw [toList_edgeId, toList_edgeId] at hlist
    rcases List.append_eq_append_iff.1 hlist with ⟨rest, hc, hb⟩ | ⟨rest, ha, hd⟩
    · rcases hjoined hc hb with hsame | hinner
      · exact Or.inl hsame
      · exact Or.inr (Or.inl hinner)
    · rcases hjoined ha hd with ⟨rfl, rfl⟩ | hinner
      · exact Or.inl ⟨rfl, rfl⟩
      · exact Or.inr (Or.inr hinner)
  · rintro (⟨rfl, rfl⟩ | ⟨m, rfl, rfl⟩ | ⟨m, rfl, rfl⟩)
    · rfl
    · simp [edgeId, String.append_assoc]
    · simp [edgeId, String.append_assoc]

/-- The arrow of an edge and the word that the id of its target begins with. -/
def Level.arrow : Level → String
  | .tables => "->table:"
  | .fields => "->column:"

/-- There is no arrow to a node in the name of a table. -/
def Level.Plain (level : Level) (table : String) : Prop :=
  ∀ before after, table ≠ before ++ level.arrow ++ after

/-- To be plain is a matter of finitely many places in a name. -/
theorem Level.plain_iff {level : Level} {table : String} :
    level.Plain table ↔ ¬ level.arrow.toList <:+: table.toList := by
  constructor
  · rintro h ⟨before, after, hlist⟩
    apply h (String.ofList before) (String.ofList after)
    rw [← String.toList_inj, ← hlist]
    simp
  · rintro h before after rfl
    exact h ⟨before.toList, after.toList, by simp⟩

instance (level : Level) (table : String) : Decidable (level.Plain table) :=
  decidable_of_iff _ Level.plain_iff.symm

namespace Endpoint

/-- An end is a node of a level: at table level a table, at field level a field whose name has
no colon. -/
def IsNode (e : Endpoint) : Level → Prop
  | .tables => e.field = none
  | .fields => ∃ field, e.field = some field ∧ ':' ∉ field.toList

variable {level : Level} {e e' : Endpoint}

/-- The id of a node tells its table and its field. -/
theorem id_eq_iff (he : e.IsNode level) (he' : e'.IsNode level) :
    e.id = e'.id ↔ e.table = e'.table ∧ e.field = e'.field := by
  cases level with
  | tables =>
      have hfield : e.field = none := he
      have hfield' : e'.field = none := he'
      simp [id, hfield, hfield', tableId_inj]
  | fields =>
      obtain ⟨field, hfield, hcolon⟩ := he
      obtain ⟨field', hfield', hcolon'⟩ := he'
      simp [id, hfield, hfield', fieldId_inj hcolon hcolon']

/-- A plain node has no id of an edge, whatever comes before the arrow. -/
theorem id_ne_edgeId (he : e.IsNode level) (he' : e'.IsNode level)
    (plain : level.Plain e.table) (before : String) : e.id ≠ edgeId before e'.id := by
  intro h
  have hlist := congrArg String.toList h
  rw [toList_edgeId] at hlist
  cases level with
  | tables =>
      have hfield : e.field = none := he
      have hfield' : e'.field = none := he'
      simp only [id, hfield, hfield', toList_tableId] at hlist
      obtain ⟨rest, -, htable⟩ := exists_append_of_append_eq (by decide) hlist
      apply plain (String.ofList rest) e'.table
      rw [← String.toList_inj, htable]
      simp [Level.arrow]
  | fields =>
      obtain ⟨field, hfield, hcolon⟩ := he
      obtain ⟨field', hfield', hcolon'⟩ := he'
      simp only [id, hfield, hfield', toList_fieldId] at hlist
      -- The last colon divides both ids, and the arrow comes before it.
      have hcut : ("column:".toList ++ e.table.toList) ++ ':' :: field.toList =
          (before.toList ++ '-' :: '>' :: ("column:".toList ++ e'.table.toList)) ++
            ':' :: field'.toList := by
        rw [hlist]
        simp
      obtain ⟨hfront, -⟩ := append_cons_inj_of_not_mem hcolon hcolon' hcut
      obtain ⟨rest, -, htable⟩ := exists_append_of_append_eq (by decide) hfront
      apply plain (String.ofList rest) e'.table
      rw [← String.toList_inj, htable]
      simp [Level.arrow]

/-- The id of an edge tells its nodes, if its target is plain. -/
theorem edgeId_eq_iff {s s' t t' : Endpoint} (ht : t.IsNode level) (ht' : t'.IsNode level)
    (plain : level.Plain t.table) (plain' : level.Plain t'.table) :
    edgeId s.id t.id = edgeId s'.id t'.id ↔ s.id = s'.id ∧ t.id = t'.id := by
  rw [Provenance.edgeId_eq_iff]
  constructor
  · rintro (hsame | ⟨m, -, hinner⟩ | ⟨m, -, hinner⟩)
    · exact hsame
    · exact absurd hinner (id_ne_edgeId ht ht' plain m)
    · exact absurd hinner (id_ne_edgeId ht' ht plain' m)
  · exact Or.inl

end Endpoint

/-- The id of a table is no id of an edge between fields. -/
theorem tableId_ne_edgeId_fieldId (table source field target : String) :
    tableId table ≠ edgeId (fieldId source field) target := by
  intro h
  have hlist := congrArg String.toList h
  rw [toList_tableId, toList_edgeId, toList_fieldId] at hlist
  exact absurd (List.cons.inj hlist).1 (by decide)

end Provenance
