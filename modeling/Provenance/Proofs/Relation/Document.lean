import Provenance.LoadFailure
import Provenance.Proofs.Json.Range
import Provenance.Proofs.Json.Records
import Provenance.Proofs.Relation.Sanitize

/-!
# Every row of a document is accounted for

A document is an array of objects, one for every row.  Rows may have their attributes in any order,
leave some out and have others that nobody knows.  This module shows that such a document is
read row by row, and that every row is then either kept or counted under the reason why it was
dropped.

What a row may hold is limited only where a value has to be computed.  The names of its members
and the strings in its known attributes must be texts, the numbers in its known attributes must be
in range, and not more than 127 brackets may be open at once.  Unknown attributes may hold
anything.

Main results:

- Definition `Document`: a document as it is written, with its rows.
- Theorem `parseDocument_text`: a document is read as the records of its rows.
- Theorem `parseDocument_accountsFor_rows`: every row is kept or counted.
-/

namespace Provenance

open Json

/-! ## Documents -/

/-- A row as it is written: an object. -/
structure Row where
  inner : Gap
  members : List (Member Tree)

namespace Row

def chars (r : Row) : List Char := (Tree.object r.inner r.members).chars

/-- What the row states for an attribute: its value, if the row has it and it is not null. -/
def stated (r : Row) (name : String) : Option Json :=
  (r.members.find? (Member.isNamed name)).bind fun m => m.value.value?.bind present?

/-- The record of a row: its seven known attributes. -/
def record (r : Row) : RawRelation where
  sourceTable := r.stated "tabla_origen"
  targetTable := r.stated "tabla_destino"
  sourceField := r.stated "campo_origen"
  targetField := r.stated "campo_destino"
  transformation := r.stated "transformacion_aplicada"
  recommendation := r.stated "recomendaciones"
  query := r.stated "consulta"

/-- What a row has to keep to.  Two of the brackets that are open at once are those of the
document and of the row itself. -/
structure Readable (r : Row) : Prop where
  names : ∀ m ∈ r.members, (Piece.text? m.name).isSome
  once : ∀ name ∈ RawRelation.attributeNames, countNamed name r.members ≤ 1
  known : ∀ m ∈ r.members, ∀ name ∈ RawRelation.attributeNames, m.isNamed name = true →
    m.value.Sound ∧ 2 + m.value.depth ≤ 127

instance (r : Row) : Decidable r.Readable :=
  decidable_of_iff
    ((∀ m ∈ r.members, (Piece.text? m.name).isSome) ∧
      (∀ name ∈ RawRelation.attributeNames, countNamed name r.members ≤ 1) ∧
        ∀ m ∈ r.members, ∀ name ∈ RawRelation.attributeNames, m.isNamed name = true →
          m.value.Sound ∧ 2 + m.value.depth ≤ 127)
    ⟨fun h => ⟨h.1, h.2.1, h.2.2⟩, fun h => ⟨h.names, h.once, h.known⟩⟩

end Row

/-- A document as it is written: an array of rows. -/
structure Document where
  before : Gap
  inner : Gap
  rows : List (Padded Row)
  after : Gap

namespace Document

def text (d : Document) : String :=
  String.ofList (d.before.chars ++ '[' :: (d.inner.chars ++
    (commaSeparated (d.rows.map (Padded.chars Row.chars)) ++ ']' :: d.after.chars)))

/-- The records of the rows, in their order. -/
def records (d : Document) : List RawRelation := d.rows.map fun p => p.content.record

/-- All rows keep to the rules. -/
def Readable (d : Document) : Prop := ∀ p ∈ d.rows, p.content.Readable

instance (d : Document) : Decidable d.Readable :=
  inferInstanceAs (Decidable (∀ p ∈ d.rows, p.content.Readable))

end Document

/-! ## Reading -/

/-- The slots of a row hold what it states. -/
theorem Row.map_join_slotsOf (r : Row) (names : List String) :
    (slotsOf names (fun m => m.value.value?.bind present?) r.members).map Option.join =
      names.map r.stated := by
  rw [slotsOf, List.map_map]
  refine List.map_congr_left fun name _ => ?_
  simp only [Function.comp, stated]
  cases r.members.find? (Member.isNamed name) <;> rfl

/-- A row is read as its record. -/
theorem Row.Readable.reads {r : Row} (h : r.Readable) :
    Reads (RawRelation.read 127) r.chars r.record := by
  have hnodup : RawRelation.shape.names.Nodup := by decide
  have hvalues : RawRelation.shape.ReadsKnown 126
      (fun m => m.value.value?.bind present?) r.members := by
    intro m hm name index hname hindex g rest hrest
    have hknown : name ∈ RawRelation.attributeNames := by
      obtain ⟨hlt, rfl, -⟩ := List.idxOf?_eq_some_iff.1 hindex
      exact List.getElem_mem hlt
    obtain ⟨hsound, hdepth⟩ := h.known m hm name hknown (Member.isNamed_self hname)
    obtain ⟨j, hj⟩ := Option.isSome_iff_exists.1 (Tree.sound_iff.1 hsound)
    have hdepth : m.value.depth ≤ 125 := by omega
    have hread := Tree.readOptional_chars hj hdepth g hrest
    simp only [hj]
    exact hread
  have hread := Shape.reads_object hnodup h.names h.once hvalues r.inner
  refine ⟨Tree.startsItem_chars _, fun rest hrest => ?_⟩
  have hrow := hread.ends rest hrest
  rw [chars, RawRelation.read, hrow, ok_bind]
  simp only [map_join_slotsOf, pure_eq_ok]
  rfl

/-- A document is read as the records of its rows. -/
theorem parseDocument_text {d : Document} (h : d.Readable) (url : String) :
    parseDocument url d.text = .ok d.records := by
  have hrows : ReadsAll (RawRelation.read 127) Row.chars d.rows d.records := by
    refine List.forall₂_map_right_iff.2 (List.forall₂_same.2 fun p hp => ?_)
    exact (h p hp).reads
  have hlist : RawRelation.readList depthLimit d.text.toList = .ok (d.records, d.after.chars) := by
    have hbracket : isSpace '[' = false := rfl
    rw [Document.text, String.toList_ofList, RawRelation.readList, skipSpace_gap,
      skipSpace_cons hbracket]
    exact readArray_items hrows d.inner d.after.chars
  have hend : readEnd d.after.chars = .ok () := by
    have hspace := skipSpace_gap d.after []
    rw [List.append_nil] at hspace
    rw [readEnd, hspace]
    rfl
  simp only [parseDocument, RawRelation.parseList, readText, hlist, ok_bind, hend, pure_eq_ok]
  rfl

/-! ## Rows that are kept and rows that are counted -/

/-- The count of a reason is the number of rows that fail the check for it. -/
theorem count_sanitize (level : Level) (rows : List RawRelation) (reason : Refusal) :
    (sanitize level rows).count reason =
      rows.countP fun raw => decide (raw.check level = .error reason) := by
  induction rows with
  | nil => rfl
  | cons raw rows ih =>
      simp only [Sanitized.count] at ih ⊢
      rw [sanitize]
      cases hcheck : raw.check level with
      | ok relation => simp [hcheck, ih]
      | error other => simp [hcheck, ih, List.count_cons, List.countP_cons]

/-- Every row is kept or counted. -/
theorem length_sanitize (level : Level) (rows : List RawRelation) :
    (sanitize level rows).relations.length + (sanitize level rows).refused = rows.length := by
  induction rows with
  | nil => rfl
  | cons raw rows ih =>
      simp only [Sanitized.refused] at ih ⊢
      rw [sanitize]
      cases hcheck : raw.check level <;> simp <;> omega

/-- A document is read as the records of its rows, and then every row is kept or counted: at either
level the relations are those of the rows that pass the check, in the order of the rows, and a
reason is counted once for every row that fails for it. -/
theorem parseDocument_accountsFor_rows {d : Document} (h : d.Readable) (url : String) :
    parseDocument url d.text = .ok d.records ∧ d.records.length = d.rows.length ∧
      ∀ level,
        (sanitize level d.records).relations =
            d.records.filterMap (fun raw => (raw.check level).toOption) ∧
          (∀ reason, (sanitize level d.records).count reason =
            d.records.countP fun raw => decide (raw.check level = .error reason)) ∧
          (sanitize level d.records).relations.length + (sanitize level d.records).refused =
            d.rows.length := by
  have hlength : d.records.length = d.rows.length := List.length_map _
  refine ⟨parseDocument_text h url, hlength, fun level => ⟨?_, ?_, ?_⟩⟩
  · exact relations_sanitize level d.records
  · exact count_sanitize level d.records
  · rw [← hlength]
    exact length_sanitize level d.records

/-! ## Documents that are read and documents that are not -/

/-- The characters of a text that stand for themselves. -/
def Json.Piece.spelled (s : String) : List Piece :=
  s.toList.filterMap fun c =>
    if h : 0x20 ≤ c.toNat ∧ c ≠ '"' ∧ c ≠ '\\' then some (.plain c h.1 h.2.1 h.2.2) else none

/-- A member without blanks. -/
def Json.Member.spelled (name : String) (value : Tree) : Member Tree :=
  ⟨[], Piece.spelled name, [], [], value, []⟩

/-- Half a surrogate pair. -/
def Json.CodeUnit.leadingHalf : CodeUnit :=
  ⟨⟨13, false⟩, ⟨8, false⟩, ⟨0, false⟩, ⟨0, false⟩⟩

/-- A number that is far out of range. -/
def Json.Numeral.huge : Numeral :=
  ⟨true, 1, [], by decide, some (0, []), some ⟨true, .plus, 9, [9, 9]⟩⟩

/-- Three rows: one in an odd order with an unknown attribute that has no value, an empty one,
and one with a null, a number and an escape. -/
def mixedRows : Document where
  before := [.newline]
  inner := []
  rows :=
    [⟨[.space], ⟨[], [
        .spelled "campo_destino" (.string (Piece.spelled "total")),
        ⟨[.space], Piece.spelled "nota", [.tab], [.space],
          .array [] [⟨[], .number .huge, []⟩, ⟨[.space], .string [.unit .leadingHalf], []⟩], []⟩,
        .spelled "tabla_destino" (.string (Piece.spelled "resultados.b")),
        .spelled "campo_origen" (.string (Piece.spelled "importe")),
        .spelled "tabla_origen" (.string (Piece.spelled "s_bani.a"))]⟩, []⟩,
      ⟨[], ⟨[.space], []⟩, [.carriageReturn]⟩,
      ⟨[], ⟨[], [
        .spelled "consulta" .null,
        .spelled "campo_destino" (.number ⟨false, 4, [2], by decide, none, none⟩),
        .spelled "tabla_origen" (.string [.escape .newline])]⟩, []⟩]
  after := [.newline]

theorem mixedRows_readable : mixedRows.Readable := by
  decide +kernel

/-- The rows of a document with all of this: the first one is kept and the others are counted. -/
theorem parseDocument_accountsFor_mixedRows :
    mixedRows.text =
        "\n[ \x7b\"campo_destino\":\"total\", \"nota\"\t: [-1.0E+999, \"\\ud800\"]," ++
        "\"tabla_destino\":\"resultados.b\",\"campo_origen\":\"importe\"," ++
        "\"tabla_origen\":\"s_bani.a\"\x7d,\x7b \x7d\r,\x7b\"consulta\":null," ++
        "\"campo_destino\":42,\"tabla_origen\":\"\\n\"\x7d]\n" ∧
      mixedRows.Readable ∧ parseDocument "n.json" mixedRows.text = .ok mixedRows.records ∧
      (sanitize .fields mixedRows.records).relations.length = 1 ∧
      (sanitize .fields mixedRows.records).relations.length +
        (sanitize .fields mixedRows.records).refused = 3 := by
  obtain ⟨hparse, -, hrows⟩ := parseDocument_accountsFor_rows mixedRows_readable "n.json"
  exact ⟨by decide +kernel, mixedRows_readable, hparse, by decide +kernel, (hrows .fields).2.2⟩

/-- The largest double. -/
def largestDouble : ℚ := 9007199254740991 * 2 ^ 971

/-- A numeral right below the largest double. -/
def edgeNumeral : Numeral :=
  ⟨false, 1, [7, 9, 7, 6, 9, 3, 1, 3, 4, 8, 6, 2, 3, 1, 5, 7, 0, 8, 1], by decide, none,
    some ⟨false, .unwritten, 2, [8, 9]⟩⟩

/-- One row that holds a numeral. -/
def rowWithNumeral (n : Numeral) : Document :=
  ⟨[], [], [⟨[], ⟨[], [.spelled "campo_destino" (.number n)]⟩, []⟩], []⟩

/-- One row with an unknown attribute whose name has half a surrogate pair. -/
def rowWithHalfPair : Document :=
  ⟨[], [], [⟨[], ⟨[], [⟨[], Piece.spelled "x" ++ [.unit .leadingHalf], [], [],
    .number ⟨false, 1, [], by decide, none, none⟩, []⟩]⟩, []⟩], []⟩

theorem ne_ok_of_isOk {ε α : Type} {x : Except ε α} (h : x.isOk = false) (a : α) : x ≠ .ok a := by
  rintro rfl
  contradiction

/-- Rounding may carry a numeral within the range of doubles over the end of the range, and a name
that is no text cannot be looked up.  Such documents are refused. -/
theorem parseDocument_refuses_edges :
    (edgeNumeral.magnitude ≤ largestDouble ∧
        ∀ records, parseDocument "n.json" (rowWithNumeral edgeNumeral).text ≠ .ok records) ∧
      ∀ records, parseDocument "n.json" rowWithHalfPair.text ≠ .ok records := by
  refine ⟨⟨?_, ne_ok_of_isOk (by decide +kernel)⟩, ne_ok_of_isOk (by decide +kernel)⟩
  have hdigits : digitsValue edgeNumeral.whole (fractionDigits edgeNumeral.fraction) =
      17976931348623157081 := by decide +kernel
  have hpower : exponentValue edgeNumeral.exponent -
      (fractionDigits edgeNumeral.fraction).length = 289 := by decide +kernel
  have hnat : 17976931348623157081 * 10 ^ 289 ≤ 9007199254740991 * 2 ^ 971 := by decide +kernel
  rw [Numeral.magnitude, hdigits, hpower, largestDouble]
  exact_mod_cast hnat

end Provenance
