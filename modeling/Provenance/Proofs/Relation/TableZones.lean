import Provenance.Proofs.Relation.Kept
import Provenance.Proofs.Zones

/-!
# Zones of the tables that are kept

A table takes part in relations if its name begins like a landing zone, letter by letter, or if it
begins like a result zone, a process zone or a staging area, where case makes no difference.  The
kind of its zone is told by how the name begins, letter by letter.  Names have been put into lower
case before, so the two rules agree but for one letter: the long s is a small letter, and yet a
case variant of the s that stands in all three stems.  This module shows which kind the zone of a
kept table has, and that the long s is the only exception.

Main results:

- Theorem `zoneKind_eq_ofZone`: the kind of a zone may be read off the whole name of the table.
- Theorem `ZoneKind.ofZone_of_startsWith`: a name has the kind of the text that it begins with.
- Theorem `TableName.exists_of_afterStem?`: what a name in lower case begins with that begins with
  a stem up to case.
- Theorem `TableName.zoneKind_of_matchesStem`: the kind of a name that is admitted by a stem.
-/

namespace Provenance

/-! ## Kinds and beginnings -/

namespace ZoneKind

/-- How the names of zones begin, with their kinds. -/
def starts : List (String × ZoneKind) :=
  [(resultsStem, results), (processStem, process), (stagingStem, stagingArea),
   (landingStaticZone, landingStatic), (landingFunctionZone, landingFunction)]

/-- None of the beginnings begins another one. -/
theorem starts_apart : ∀ p ∈ starts, ∀ q ∈ starts, p ≠ q →
    ¬ p.1.toList <+: q.1.toList ∧ ¬ q.1.toList <+: p.1.toList := by
  decide +kernel

/-- The kind of a name goes with the first beginning that it has. -/
theorem ofZone_eq_find? (name : String) :
    ofZone name =
      ((starts.find? fun p => Text.startsWith name p.1).map Prod.snd).getD .other := by
  unfold ofZone
  repeat' split
  all_goals simp_all [starts]

variable {name other : String}

/-- Names with the same beginnings have the same kind. -/
theorem ofZone_congr
    (h : ∀ p ∈ starts, Text.startsWith name p.1 = Text.startsWith other p.1) :
    ofZone name = ofZone other := by
  simp only [starts, List.forall_mem_cons] at h
  obtain ⟨hresults, hprocess, hstaging, hstatic, hfunction, -⟩ := h
  simp only [ofZone, hresults, hprocess, hstaging, hstatic, hfunction]

/-- A name has the kind of the text that it begins with. -/
theorem ofZone_of_startsWith {p : String × ZoneKind} (hp : p ∈ starts)
    (h : Text.startsWith name p.1 = true) : ofZone name = p.2 := by
  rw [ofZone_eq_find?]
  cases hfind : starts.find? fun q => Text.startsWith name q.1 with
  | none => exact absurd h (List.find?_eq_none.1 hfind p hp)
  | some q =>
      by_cases hsame : q = p
      · rw [hsame]
        rfl
      · have hapart := starts_apart q (List.mem_of_find?_eq_some hfind) p hp hsame
        have hfound : Text.startsWith name q.1 = true := by
          simpa using List.find?_some hfind
        have hother := Text.not_startsWith_of_startsWith hapart hfound
        exact absurd (h.symm.trans hother) (by decide)

/-- A name that begins with none of the texts is of the other kind. -/
theorem ofZone_eq_other (h : ∀ p ∈ starts, Text.startsWith name p.1 = false) :
    ofZone name = .other := by
  have hfind : (starts.find? fun p => Text.startsWith name p.1) = none := by
    rw [List.find?_eq_none]
    intro p hp
    simp [h p hp]
  rw [ofZone_eq_find?, hfind]
  rfl

end ZoneKind

/-- The kind of a zone may be read off the whole name of the table. -/
theorem zoneKind_eq_ofZone (table : String) : zoneKind table = ZoneKind.ofZone table := by
  unfold zoneKind zoneName zoneOf?
  split
  · rename_i hempty
    have htable : table = "" := by simpa using hempty
    subst htable
    decide
  · split
    · rename_i hstatic
      exact (ZoneKind.ofZone_of_startsWith (p := (landingStaticZone, .landingStatic))
        (by decide) hstatic).symm
    · split
      · rename_i hfunction
        exact (ZoneKind.ofZone_of_startsWith (p := (landingFunctionZone, .landingFunction))
          (by decide) hfunction).symm
      · rename_i hstatic hfunction
        have hlanding {zone : String} (h : ¬ Text.startsWith table zone = true) :
            Text.startsWith (String.ofList (table.toList.takeWhile fun c => c != '.')) zone =
              Text.startsWith table zone := by
          rw [Bool.eq_false_iff.2 h, Bool.eq_false_iff]
          intro hzone
          apply h
          rw [Text.startsWith_iff, String.toList_ofList] at hzone
          rw [Text.startsWith_iff]
          exact hzone.trans (List.takeWhile_prefix _)
        apply ZoneKind.ofZone_congr
        simp only [ZoneKind.starts, List.forall_mem_cons]
        exact ⟨Text.startsWith_beforeDot (by decide), Text.startsWith_beforeDot (by decide),
          Text.startsWith_beforeDot (by decide), hlanding hstatic, hlanding hfunction, by simp⟩

/-- The zone of a table has the kind of the text that the name of the table begins with. -/
theorem zoneKind_of_startsWith {table start : String} {kind : ZoneKind}
    (hstart : (start, kind) ∈ ZoneKind.starts) (h : Text.startsWith table start = true) :
    zoneKind table = kind := by
  rw [zoneKind_eq_ofZone]
  exact ZoneKind.ofZone_of_startsWith hstart h

/-! ## Stems up to case -/

theorem Text.toLower_of_lowerChar {c : Char} (h : lowerChar c = [c]) : c.toLower = c := by
  by_cases hbasic : c.toNat < 0x80
  · rw [lowerChar, if_pos hbasic] at h
    exact (List.cons.inj h).1
  · have hsmall : ¬ (c.val ≥ 'A'.val ∧ c.val ≤ 'Z'.val) := by
      rintro ⟨-, hle⟩
      have hz : c.toNat ≤ 'Z'.toNat := hle
      exact hbasic (Nat.lt_of_le_of_lt hz (by decide))
    exact dif_neg hsmall

namespace TableName

/-- The letter that a long s stands for. -/
def plainLetter (c : Char) : Char := if c = 'ſ' then 's' else c

/-- Of the small letters only the long s is taken for another letter. -/
theorem plainLetter_of_sameLetter {letter c : Char} (hletter : letter ≠ 'ſ')
    (hlower : Text.lowerChar c = [c]) (h : sameLetter letter c = true) :
    plainLetter c = letter := by
  simp only [sameLetter, Text.toLower_of_lowerChar hlower, Bool.or_eq_true, Bool.and_eq_true,
    beq_iff_eq] at h
  unfold plainLetter
  rcases h with ((rfl | rfl) | ⟨rfl, rfl⟩) | ⟨-, rfl⟩
  · exact if_neg hletter
  · exact if_neg hletter
  · exact if_pos rfl
  · -- the kelvin sign is a capital letter
    exact absurd hlower (by decide +kernel)

/-- What a name in lower case begins with that begins with a stem up to case: the stem, where a
long s may stand for any s. -/
theorem exists_of_afterStem? {stem cs rest : List Char} (hstem : 'ſ' ∉ stem)
    (hlower : ∀ c ∈ cs, Text.lowerChar c = [c]) (h : afterStem? stem cs = some rest) :
    ∃ front, cs = front ++ rest ∧ front.map plainLetter = stem := by
  induction stem generalizing cs with
  | nil =>
      cases h
      exact ⟨[], rfl, rfl⟩
  | cons letter stem ih =>
      cases cs with
      | nil => simp [afterStem?] at h
      | cons c cs =>
          rw [List.mem_cons, not_or] at hstem
          obtain ⟨hc, hcs⟩ := List.forall_mem_cons.1 hlower
          unfold afterStem? at h
          split at h
          · rename_i hsame
            obtain ⟨front, rfl, hfront⟩ := ih hstem.2 hcs h
            refine ⟨c :: front, rfl, ?_⟩
            rw [List.map_cons, plainLetter_of_sameLetter (Ne.symm hstem.1) hc hsame, hfront]
          · contradiction

/-- The beginnings of the zones of tables that are admitted up to case, with their kinds. -/
def stemKinds : List (String × ZoneKind) :=
  [(stagingStem, .stagingArea), (processStem, .process), (resultsStem, .results)]

theorem mem_starts_of_mem_stemKinds : ∀ p ∈ stemKinds, p ∈ ZoneKind.starts := by
  decide

theorem longS_not_mem_starts : ∀ p ∈ ZoneKind.starts, 'ſ' ∉ p.1.toList := by
  decide

/-- Whether a long s stands in the part of a name where the stem is. -/
def hasLongS (stem name : String) : Bool :=
  (name.toList.take stem.toList.length).contains 'ſ'

theorem map_plainLetter {cs : List Char} (h : 'ſ' ∉ cs) : cs.map plainLetter = cs := by
  have hself : ∀ c ∈ cs, plainLetter c = c := by
    intro c hc
    refine if_neg ?_
    rintro rfl
    exact h hc
  rw [List.map_congr_left hself, List.map_id']

/-- The kind of a name that is admitted by a stem: that of the stem, unless a long s stands in its
place. -/
theorem zoneKind_of_matchesStem {name : String} {p : String × ZoneKind} (hp : p ∈ stemKinds)
    (hlower : ∀ c ∈ name.toList, Text.lowerChar c = [c]) (h : matchesStem p.1 name = true) :
    zoneKind name = if hasLongS p.1 name then .other else p.2 := by
  have hstart := mem_starts_of_mem_stemKinds p hp
  obtain ⟨rest, hrest, -⟩ := (Option.any_eq_true _ _).1 h
  obtain ⟨front, hname, hfront⟩ :=
    exists_of_afterStem? (longS_not_mem_starts p hstart) hlower hrest
  have hlength : p.1.toList.length = front.length := by
    rw [← hfront, List.length_map]
  have hlong : hasLongS p.1 name = front.contains 'ſ' := by
    rw [hasLongS, hname, hlength, List.take_left]
  have hprefix : front <+: name.toList := ⟨rest, hname.symm⟩
  rw [zoneKind_eq_ofZone, hlong]
  split
  · rename_i hmem
    rw [List.contains_iff_mem] at hmem
    apply ZoneKind.ofZone_eq_other
    intro q hq
    apply Bool.eq_false_iff.2
    intro hbegins
    rw [Text.startsWith_iff] at hbegins
    have hplain := longS_not_mem_starts q hq
    rcases List.prefix_or_prefix_of_prefix hprefix hbegins with hshort | hshort
    · exact hplain (hshort.subset hmem)
    · -- read without the long s, the name begins with `q` and with the stem of `p`
      have hstem : q.1.toList <+: p.1.toList := by
        rw [← hfront, ← map_plainLetter hplain]
        exact hshort.map plainLetter
      by_cases hsame : q = p
      · subst hsame
        have hequal := hshort.eq_of_length hlength
        exact hplain (hequal ▸ hmem)
      · exact (ZoneKind.starts_apart q hq p hstart hsame).1 hstem
  · rename_i hmem
    rw [List.contains_iff_mem] at hmem
    apply ZoneKind.ofZone_of_startsWith hstart
    rw [Text.startsWith_iff, ← hfront, map_plainLetter hmem]
    exact hprefix

theorem mem_stems_iff {stem : String} : stem ∈ stems ↔ ∃ kind, (stem, kind) ∈ stemKinds := by
  have hstems : stems = stemKinds.map Prod.fst := rfl
  simp [hstems]

/-- Tables that take part in relations lie in a landing zone or are admitted by a stem. -/
theorem isAllowed_cases {name : String} (h : isAllowed name = true) :
    isLanding name = true ∨ ∃ stem ∈ stems, matchesStem stem name = true := by
  unfold isAllowed at h
  split at h
  · contradiction
  · split at h
    · rename_i hlanding
      exact Or.inl hlanding
    · exact Or.inr (List.any_eq_true.1 h)

/-- The name of a table that a value stands for is in lower case. -/
theorem lowerChar_of_mem_ofValue {value : Option Json} {c : Char}
    (hc : c ∈ (ofValue value).toList) : Text.lowerChar c = [c] := by
  obtain ⟨s, hs⟩ := exists_eq_ofValue value
  rw [← hs, Text.lowercase, String.toList_ofList] at hc
  exact Text.lowerChar_of_mem_lowerFrom hc

/-- What the kind of its zone says of a table that takes part in relations.  A stem tells the kind
of what it admits, and the kind is another one only if a long s stands in the stem. -/
structure Classified (table : String) : Prop where
  admitted : isLanding table = true ∨ ∃ stem ∈ stems, matchesStem stem table = true
  landingStatic : Text.startsWith table landingStaticZone = true →
    zoneKind table = .landingStatic
  landingFunction : Text.startsWith table landingFunctionZone = true →
    zoneKind table = .landingFunction
  stem : ∀ stem kind, (stem, kind) ∈ stemKinds → matchesStem stem table = true →
    zoneKind table = if hasLongS stem table then .other else kind
  start : isStartTable table = true ↔ zoneKind table = .results ∨ zoneKind table = .process
  other : zoneKind table = .other ↔
    ∃ stem ∈ stems, matchesStem stem table = true ∧ hasLongS stem table = true

theorem classified_of_isAllowed {table : String} (h : isAllowed table = true)
    (hlower : ∀ c ∈ table.toList, Text.lowerChar c = [c]) : Classified table where
  admitted := isAllowed_cases h
  landingStatic := zoneKind_of_startsWith (by decide)
  landingFunction := zoneKind_of_startsWith (by decide)
  stem := fun _ _ hp hmatches => zoneKind_of_matchesStem hp hlower hmatches
  start := by rw [zoneKind_eq_ofZone, ZoneKind.ofZone_isStart_iff]
  other := by
    constructor
    · intro hother
      rcases isAllowed_cases h with hlanding | ⟨stem, hstem, hmatches⟩
      · rw [isLanding, Bool.or_eq_true] at hlanding
        rcases hlanding with hstatic | hfunction
        · have hkind : zoneKind table = .landingStatic :=
            zoneKind_of_startsWith (by decide) hstatic
          exact absurd (hkind.symm.trans hother) (by decide)
        · have hkind : zoneKind table = .landingFunction :=
            zoneKind_of_startsWith (by decide) hfunction
          exact absurd (hkind.symm.trans hother) (by decide)
      · refine ⟨stem, hstem, hmatches, ?_⟩
        obtain ⟨kind, hp⟩ := mem_stems_iff.1 hstem
        by_cases hlong : hasLongS stem table = true
        · exact hlong
        · have hkinds : ∀ p ∈ stemKinds, p.2 ≠ .other := by decide
          rw [zoneKind_of_matchesStem hp hlower hmatches, if_neg hlong] at hother
          exact absurd hother (hkinds _ hp)
    · rintro ⟨stem, hstem, hmatches, hlong⟩
      obtain ⟨kind, hp⟩ := mem_stems_iff.1 hstem
      rw [zoneKind_of_matchesStem hp hlower hmatches, if_pos hlong]

end TableName

/-- The tables of kept relations are classified by how they were admitted: a table of a landing zone
has the kind of this zone, and a table that a stem admits has the kind of the stem, so that results
and processes are start tables.  Only a long s in the stem makes it a table of the other kind. -/
theorem tables_classified_of_kept (level : Level) (rows : List RawRelation) :
    ∀ r ∈ (sanitize level rows).relations,
      TableName.Classified r.sourceTable ∧ TableName.Classified r.targetTable := by
  intro r hr
  obtain ⟨raw, -, hcheck⟩ := exists_check_of_mem_sanitize hr
  obtain ⟨⟨htarget, hsource, -⟩, ⟨rt, rs, -⟩, -⟩ := RawRelation.check_eq_ok_iff.1 hcheck
  constructor
  · apply TableName.classified_of_isAllowed hsource
    rw [← rs]
    exact fun c hc => TableName.lowerChar_of_mem_ofValue hc
  · apply TableName.classified_of_isAllowed htarget
    rw [← rt]
    exact fun c hc => TableName.lowerChar_of_mem_ofValue hc

/-- Names in capital letters, one of them with a long s behind the stem. -/
def rowsInCapitals : List RawRelation :=
  [.ofFields "S_BANI.A" "id" "RESULTADOS_ſ.B" "id"]

/-- Capital letters make no difference, nor does a long s behind the stem. -/
theorem tables_classified_rowsInCapitals :
    (sanitize .tables rowsInCapitals).relations =
      [.ofFields "s_bani.a" "id" "resultados_ſ.b" "id"] ∧
    zoneKind "s_bani.a" = .stagingArea ∧ zoneKind "resultados_ſ.b" = .results ∧
    isStartTable "resultados_ſ.b" = true := by
  have hkept : (sanitize .tables rowsInCapitals).relations =
      [.ofFields "s_bani.a" "id" "resultados_ſ.b" "id"] := by
    decide +kernel
  obtain ⟨hsource, htarget⟩ := tables_classified_of_kept .tables rowsInCapitals
    (.ofFields "s_bani.a" "id" "resultados_ſ.b" "id") (by rw [hkept]; exact List.mem_cons_self)
  have hresults : zoneKind "resultados_ſ.b" = .results :=
    htarget.stem resultsStem .results (by decide) (by decide)
  refine ⟨hkept, hsource.stem stagingStem .stagingArea (by decide) (by decide), hresults, ?_⟩
  exact htarget.start.2 (Or.inl hresults)

/-- A long s in the stems of two zones. -/
def rowsWithLongS : List RawRelation :=
  [.ofFields "ſ_bani.a" "id" "Reſultados.B" "id"]

/-- With a long s in its stem a table is kept, but the kind of its zone is not that of the stem:
it is the other kind, and a table that was admitted as a result is no start table. -/
theorem long_s_admitted_but_other :
    (sanitize .tables rowsWithLongS).relations =
      [.ofFields "ſ_bani.a" "id" "reſultados.b" "id"] ∧
    (sanitize .fields rowsWithLongS).relations =
      [.ofFields "ſ_bani.a" "id" "reſultados.b" "id"] ∧
    TableName.matchesStem stagingStem "ſ_bani.a" = true ∧ zoneKind "ſ_bani.a" = .other ∧
    TableName.matchesStem resultsStem "reſultados.b" = true ∧
    zoneKind "reſultados.b" = .other ∧ isStartTable "reſultados.b" = false := by
  decide +kernel

end Provenance
