import Provenance.Proofs.Relation.TableZones

/-!
# Agreement on what a name says

Four questions are asked of the name of a table: in which zone it lies, of which kind this zone
is, whether the table is a start table, and whether it lies in a landing zone.  The kind is told
from the zone, which ends at the first dot except in the landing zones.  The last two questions
are answered from the beginning of the whole name.  This module shows that the answers agree for
every name, also for names that are empty, have no dot or have several.

Main results:

- Theorem `ZoneKind.ofZone_eq_iff`: each kind goes with one beginning.
- Theorem `exists_zoneOf?_eq`: the zone begins the name, and where it ends.
-/

namespace Provenance

/-- No two beginnings have the same kind. -/
theorem ZoneKind.starts_kinds_apart : ∀ p ∈ starts, ∀ q ∈ starts, p.2 = q.2 → p = q := by
  decide

/-- A name has a kind exactly if it begins with the text that goes with the kind. -/
theorem ZoneKind.ofZone_eq_iff (name : String) {p : String × ZoneKind} (hp : p ∈ starts) :
    ofZone name = p.2 ↔ Text.startsWith name p.1 = true := by
  constructor
  · intro hkind
    rw [ofZone_eq_find?] at hkind
    cases hfind : starts.find? fun q => Text.startsWith name q.1 with
    | none =>
        have hknown : ∀ p ∈ starts, p.2 ≠ .other := by decide
        rw [hfind] at hkind
        exact absurd hkind.symm (hknown p hp)
    | some q =>
        rw [hfind] at hkind
        have hsame : q = p :=
          starts_kinds_apart q (List.mem_of_find?_eq_some hfind) p hp hkind
        rw [← hsame]
        simpa using List.find?_some hfind
  · exact ofZone_of_startsWith hp

/-- A table lies in a landing zone exactly if this is the kind of its zone. -/
theorem isLanding_iff_kind (table : String) :
    isLanding table = true ↔
      zoneKind table = .landingStatic ∨ zoneKind table = .landingFunction := by
  have hstatic := ZoneKind.ofZone_eq_iff table (p := (landingStaticZone, .landingStatic))
    (by decide)
  have hfunction := ZoneKind.ofZone_eq_iff table
    (p := (landingFunctionZone, .landingFunction)) (by decide)
  rw [zoneKind_eq_ofZone, isLanding, Bool.or_eq_true, hstatic, hfunction]

/-- A text that begins with another one is this one and a rest. -/
theorem Text.exists_append_of_startsWith {s start : String} (h : startsWith s start = true) :
    ∃ rest, s = start ++ rest := by
  obtain ⟨rest, hrest⟩ := startsWith_iff.1 h
  refine ⟨String.ofList rest, ?_⟩
  rw [← String.toList_inj, String.toList_append, String.toList_ofList, hrest]

/-- A text is what stands before its first dot, and a rest that is empty or begins with this
dot. -/
theorem Text.exists_append_beforeDot (s : String) :
    ∃ rest, s = String.ofList (s.toList.takeWhile fun c => c != '.') ++ rest ∧
      (rest = "" ∨ startsWith rest "." = true) := by
  refine ⟨String.ofList (s.toList.dropWhile fun c => c != '.'), ?_, ?_⟩
  · rw [← String.ofList_append, List.takeWhile_append_dropWhile, String.ofList_toList]
  · cases hrest : s.toList.dropWhile fun c => c != '.' with
    | nil => exact Or.inl rfl
    | cons c cs =>
        have hdot := List.head?_dropWhile_not (fun c => c != '.') s.toList
        rw [hrest] at hdot
        have hc : c = '.' := by simpa using hdot
        refine Or.inr (startsWith_iff.2 ?_)
        simp [hc]

theorem Text.dot_not_mem_beforeDot (s : String) :
    '.' ∉ (String.ofList (s.toList.takeWhile fun c => c != '.')).toList := by
  rw [String.toList_ofList]
  intro hmem
  exact absurd (List.all_eq_true.1 List.all_takeWhile _ hmem) (by decide)

/-- The zone begins the name of the table.  It is a landing zone, or it has no dot and ends with
the name or before a dot. -/
theorem exists_zoneOf?_eq {table : String} (h : table ≠ "") :
    ∃ zone rest, zoneOf? table = some zone ∧ table = zone ++ rest ∧
      (zone = landingStaticZone ∨ zone = landingFunctionZone ∨
        ('.' ∉ zone.toList ∧ (rest = "" ∨ Text.startsWith rest "." = true))) := by
  unfold zoneOf?
  rw [if_neg (by simpa using h)]
  split
  · rename_i hstatic
    obtain ⟨rest, hrest⟩ := Text.exists_append_of_startsWith hstatic
    exact ⟨_, rest, rfl, hrest, Or.inl rfl⟩
  · split
    · rename_i hfunction
      obtain ⟨rest, hrest⟩ := Text.exists_append_of_startsWith hfunction
      exact ⟨_, rest, rfl, hrest, Or.inr (Or.inl rfl)⟩
    · obtain ⟨rest, htable, hrest⟩ := Text.exists_append_beforeDot table
      exact ⟨_, rest, rfl, htable, Or.inr (Or.inr ⟨Text.dot_not_mem_beforeDot table, hrest⟩)⟩

/-- The answers agree for every name.  The start tables are those whose zone is one of results
or processes, and the tables of landing zones are those whose zone is of such a kind.  Only a
table without a name has no zone.  Any other name begins with its zone, which is a landing zone,
or has no dot and ends with the name or before a dot. -/
theorem classifiers_agree (table : String) :
    (isStartTable table = true ↔ zoneKind table = .results ∨ zoneKind table = .process) ∧
    (isLanding table = true ↔
      zoneKind table = .landingStatic ∨ zoneKind table = .landingFunction) ∧
    ((table = "" ∧ zoneOf? table = none) ∨
      (table ≠ "" ∧ ∃ zone rest, zoneOf? table = some zone ∧ table = zone ++ rest ∧
        (zone = landingStaticZone ∨ zone = landingFunctionZone ∨
          ('.' ∉ zone.toList ∧ (rest = "" ∨ Text.startsWith rest "." = true))))) := by
  refine ⟨?_, isLanding_iff_kind table, ?_⟩
  · rw [zoneKind_eq_ofZone, ZoneKind.ofZone_isStart_iff]
  · by_cases h : table = ""
    · exact Or.inl ⟨h, zoneOf?_eq_none_iff.2 h⟩
    · exact Or.inr ⟨h, exists_zoneOf?_eq h⟩

end Provenance
