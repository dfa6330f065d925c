import Provenance.Names
import Provenance.Zone

/-!
# Where the data of a table comes from

Relations are followed against the flow of data, from a table to its sources.  Every source of a
visited table belongs to the result, but the search goes on only from sources that are start
tables: raw data shows up as a leaf.  The table that the search starts from is always visited.
-/

namespace Provenance

/-- The direct sources of every table. -/
structure SourceIndex where
  sources : NameMap Names
  deriving DecidableEq

namespace SourceIndex

/-- No table has a source. -/
def empty : SourceIndex := ⟨NameMap.empty⟩

/-- Whether the source of a relation counts: it has a name, and it is no landing table if those
are hidden. -/
def counts (hideLanding : Bool) (r : Relation) : Bool :=
  !(hideLanding && isLanding r.sourceTable) && !r.sourceTable.isEmpty

/-- Record the source of one relation. -/
def add (index : SourceIndex) (r : Relation) : SourceIndex :=
  ⟨index.sources.alter r.targetTable fun old => (old.getD Names.empty).insert r.sourceTable⟩

/-- The direct sources of every table, by the relations that count. -/
def build (hideLanding : Bool) (relations : List Relation) : SourceIndex :=
  (relations.filter (counts hideLanding)).foldl add empty

/-- The direct sources of a table. -/
def sourcesOf (index : SourceIndex) (table : String) : Names :=
  (index.sources.find? table).getD Names.empty

/-- The sources of all tables, with repetitions. -/
def allSources (index : SourceIndex) : List String := index.sources.values.flatMap Names.toList

/-- A search under way: the tables found, and those found that are still to be visited. -/
structure Search where
  found : Names
  pending : List String

/-- Meet a source.  A new one is found, and visited later if it is a start table. -/
def Search.meet (s : Search) (source : String) : Search :=
  if source ∈ s.found then s
  else
    { found := s.found.insert source
      pending := if isStartTable source then source :: s.pending else s.pending }

/-- A search that is about to visit its first table. -/
def Search.begin (start : String) : Search := ⟨Names.empty.insert start, [start]⟩

/-- Visit the pending table that was found last and meet its sources.  There is no visit when
nothing is pending. -/
def Search.visit? (index : SourceIndex) (s : Search) : Option Search :=
  match s.pending with
  | [] => none
  | table :: pending => some ((index.sourcesOf table).toList.foldl Search.meet ⟨s.found, pending⟩)

/-- Visit pending tables until there are none, but not more often than `visits` times. -/
def search (index : SourceIndex) : (visits : Nat) → Search → Search
  | 0, s => s
  | visits + 1, s =>
    match s.visit? index with
    | none => s
    | some s => search index visits s

/-- A table and everything its data comes from.  Every visit but the first belongs to a pair of
the index, which bounds the number of visits. -/
def closure (index : SourceIndex) (start : String) : Names :=
  (index.search (index.allSources.length + 1) (Search.begin start)).found

end SourceIndex

/-- A table and everything its data comes from, by a list of relations. -/
def origins (hideLanding : Bool) (relations : List Relation) (start : String) : Names :=
  (SourceIndex.build hideLanding relations).closure start

end Provenance
