/-!
# Levels of detail

Relations are shown between tables or between fields of tables.
-/

namespace Provenance

/-- Whether relations join tables or fields. -/
inductive Level where
  | tables
  | fields
  deriving DecidableEq, Repr, Inhabited

namespace Level

/-- The name of a level, as the level selector lists it. -/
def name : Level → String
  | tables => "tables"
  | fields => "fields"

/-- The level of a name; every other name stands for the table level. -/
def ofName (name : String) : Level :=
  if name = "fields" then fields else tables

/-- The level in running text. -/
def label : Level → String
  | tables => "table level"
  | fields => "field level"

/-- A level is found by its own name. -/
@[simp]
theorem ofName_name (level : Level) : ofName level.name = level := by
  cases level <;> decide

end Level

end Provenance
