import Provenance.Paint.Color
import Provenance.Zone

/-!
# Theme

Tables and fields take their colours from the kind of their zone: headers and borders of tables
the strong colour, borders of fields a lighter one of the same family.
-/

namespace Provenance.Theme

/-- The colours of a kind of zone. -/
structure ZoneStyle where
  strong : Color
  onStrong : Color
  fieldBorder : Color

/-- White. -/
def white : Color := Color.rgb 255 255 255

/-- The colours of a kind of zone. -/
def zoneStyle : ZoneKind → ZoneStyle
  | .results => ⟨Color.hex "#65a30d", white, Color.hex "#a3e635"⟩
  | .process => ⟨Color.hex "#be185d", white, Color.hex "#fda4af"⟩
  | .stagingArea => ⟨Color.hex "#5b21b6", Color.hex "#f8fafc", Color.hex "#a855f7"⟩
  | .landingStatic => ⟨Color.hex "#b91c1c", white, Color.hex "#f87171"⟩
  | .landingFunction => ⟨Color.hex "#64748b", white, Color.hex "#94a3b8"⟩
  | .other => ⟨Color.hex "#475569", white, Color.hex "#94a3b8"⟩

/-- The background of a band. -/
def bandFill : Column → Color
  | .left => ⟨91, 33, 182, 0.06⟩
  | .center => ⟨190, 24, 93, 0.05⟩
  | .right => ⟨101, 163, 13, 0.07⟩

/-- The title of a band. -/
def bandTitle : Column → String
  | .left => "Staging area"
  | .center => "Process and landing zones"
  | .right => "Results"

/-- The background of the columns. -/
def background : Color := white

/-- The background of the free flow. -/
def freeFlowBackground : Color := Color.hex "#ecfccb"

/-- Titles of bands. -/
def titleColor : Color := Color.hex "#334155"

/-- Lines between bands. -/
def separatorColor : Color := Color.hex "#cbd5e1"

/-- Edges from landing tables, and other edges. -/
def edgeColor (landing : Bool) : Color :=
  if landing then Color.hex "#ef4444" else Color.hex "#94a3b8"

/-- The inside of boxes. -/
def boxFill : Color := white

/-- Names of fields. -/
def textColor : Color := Color.hex "#0f172a"

/-- Names of columns listed in a table. -/
def mutedText : Color := Color.hex "#64748b"

/-- What is selected or under the pointer. -/
def selection : Color := Color.hex "#0ea5e9"

/-- The background of the tooltip. -/
def tooltipFill : Color := ⟨15, 23, 42, 0.9⟩

/-- The text of the tooltip. -/
def tooltipText : Color := white

end Provenance.Theme
