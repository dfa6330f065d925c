import Provenance.Application
import Provenance.Decimal.Fixed
import Provenance.Page.Body
import Provenance.Proofs.Names
import Provenance.Proofs.Relation.Sanitize
import Provenance.Proofs.Relation.Kept
import Provenance.Proofs.Origins
import Provenance.Proofs.Zones
import Provenance.Proofs.Selection
import Provenance.Proofs.Graph.Ids
import Provenance.Proofs.Graph.Build
import Provenance.Proofs.Graph.Identity
import Provenance.Proofs.Graph.Contents
import Provenance.Proofs.Graph.Order
import Provenance.Proofs.Graph.Reach
import Provenance.Proofs.Layout.Boxes
import Provenance.Proofs.Layout.Exact
import Provenance.Proofs.Layout.Overlap
import Provenance.Proofs.Layout.Outline
import Provenance.Proofs.Session.History
import Provenance.Proofs.Session.Loads
import Provenance.Proofs.Session.Rendering
import Provenance.Proofs.Session.Draining
import Provenance.Proofs.Session.Choices
import Provenance.Proofs.Session.Gate
import Provenance.Proofs.Session.Drawing
import Provenance.Proofs.Session.Reload
import Provenance.Proofs.Session.Failure
import Provenance.Proofs.Board
import Provenance.Proofs.View.Zoom
import Provenance.Proofs.View.Columns
import Provenance.Proofs.View.Drag
import Provenance.Proofs.Json.Written
import Provenance.Proofs.Json.Strings
import Provenance.Proofs.Json.Numerals
import Provenance.Proofs.Json.Brackets
import Provenance.Proofs.Json.Values
import Provenance.Proofs.Json.Skipping
import Provenance.Proofs.Decimal.Overflow
import Provenance.Proofs.Json.Records
import Provenance.Proofs.Json.Range
import Provenance.Proofs.Relation.Document
import Provenance.Proofs.Relation.Levels
import Provenance.Proofs.Graph.Accumulation
import Provenance.Proofs.Graph.Columns
import Provenance.Proofs.Selection.Stability
import Provenance.Proofs.Selection.Partition
import Provenance.Proofs.Layout.Packing
import Provenance.Proofs.Layout.Stacking
import Provenance.Proofs.View.Spread
import Provenance.Proofs.View.Fit
import Provenance.Proofs.View.Segments
import Provenance.Proofs.View.Nearest
import Provenance.Proofs.View.Topmost
import Provenance.Proofs.Relation.FieldNames
import Provenance.Proofs.Relation.StringNames
import Provenance.Proofs.Relation.TableZones
import Provenance.Proofs.Graph.Degrees
import Provenance.Proofs.Paint.HexColors
import Provenance.Proofs.Zones.Agreement
