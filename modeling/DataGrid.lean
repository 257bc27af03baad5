import DataGrid.Cell
import DataGrid.Cell.Value
import DataGrid.Column
import DataGrid.Column.Id
import DataGrid.Columns
import DataGrid.Columns.Order
import DataGrid.Columns.Snapshot
import DataGrid.Columns.SnapshotReader
import DataGrid.Columns.SnapshotWriter
import DataGrid.CommandLine
import DataGrid.Config
import DataGrid.Config.Reader
import DataGrid.Cursor
import DataGrid.DataSource
import DataGrid.Decimal.Binary
import DataGrid.Decimal.Reader
import DataGrid.Decimal.Shortest
import DataGrid.Decimal.Text
import DataGrid.Error
import DataGrid.Feature.BuiltIn
import DataGrid.Feature.CellSelection
import DataGrid.Feature.ColumnFixation
import DataGrid.Feature.ColumnMoving
import DataGrid.Feature.ColumnResizing
import DataGrid.Feature.ColumnSelection
import DataGrid.Feature.ContextMenu
import DataGrid.Feature.Hover
import DataGrid.Feature.KeyPaging
import DataGrid.Feature.RowFixation
import DataGrid.Feature.RowSelection
import DataGrid.Feature.Scripted
import DataGrid.Feature.Step
import DataGrid.Formatter
import DataGrid.Frame
import DataGrid.Geometry
import DataGrid.Grid
import DataGrid.Grid.Call
import DataGrid.Input
import DataGrid.Json
import DataGrid.Json.Decode
import DataGrid.Json.Document
import DataGrid.Json.Number
import DataGrid.Json.Token
import DataGrid.Json.Writer
import DataGrid.Layout
import DataGrid.Main
import DataGrid.Model
import DataGrid.Notice
import DataGrid.Overlays
import DataGrid.Painting
import DataGrid.Pipeline
import DataGrid.Pipeline.Timers
import DataGrid.Pixel
import DataGrid.PointerIcon
import DataGrid.Proofs.Columns.Change
import DataGrid.Proofs.Columns.History
import DataGrid.Proofs.Columns.Moves
import DataGrid.Proofs.Columns.Notices
import DataGrid.Proofs.Columns.Order
import DataGrid.Proofs.Columns.Placing
import DataGrid.Proofs.Columns.Positions
import DataGrid.Proofs.Columns.Repeats
import DataGrid.Proofs.Columns.Restore
import DataGrid.Proofs.Columns.Showing
import DataGrid.Proofs.Columns.Source
import DataGrid.Proofs.Cursor.Freshness
import DataGrid.Proofs.Cursor.Layers
import DataGrid.Proofs.Decimal.Fixed
import DataGrid.Proofs.Decimal.Groups
import DataGrid.Proofs.Feature.Addressees
import DataGrid.Proofs.Feature.Advance
import DataGrid.Proofs.Feature.Arrows
import DataGrid.Proofs.Feature.CellDrag
import DataGrid.Proofs.Feature.ColumnDrag
import DataGrid.Proofs.Feature.Deeds
import DataGrid.Proofs.Feature.DropBar
import DataGrid.Proofs.Feature.Gesture
import DataGrid.Proofs.Feature.Hovering
import DataGrid.Proofs.Feature.Inside
import DataGrid.Proofs.Feature.Names
import DataGrid.Proofs.Feature.Press
import DataGrid.Proofs.Feature.Requests
import DataGrid.Proofs.Feature.Resizing
import DataGrid.Proofs.Feature.Rest
import DataGrid.Proofs.Feature.Reveal
import DataGrid.Proofs.Feature.Scrolling
import DataGrid.Proofs.Feature.Undoing
import DataGrid.Proofs.Frame.Cells
import DataGrid.Proofs.Frame.Edges
import DataGrid.Proofs.Frame.Hits
import DataGrid.Proofs.Frame.Nearest
import DataGrid.Proofs.Frame.Room
import DataGrid.Proofs.Frame.Starts
import DataGrid.Proofs.Grid.Anchors
import DataGrid.Proofs.Grid.Announcements
import DataGrid.Proofs.Grid.Arrows
import DataGrid.Proofs.Grid.CellDrag
import DataGrid.Proofs.Grid.Coherence
import DataGrid.Proofs.Grid.ColumnDrag
import DataGrid.Proofs.Grid.ColumnFixing
import DataGrid.Proofs.Grid.Drawing
import DataGrid.Proofs.Grid.DropBar
import DataGrid.Proofs.Grid.Effects
import DataGrid.Proofs.Grid.Escape
import DataGrid.Proofs.Grid.Gestures
import DataGrid.Proofs.Grid.History
import DataGrid.Proofs.Grid.Hovering
import DataGrid.Proofs.Grid.Inside
import DataGrid.Proofs.Grid.Merges
import DataGrid.Proofs.Grid.Painting
import DataGrid.Proofs.Grid.Reachable
import DataGrid.Proofs.Grid.Reattachment
import DataGrid.Proofs.Grid.Resizing
import DataGrid.Proofs.Grid.Rules
import DataGrid.Proofs.Grid.Scrolling
import DataGrid.Proofs.Grid.Settle
import DataGrid.Proofs.Grid.Source
import DataGrid.Proofs.Grid.Standard
import DataGrid.Proofs.Grid.Toggling
import DataGrid.Proofs.Layout.Axis
import DataGrid.Proofs.Layout.Fixing
import DataGrid.Proofs.Layout.InOrder
import DataGrid.Proofs.Layout.InView
import DataGrid.Proofs.Layout.Limits
import DataGrid.Proofs.Layout.Lookup
import DataGrid.Proofs.Layout.Offsets
import DataGrid.Proofs.Layout.Places
import DataGrid.Proofs.Layout.Screens
import DataGrid.Proofs.Layout.Scrolling
import DataGrid.Proofs.Layout.Search
import DataGrid.Proofs.Model.Coherence
import DataGrid.Proofs.Model.ColumnMove
import DataGrid.Proofs.Model.Deeds
import DataGrid.Proofs.Model.History
import DataGrid.Proofs.Model.Hovering
import DataGrid.Proofs.Model.Inside
import DataGrid.Proofs.Model.Scrolling
import DataGrid.Proofs.Model.ShownColumns
import DataGrid.Proofs.Pipeline.Delivery
import DataGrid.Proofs.Pipeline.Detaching
import DataGrid.Proofs.Pipeline.Gestures
import DataGrid.Proofs.Pipeline.Holding
import DataGrid.Proofs.Pipeline.Inside
import DataGrid.Proofs.Pipeline.Pressing
import DataGrid.Proofs.Pipeline.Reattachment
import DataGrid.Proofs.Pipeline.Rules
import DataGrid.Proofs.Pipeline.ScrollSteps
import DataGrid.Proofs.Pipeline.Scrolling
import DataGrid.Proofs.Pipeline.Ticks
import DataGrid.Proofs.Pipeline.Undoing
import DataGrid.Proofs.Pipeline.Visits
import DataGrid.Proofs.Pixel
import DataGrid.Proofs.Scene.Merges
import DataGrid.Proofs.Scene.Overrides
import DataGrid.Proofs.Scene.Painting
import DataGrid.Proofs.Scene.Rectangles
import DataGrid.Proofs.Scene.Spaces
import DataGrid.Proofs.Selection
import DataGrid.Proofs.Selection.Inside
import DataGrid.Proofs.Selection.Marks
import DataGrid.Proofs.Selection.Remap
import DataGrid.Proofs.Selection.Toggling
import DataGrid.Proofs.Table.Delimited
import DataGrid.Proofs.Table.Delimiters
import DataGrid.Proofs.Table.Fields
import DataGrid.Proofs.Table.OpenQuotes
import DataGrid.Report
import DataGrid.Scene
import DataGrid.Schema
import DataGrid.Script
import DataGrid.Selection
import DataGrid.Table
import DataGrid.Table.Delimited
import DataGrid.Text.Blank
import DataGrid.Text.Lines
import DataGrid.Text.Uppercase
import DataGrid.Text.Utf8
import DataGrid.Version
import DataGrid.View
import DataGrid.Viewport
