import Planetarium.Catalog.Basic
import Planetarium.Catalog.Workshop
import Planetarium.Directory
import Planetarium.Geometry.Angle
import Planetarium.Geometry.Circular
import Planetarium.Geometry.Mat4
import Planetarium.Geometry.Quat
import Planetarium.Geometry.Vec3
import Planetarium.Journal
import Planetarium.Main
import Planetarium.Message.Basic
import Planetarium.Message.Instruction
import Planetarium.Message.Rejection
import Planetarium.Message.Schema
import Planetarium.Message.Verb
import Planetarium.Motion.Frames
import Planetarium.Motion.Space
import Planetarium.Motion.Spin
import Planetarium.Numeral.Decimal
import Planetarium.Numeral.Rounding
import Planetarium.Numeral.Single
import Planetarium.Numeral.Whole
import Planetarium.Outcome
import Planetarium.Proofs.Catalog.Boards
import Planetarium.Proofs.Catalog.Deeds
import Planetarium.Proofs.Catalog.Procedures
import Planetarium.Proofs.Geometry.Placement
import Planetarium.Proofs.Message.Cursors
import Planetarium.Proofs.Message.Kinds
import Planetarium.Proofs.Message.Payloads
import Planetarium.Proofs.Message.Schemas
import Planetarium.Proofs.Motion.Registrations
import Planetarium.Proofs.Motion.Spaces
import Planetarium.Proofs.Motion.Turning
import Planetarium.Proofs.Numeral.Canonical
import Planetarium.Proofs.Numeral.Classes
import Planetarium.Proofs.Numeral.Order
import Planetarium.Proofs.Numeral.Reciprocal
import Planetarium.Proofs.Outcomes
import Planetarium.Proofs.Scene.Caches
import Planetarium.Proofs.Scene.Clearing
import Planetarium.Proofs.Scene.Invalidation
import Planetarium.Proofs.Scene.Links
import Planetarium.Proofs.Scene.Looks
import Planetarium.Proofs.Scene.Marks
import Planetarium.Proofs.Scene.Operations
import Planetarium.Proofs.Scene.Portraits
import Planetarium.Proofs.Scene.Reads
import Planetarium.Proofs.Scene.Rehanging
import Planetarium.Proofs.Scene.Runs
import Planetarium.Proofs.Scene.Searches
import Planetarium.Proofs.Scene.Sparing
import Planetarium.Proofs.Scene.Touches
import Planetarium.Proofs.Scene.Transforms
import Planetarium.Proofs.Show.Arrival
import Planetarium.Proofs.Show.Authored
import Planetarium.Proofs.Show.Clients
import Planetarium.Proofs.Show.Contracts
import Planetarium.Proofs.Show.Course
import Planetarium.Proofs.Show.Draining
import Planetarium.Proofs.Show.Forest
import Planetarium.Proofs.Show.Frozen
import Planetarium.Proofs.Show.InTime
import Planetarium.Proofs.Show.Moving
import Planetarium.Proofs.Show.Outsiders
import Planetarium.Proofs.Show.Rates
import Planetarium.Proofs.Show.Refusals
import Planetarium.Proofs.Show.Regular
import Planetarium.Proofs.Show.Steady
import Planetarium.Proofs.Show.Timing
import Planetarium.Proofs.Show.Toggles
import Planetarium.Proofs.Show.Vantage
import Planetarium.Proofs.Show.Violations
import Planetarium.Proofs.System.Built
import Planetarium.Proofs.System.Orrery
import Planetarium.Proofs.Text.Layouts
import Planetarium.Proofs.Text.Utf8
import Planetarium.Proofs.Transfer.Edges
import Planetarium.Proofs.Transfer.Launches
import Planetarium.Proofs.Transfer.Steps
import Planetarium.Proofs.Transfer.Turns
import Planetarium.Proofs.Wire.Deliveries
import Planetarium.Proofs.Wire.Encoding
import Planetarium.Proofs.Wire.Grammar
import Planetarium.Proofs.Wire.Reception
import Planetarium.Proofs.Wire.Session
import Planetarium.Proofs.Wire.Transmission
import Planetarium.Scene.Basic
import Planetarium.Scene.Component
import Planetarium.Scene.Edit
import Planetarium.Scene.Forest
import Planetarium.Scene.Fresh
import Planetarium.Scene.Hierarchy
import Planetarium.Scene.Object
import Planetarium.Scene.Transform
import Planetarium.Scene.World
import Planetarium.Settings.Arguments
import Planetarium.Settings.Basic
import Planetarium.Show.Clock
import Planetarium.Show.Controls
import Planetarium.Show.History
import Planetarium.Show.Queue
import Planetarium.Show.Simulation
import Planetarium.Show.Stage
import Planetarium.System.Blueprint
import Planetarium.System.Solar
import Planetarium.Text.Blank
import Planetarium.Text.Quoted
import Planetarium.Text.Shown
import Planetarium.Text.Utf8
import Planetarium.Transfer.Mission
import Planetarium.Transfer.Sample
import Planetarium.Transfer.Window
import Planetarium.View.Backdrop
import Planetarium.View.Camera
import Planetarium.Violation
import Planetarium.Wire.Delivery
import Planetarium.Wire.Event
import Planetarium.Wire.Frame
import Planetarium.Wire.Sender
