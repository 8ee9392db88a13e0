import CodeAtlas.Main
import CodeAtlas.Proofs.CallSites.Grammar
import CodeAtlas.Proofs.CallTrace.Diagram
import CodeAtlas.Proofs.CallTrace.Files
import CodeAtlas.Proofs.CallTrace.Final
import CodeAtlas.Proofs.CallTrace.Limits
import CodeAtlas.Proofs.CallTrace.Locations
import CodeAtlas.Proofs.CallTrace.Outlines
import CodeAtlas.Proofs.CallTrace.Places
import CodeAtlas.Proofs.CallTrace.Repeated
import CodeAtlas.Proofs.CallTrace.Runs
import CodeAtlas.Proofs.CallTrace.Script
import CodeAtlas.Proofs.CallTrace.Shape
import CodeAtlas.Proofs.CallTree.Calls
import CodeAtlas.Proofs.Client.Announcing
import CodeAtlas.Proofs.Client.Flattened
import CodeAtlas.Proofs.Client.Gate
import CodeAtlas.Proofs.Command.Delivery
import CodeAtlas.Proofs.Command.Flags
import CodeAtlas.Proofs.Diagram.Lossless
import CodeAtlas.Proofs.Diagram.Messages
import CodeAtlas.Proofs.Diagram.Outline
import CodeAtlas.Proofs.Document.Bounds
import CodeAtlas.Proofs.Document.Lines
import CodeAtlas.Proofs.Document.Order
import CodeAtlas.Proofs.Document.Uris
import CodeAtlas.Proofs.Hierarchy.Climbing
import CodeAtlas.Proofs.Hierarchy.Component
import CodeAtlas.Proofs.Hierarchy.Once
import CodeAtlas.Proofs.Hierarchy.Rooted
import CodeAtlas.Proofs.Settings.Course
import CodeAtlas.Proofs.Symbol.Innermost
import CodeAtlas.Proofs.Text.Pattern
import CodeAtlas.Proofs.TypeGraph.Bookkeeping
import CodeAtlas.Proofs.Wire.Headers
import CodeAtlas.Proofs.Wire.Lifecycle
import CodeAtlas.Proofs.Wire.Outage
import CodeAtlas.Proofs.Wire.Starting
import CodeAtlas.Proofs.Wire.Stopping
import CodeAtlas.Proofs.Wire.Truncation
import CodeAtlas.Scripted.Wired
import CodeAtlas.Settings.Fields
