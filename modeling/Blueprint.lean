import Blueprint.Analysis.Order
import Blueprint.Analysis.Validation
import Blueprint.Catalog.Builtin
import Blueprint.Command
import Blueprint.Command.Arguments
import Blueprint.Command.Help
import Blueprint.DataType
import Blueprint.Document.Load
import Blueprint.FileTree
import Blueprint.Graph.Edit
import Blueprint.Graph.Inspect
import Blueprint.Main
import Blueprint.Proofs.Acceptance
import Blueprint.Proofs.Agreement
import Blueprint.Proofs.Bindings
import Blueprint.Proofs.Connecting
import Blueprint.Proofs.Content
import Blueprint.Proofs.Diagnostics
import Blueprint.Proofs.DocumentText
import Blueprint.Proofs.Effects
import Blueprint.Proofs.Finiteness
import Blueprint.Proofs.GeneratedIds
import Blueprint.Proofs.History
import Blueprint.Proofs.IntegerRanges
import Blueprint.Proofs.Layout
import Blueprint.Proofs.Loading
import Blueprint.Proofs.LongestWindow
import Blueprint.Proofs.Nesting
import Blueprint.Proofs.Numbering
import Blueprint.Proofs.Observers
import Blueprint.Proofs.OperatorTrees
import Blueprint.Proofs.Placeholders
import Blueprint.Proofs.Registration
import Blueprint.Proofs.Reloading
import Blueprint.Proofs.Removal
import Blueprint.Proofs.SharedNames
import Blueprint.Proofs.StoredConnections
import Blueprint.Proofs.Upstream
import Blueprint.Strategy.Compile
import Blueprint.Text.Numeral
