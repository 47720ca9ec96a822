import StorageUpgrade.Alignment
import StorageUpgrade.Ast.Index
import StorageUpgrade.Ast.Kind
import StorageUpgrade.Ast.Search
import StorageUpgrade.Ast.TypeName
import StorageUpgrade.Compare.Change
import StorageUpgrade.Compare.Comparator
import StorageUpgrade.Compare.EnumSize
import StorageUpgrade.Documentation
import StorageUpgrade.Error
import StorageUpgrade.Extract.Layout
import StorageUpgrade.Extract.Signature
import StorageUpgrade.Extract.Source
import StorageUpgrade.Extract.Validation
import StorageUpgrade.Json.Basic
import StorageUpgrade.Json.Display
import StorageUpgrade.Json.Reader
import StorageUpgrade.Json.Writer
import StorageUpgrade.Layout.Basic
import StorageUpgrade.Layout.Position
import StorageUpgrade.Layout.TypeGraph
import StorageUpgrade.Log
import StorageUpgrade.Log.View
import StorageUpgrade.Main
import StorageUpgrade.Namespace.Load
import StorageUpgrade.Namespace.Location
import StorageUpgrade.Number.Brief
import StorageUpgrade.Number.Decimal
import StorageUpgrade.Number.Double
import StorageUpgrade.Options
import StorageUpgrade.Platform
import StorageUpgrade.Proofs.Alignment.Appending
import StorageUpgrade.Proofs.Alignment.Blocks
import StorageUpgrade.Proofs.Alignment.Canonical
import StorageUpgrade.Proofs.Alignment.Earliest
import StorageUpgrade.Proofs.Alignment.Free
import StorageUpgrade.Proofs.Alignment.Matching
import StorageUpgrade.Proofs.Alignment.Origin
import StorageUpgrade.Proofs.Alignment.Path
import StorageUpgrade.Proofs.Ast.Loading
import StorageUpgrade.Proofs.Ast.Order
import StorageUpgrade.Proofs.Ast.TypeNames
import StorageUpgrade.Proofs.Ast.Worklist
import StorageUpgrade.Proofs.Compare.Agreement
import StorageUpgrade.Proofs.Compare.Answers
import StorageUpgrade.Proofs.Compare.Cases
import StorageUpgrade.Proofs.Compare.Compatible
import StorageUpgrade.Proofs.Compare.Dispatch
import StorageUpgrade.Proofs.Compare.EnumWidth
import StorageUpgrade.Proofs.Compare.Field
import StorageUpgrade.Proofs.Compare.GapUse
import StorageUpgrade.Proofs.Compare.GivenUp
import StorageUpgrade.Proofs.Compare.Growing
import StorageUpgrade.Proofs.Compare.Memory
import StorageUpgrade.Proofs.Compare.Outcome
import StorageUpgrade.Proofs.Compare.Passing
import StorageUpgrade.Proofs.Compare.Positional
import StorageUpgrade.Proofs.Compare.Positions
import StorageUpgrade.Proofs.Compare.Recursion
import StorageUpgrade.Proofs.Compare.Reflexive
import StorageUpgrade.Proofs.Compare.Relaxing
import StorageUpgrade.Proofs.Compare.Renames
import StorageUpgrade.Proofs.Compare.Reports
import StorageUpgrade.Proofs.Compare.Review
import StorageUpgrade.Proofs.Compare.Safe
import StorageUpgrade.Proofs.Compare.Session
import StorageUpgrade.Proofs.Compare.Unchecked
import StorageUpgrade.Proofs.Compare.Unfolding
import StorageUpgrade.Proofs.Compare.Warnings
import StorageUpgrade.Proofs.Compare.WellFormed
import StorageUpgrade.Proofs.Documentation.Annotations
import StorageUpgrade.Proofs.Extract.Compiled
import StorageUpgrade.Proofs.Extract.Contracts
import StorageUpgrade.Proofs.Extract.DuplicateNamespaces
import StorageUpgrade.Proofs.Extract.FullLayout
import StorageUpgrade.Proofs.Extract.NamespacePositions
import StorageUpgrade.Proofs.Extract.NamespaceTypes
import StorageUpgrade.Proofs.Extract.Signatures
import StorageUpgrade.Proofs.Extract.TypesClosed
import StorageUpgrade.Proofs.Layout.Correspondence
import StorageUpgrade.Proofs.Layout.Detailed
import StorageUpgrade.Proofs.Layout.Distinct
import StorageUpgrade.Proofs.Layout.GapLength
import StorageUpgrade.Proofs.Layout.Reachable
import StorageUpgrade.Proofs.Layout.RoundTrip
import StorageUpgrade.Proofs.Layout.SameId
import StorageUpgrade.Proofs.Report.Changes
import StorageUpgrade.Proofs.Report.Explained
import StorageUpgrade.Proofs.Shell.Agreement
import StorageUpgrade.Proofs.Shell.ConfDemands
import StorageUpgrade.Proofs.Shell.LayoutFiles
import StorageUpgrade.Proofs.TypeId.Decoding
import StorageUpgrade.Proofs.TypeId.Grammar
import StorageUpgrade.Proofs.TypeId.Named
import StorageUpgrade.Proofs.TypeId.Normalizing
import StorageUpgrade.Proofs.TypeId.Parsing
import StorageUpgrade.Proofs.TypeId.Pointers
import StorageUpgrade.Proofs.TypeId.Printing
import StorageUpgrade.Proofs.TypeId.Trees
import StorageUpgrade.Report.Basic
import StorageUpgrade.Report.Summary
import StorageUpgrade.Shell.Arguments
import StorageUpgrade.Shell.Attribute
import StorageUpgrade.Shell.Conf
import StorageUpgrade.Shell.FileTree
import StorageUpgrade.Shell.Help
import StorageUpgrade.Shell.Path
import StorageUpgrade.Shell.Run
import StorageUpgrade.Shell.Session
import StorageUpgrade.Shell.Settings
import StorageUpgrade.Standard
import StorageUpgrade.Standard.Keccak
import StorageUpgrade.Standard.Relaxed
import StorageUpgrade.Standard.Table.Basic
import StorageUpgrade.Standard.Table.Cell
import StorageUpgrade.Standard.Table.Column
import StorageUpgrade.Standard.Terminal
import StorageUpgrade.Text.Affix
import StorageUpgrade.Text.Blank
import StorageUpgrade.Text.Case
import StorageUpgrade.Text.Escape
import StorageUpgrade.Text.Identifier
import StorageUpgrade.Text.LineBreak
import StorageUpgrade.Text.Lines
import StorageUpgrade.Text.Numeral
import StorageUpgrade.Text.Printable
import StorageUpgrade.Text.Range
import StorageUpgrade.Text.Surrogate
import StorageUpgrade.Text.Width
import StorageUpgrade.Text.Word
import StorageUpgrade.TypeId.Basic
import StorageUpgrade.TypeId.Encoding
import StorageUpgrade.Upgrade
