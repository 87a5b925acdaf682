import PackageAtlas.Analyzer.Basic
import PackageAtlas.Analyzer.Target
import PackageAtlas.Command.Arguments
import PackageAtlas.Command.Run
import PackageAtlas.Config.Basic
import PackageAtlas.Config.Decode
import PackageAtlas.Config.Project
import PackageAtlas.Diagram.Basic
import PackageAtlas.Diagram.Graph
import PackageAtlas.Diagram.JsonText
import PackageAtlas.Diagram.PlantUml
import PackageAtlas.FileTree.Basic
import PackageAtlas.FileTree.Change
import PackageAtlas.FileTree.Files
import PackageAtlas.FileTree.Locate
import PackageAtlas.Import
import PackageAtlas.LogicalPath
import PackageAtlas.Main
import PackageAtlas.ModuleSearch
import PackageAtlas.Numeral
import PackageAtlas.Path
import PackageAtlas.Policy.Basic
import PackageAtlas.Policy.Check
import PackageAtlas.Project.Basic
import PackageAtlas.Project.Build
import PackageAtlas.Project.Discovery
import PackageAtlas.Project.Hierarchy
import PackageAtlas.Project.Id
import PackageAtlas.Project.Lookup
import PackageAtlas.Proofs.Analyzer.Answers
import PackageAtlas.Proofs.Analyzer.Faithful
import PackageAtlas.Proofs.Analyzer.FromImport
import PackageAtlas.Proofs.Analyzer.History
import PackageAtlas.Proofs.Analyzer.RelativeImport
import PackageAtlas.Proofs.Analyzer.Relocation
import PackageAtlas.Proofs.Analyzer.SearchOrder
import PackageAtlas.Proofs.Analyzer.Task
import PackageAtlas.Proofs.ByteOrder
import PackageAtlas.Proofs.Command.Comparing
import PackageAtlas.Proofs.Config.Applied
import PackageAtlas.Proofs.Config.Elsewhere
import PackageAtlas.Proofs.Config.Rebasing
import PackageAtlas.Proofs.Diagram.CommonPrefix
import PackageAtlas.Proofs.Diagram.Encoding
import PackageAtlas.Proofs.Diagram.ShownNames
import PackageAtlas.Proofs.FileTree.AbsoluteNames
import PackageAtlas.Proofs.FileTree.Copies
import PackageAtlas.Proofs.FileTree.Discovery
import PackageAtlas.Proofs.FileTree.Following
import PackageAtlas.Proofs.FileTree.Inside
import PackageAtlas.Proofs.FileTree.Locations
import PackageAtlas.Proofs.FileTree.Nodes
import PackageAtlas.Proofs.FileTree.Saving
import PackageAtlas.Proofs.FileTree.Shapes
import PackageAtlas.Proofs.FileTree.Spelling
import PackageAtlas.Proofs.Grouping
import PackageAtlas.Proofs.Keyed
import PackageAtlas.Proofs.ModuleNames
import PackageAtlas.Proofs.Path.Components
import PackageAtlas.Proofs.Path.Relative
import PackageAtlas.Proofs.Policy.Check
import PackageAtlas.Proofs.Policy.Exactness
import PackageAtlas.Proofs.Project.BuildTask
import PackageAtlas.Proofs.Project.ContentChange
import PackageAtlas.Proofs.Project.Contents
import PackageAtlas.Proofs.Project.Counterparts
import PackageAtlas.Proofs.Project.Directory
import PackageAtlas.Proofs.Project.Edges
import PackageAtlas.Proofs.Project.Entries
import PackageAtlas.Proofs.Project.Growth
import PackageAtlas.Proofs.Project.Hierarchy
import PackageAtlas.Proofs.Project.ImportEdges
import PackageAtlas.Proofs.Project.Layout
import PackageAtlas.Proofs.Project.LogicalPaths
import PackageAtlas.Proofs.Project.Lookups
import PackageAtlas.Proofs.Project.ModuleFiles
import PackageAtlas.Proofs.Project.Operations
import PackageAtlas.Proofs.Project.Outline
import PackageAtlas.Proofs.Project.Relocation
import PackageAtlas.Proofs.Project.Scheduling
import PackageAtlas.Proofs.Project.SingleNames
import PackageAtlas.Proofs.Project.Targets
import PackageAtlas.Proofs.Project.Walks
import PackageAtlas.Proofs.Project.WellFormed
import PackageAtlas.Proofs.Python.ImportNames
import PackageAtlas.Proofs.Python.ImportOrder
import PackageAtlas.Proofs.Related
import PackageAtlas.Proofs.Text
import PackageAtlas.Proofs.Unicode.Separators
import PackageAtlas.Proofs.Unicode.Tables
import PackageAtlas.Proofs.View.Absorption
import PackageAtlas.Proofs.View.Agreement
import PackageAtlas.Proofs.View.Between
import PackageAtlas.Proofs.View.Changes
import PackageAtlas.Proofs.View.Coarsening
import PackageAtlas.Proofs.View.Comparison
import PackageAtlas.Proofs.View.Connected
import PackageAtlas.Proofs.View.Deltas
import PackageAtlas.Proofs.View.Derived
import PackageAtlas.Proofs.View.Folding
import PackageAtlas.Proofs.View.Isolation
import PackageAtlas.Proofs.View.Labels
import PackageAtlas.Proofs.View.Mirror
import PackageAtlas.Proofs.View.Names
import PackageAtlas.Proofs.View.Ordered
import PackageAtlas.Proofs.View.Partition
import PackageAtlas.Proofs.View.PlainViews
import PackageAtlas.Proofs.View.Recovery
import PackageAtlas.Proofs.View.Relations
import PackageAtlas.Proofs.View.Renumbering
import PackageAtlas.Proofs.View.Retention
import PackageAtlas.Proofs.View.Rollup
import PackageAtlas.Proofs.View.Selection
import PackageAtlas.Proofs.View.Table
import PackageAtlas.Proofs.View.Validation
import PackageAtlas.Python.Block
import PackageAtlas.Python.Expression
import PackageAtlas.Python.Lexer
import PackageAtlas.Python.Literal
import PackageAtlas.Python.Pattern
import PackageAtlas.Python.Simple
import PackageAtlas.Python.Statement
import PackageAtlas.Python.Token
import PackageAtlas.Reader
import PackageAtlas.StandardLibrary
import PackageAtlas.Text
import PackageAtlas.Toml.Document
import PackageAtlas.Toml.Scalar
import PackageAtlas.Toml.Syntax
import PackageAtlas.Toml.Value
import PackageAtlas.Unicode.Decomposition
import PackageAtlas.Unicode.Identifier
import PackageAtlas.Unicode.Normalization
import PackageAtlas.Unicode.Table
import PackageAtlas.View.Basic
import PackageAtlas.View.Diff
import PackageAtlas.View.Label
import PackageAtlas.View.Rollup
import PackageAtlas.View.Selection
import PackageAtlas.View.Spec
