import EnvTags.Analysis
import EnvTags.AnalysisError
import EnvTags.Command.Arguments
import EnvTags.Command.Options
import EnvTags.Command.Output
import EnvTags.Command.Report
import EnvTags.Command.Word
import EnvTags.Config.Basic
import EnvTags.Config.Load
import EnvTags.Config.Read
import EnvTags.Config.Write
import EnvTags.Dependency.ModuleCache
import EnvTags.Dependency.Resolver
import EnvTags.Dependency.Version
import EnvTags.Diagnostic
import EnvTags.Expansion.Bound
import EnvTags.Expansion.Expand
import EnvTags.Expansion.Nested
import EnvTags.Expansion.State
import EnvTags.FileSystem.Access
import EnvTags.FileSystem.Entry
import EnvTags.Glob
import EnvTags.Go.Declarations
import EnvTags.Go.Grammar.Expressions
import EnvTags.Go.Grammar.Place
import EnvTags.Go.Grammar.SourceFile
import EnvTags.Go.Grammar.Statements
import EnvTags.Go.Grammar.Types
import EnvTags.Go.Lexeme
import EnvTags.Go.Parser
import EnvTags.Go.Scan
import EnvTags.Go.Token
import EnvTags.Go.Tree
import EnvTags.Graph
import EnvTags.Import
import EnvTags.ImportPath
import EnvTags.Json.Token
import EnvTags.Json.Value
import EnvTags.Main
import EnvTags.Manifest
import EnvTags.Name
import EnvTags.Path
import EnvTags.Project.Scan
import EnvTags.Project.SourceFiles
import EnvTags.Proofs.Analysis
import EnvTags.Proofs.Analysis.Agreement
import EnvTags.Proofs.Analysis.Forest
import EnvTags.Proofs.Analysis.HiddenFile
import EnvTags.Proofs.Analysis.Lines
import EnvTags.Proofs.Analysis.Listing
import EnvTags.Proofs.Analysis.ListingOrder
import EnvTags.Proofs.Analysis.ModuleCache
import EnvTags.Proofs.Analysis.Reading
import EnvTags.Proofs.Analysis.VariableNames
import EnvTags.Proofs.Command.Create
import EnvTags.Proofs.Config.Search
import EnvTags.Proofs.Dependency.CacheWalk
import EnvTags.Proofs.Dependency.Faults
import EnvTags.Proofs.Dependency.HiddenFile
import EnvTags.Proofs.Dependency.HighestVersion
import EnvTags.Proofs.Dependency.History
import EnvTags.Proofs.Dependency.Listing
import EnvTags.Proofs.Dependency.Location
import EnvTags.Proofs.Dependency.OwnPackages
import EnvTags.Proofs.Dependency.ProjectDirectory
import EnvTags.Proofs.Dependency.Release
import EnvTags.Proofs.Dependency.Resolve
import EnvTags.Proofs.Dependency.ScanCache
import EnvTags.Proofs.Dependency.Unescape
import EnvTags.Proofs.Dependency.Version
import EnvTags.Proofs.Dependency.VisitedPackage
import EnvTags.Proofs.EscapedPath
import EnvTags.Proofs.Expansion.Agreement
import EnvTags.Proofs.Expansion.Confined
import EnvTags.Proofs.Expansion.Depth
import EnvTags.Proofs.Expansion.Idle
import EnvTags.Proofs.Expansion.Invariant
import EnvTags.Proofs.Expansion.KeySpace
import EnvTags.Proofs.Expansion.Leaves
import EnvTags.Proofs.Expansion.Omissions
import EnvTags.Proofs.Expansion.PackageScope
import EnvTags.Proofs.Expansion.Prefixes
import EnvTags.Proofs.Expansion.Step
import EnvTags.Proofs.Expansion.Tree
import EnvTags.Proofs.Expansion.VisitedPackage
import EnvTags.Proofs.FileSystem.Alike
import EnvTags.Proofs.FileSystem.Below
import EnvTags.Proofs.FileSystem.Growth
import EnvTags.Proofs.FileSystem.Lookup
import EnvTags.Proofs.FileSystem.Names
import EnvTags.Proofs.FileSystem.Order
import EnvTags.Proofs.FileSystem.Place
import EnvTags.Proofs.FileSystem.View
import EnvTags.Proofs.Go.Extraction
import EnvTags.Proofs.Go.Lexeme
import EnvTags.Proofs.Go.Parser
import EnvTags.Proofs.Go.Phrase
import EnvTags.Proofs.Go.Places
import EnvTags.Proofs.Go.RoundTrip
import EnvTags.Proofs.Go.Written
import EnvTags.Proofs.Go.WrittenFile
import EnvTags.Proofs.Go.WrittenRow
import EnvTags.Proofs.Go.WrittenType
import EnvTags.Proofs.Graph
import EnvTags.Proofs.Graph.Index
import EnvTags.Proofs.ImportBinding
import EnvTags.Proofs.ImportPath
import EnvTags.Proofs.Manifest.Directive
import EnvTags.Proofs.Manifest.Lines
import EnvTags.Proofs.Manifest.ModulePath
import EnvTags.Proofs.Manifest.WrittenPath
import EnvTags.Proofs.Name
import EnvTags.Proofs.Path
import EnvTags.Proofs.Path.Ascent
import EnvTags.Proofs.Project.HiddenFile
import EnvTags.Proofs.Project.Identity
import EnvTags.Proofs.Project.Scan
import EnvTags.Proofs.Project.Selection
import EnvTags.Proofs.Project.SourceFiles
import EnvTags.Proofs.Project.VendorDirectory
import EnvTags.Proofs.Project.Walk
import EnvTags.Proofs.Record
import EnvTags.Proofs.Tag.Bytewise
import EnvTags.Proofs.Tag.Descriptor
import EnvTags.Proofs.Tag.Row
import EnvTags.Proofs.Tag.Writing
import EnvTags.Proofs.Text.Bytewise
import EnvTags.Proofs.Text.Checked
import EnvTags.Proofs.Text.Chunk
import EnvTags.Proofs.Text.Decoding
import EnvTags.Proofs.Text.Encoding
import EnvTags.Proofs.Text.Quoted
import EnvTags.Proofs.Text.Spelling
import EnvTags.Proofs.Text.Split
import EnvTags.Proofs.Text.Trim
import EnvTags.Proofs.TypeRef
import EnvTags.Record
import EnvTags.Tag.Descriptor
import EnvTags.Tag.Pair
import EnvTags.Text.Blank
import EnvTags.Text.Capital
import EnvTags.Text.Chunk
import EnvTags.Text.Digits
import EnvTags.Text.Letter
import EnvTags.Text.Numeral
import EnvTags.Text.Quoted
import EnvTags.Text.Ranges
import EnvTags.Text.Reader
import EnvTags.Text.Shown
import EnvTags.Text.Split
import EnvTags.Text.Visible
import EnvTags.Text.Word
import EnvTags.TypeRef
import EnvTags.Variable
