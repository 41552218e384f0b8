import ResourcePack.Assembly
import ResourcePack.Bundle
import ResourcePack.CommandLine.Help
import ResourcePack.CommandLine.Invocation
import ResourcePack.CommandLine.Parse
import ResourcePack.Config
import ResourcePack.Config.Decode
import ResourcePack.Config.Json
import ResourcePack.Config.Load
import ResourcePack.Decimal
import ResourcePack.Directory
import ResourcePack.Double
import ResourcePack.Double.Shortest
import ResourcePack.Error
import ResourcePack.Generation
import ResourcePack.Header
import ResourcePack.Identifier
import ResourcePack.Json
import ResourcePack.Log.Directive
import ResourcePack.Log.Event
import ResourcePack.Log.Filter
import ResourcePack.Log.Line
import ResourcePack.Log.Logger
import ResourcePack.Log.Stamp
import ResourcePack.Main
import ResourcePack.Path
import ResourcePack.Program
import ResourcePack.Report
import ResourcePack.Report.Table
import ResourcePack.Resolution
import ResourcePack.Settings.Environment
import ResourcePack.Settings.KeyPath
import ResourcePack.Settings.Value
import ResourcePack.Store
import ResourcePack.Store.Access
import ResourcePack.Store.Lookup
import ResourcePack.Text.Alphanumeric
import ResourcePack.Text.Blank
import ResourcePack.Text.Cased
import ResourcePack.Text.Columns
import ResourcePack.Text.Combining
import ResourcePack.Text.Lines
import ResourcePack.Text.LowerCase
import ResourcePack.Text.Printable
import ResourcePack.Text.Quoted
import ResourcePack.Text.Ranges
import ResourcePack.Toml.Document
import ResourcePack.Toml.Quoted
import ResourcePack.Toml.Scalar
import ResourcePack.Toml.Table
import ResourcePack.Transcript
import ResourcePack.Workspace
import ResourcePack.Proofs.Bundle.History
import ResourcePack.Proofs.Bundle.Acceptance
import ResourcePack.Proofs.Assembly.Symbols
import ResourcePack.Proofs.Header.Symbols
import ResourcePack.Proofs.Generation.Symbols
import ResourcePack.Proofs.Header.References
import ResourcePack.Proofs.Header.Reordered
import ResourcePack.Proofs.Generation.Policies
import ResourcePack.Proofs.Generation.Outputs
import ResourcePack.Proofs.Generation.Failures
import ResourcePack.Proofs.Store.Rewriting
import ResourcePack.Proofs.Generation.Repetition
import ResourcePack.Proofs.Header.ClassNames
import ResourcePack.Proofs.Config.Sources
import ResourcePack.Proofs.Directory.History
import ResourcePack.Proofs.Identifier.Escapes
import ResourcePack.Proofs.Assembly.Reader
import ResourcePack.Proofs.Header.Guard
import ResourcePack.Proofs.Bundle.Duplicates
import ResourcePack.Proofs.Path.Normal
import ResourcePack.Proofs.Settings.Scalars
import ResourcePack.Proofs.CommandLine.RoundTrip
import ResourcePack.Proofs.Log.File
import ResourcePack.Proofs.Config.Variables
import ResourcePack.Proofs.Generation.Siblings
import ResourcePack.Proofs.Config.Defaults
import ResourcePack.Proofs.Report.Json
