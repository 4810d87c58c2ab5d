import WatchfaceCheck.Bridge
import WatchfaceCheck.Bridge.Script
import WatchfaceCheck.Check
import WatchfaceCheck.CheckError
import WatchfaceCheck.CommandLine
import WatchfaceCheck.CommandLine.Item
import WatchfaceCheck.CommandLine.Word
import WatchfaceCheck.CompilerOptions
import WatchfaceCheck.Config
import WatchfaceCheck.Diagnostic
import WatchfaceCheck.Dictionary
import WatchfaceCheck.Elapsed
import WatchfaceCheck.FileTree
import WatchfaceCheck.Files
import WatchfaceCheck.Host
import WatchfaceCheck.Json.Document
import WatchfaceCheck.Json.Number
import WatchfaceCheck.Json.Plain
import WatchfaceCheck.Json.Printer
import WatchfaceCheck.Json.Record
import WatchfaceCheck.Json.Token
import WatchfaceCheck.Json.Value
import WatchfaceCheck.LineIndex
import WatchfaceCheck.Located
import WatchfaceCheck.Log
import WatchfaceCheck.Main
import WatchfaceCheck.NameMap
import WatchfaceCheck.PackageManager
import WatchfaceCheck.Palette
import WatchfaceCheck.Path
import WatchfaceCheck.Proofs.Annotation.Again
import WatchfaceCheck.Proofs.Annotation.Decomposition
import WatchfaceCheck.Proofs.Annotation.Grammar
import WatchfaceCheck.Proofs.Annotation.Lines
import WatchfaceCheck.Proofs.Appearance
import WatchfaceCheck.Proofs.Building
import WatchfaceCheck.Proofs.ChainBound
import WatchfaceCheck.Proofs.Collecting
import WatchfaceCheck.Proofs.Coloring
import WatchfaceCheck.Proofs.Course
import WatchfaceCheck.Proofs.Dictionary
import WatchfaceCheck.Proofs.Excerpts
import WatchfaceCheck.Proofs.ExitStatus
import WatchfaceCheck.Proofs.Findings
import WatchfaceCheck.Proofs.LinePlaces
import WatchfaceCheck.Proofs.LineTables
import WatchfaceCheck.Proofs.LineTexts
import WatchfaceCheck.Proofs.MoreFindings
import WatchfaceCheck.Proofs.Paths
import WatchfaceCheck.Proofs.PlainReport
import WatchfaceCheck.Proofs.Positions
import WatchfaceCheck.Proofs.Report
import WatchfaceCheck.Proofs.Severity
import WatchfaceCheck.Proofs.Staging.Configuration
import WatchfaceCheck.Proofs.Staging.Contents
import WatchfaceCheck.Proofs.Staging.Errors
import WatchfaceCheck.Proofs.Staging.Examination
import WatchfaceCheck.Proofs.Staging.Names
import WatchfaceCheck.Proofs.Staging.Preservation
import WatchfaceCheck.Proofs.Stubs
import WatchfaceCheck.Proofs.Suppression
import WatchfaceCheck.Proofs.Verdict
import WatchfaceCheck.Report
import WatchfaceCheck.Run
import WatchfaceCheck.Run.Log
import WatchfaceCheck.Settings
import WatchfaceCheck.Severity
import WatchfaceCheck.Snapshot
import WatchfaceCheck.Snapshot.Reader
import WatchfaceCheck.Text.Blank
import WatchfaceCheck.Text.Escape
import WatchfaceCheck.Text.Faint
import WatchfaceCheck.Text.Search
import WatchfaceCheck.Text.Split
import WatchfaceCheck.Text.Units
import WatchfaceCheck.Text.Utf8
import WatchfaceCheck.Text.WordChar
import WatchfaceCheck.Toolchain
import WatchfaceCheck.TypeComment
import WatchfaceCheck.Verdict
import WatchfaceCheck.Workspace
import WatchfaceCheck.Workspace.Declarations
import WatchfaceCheck.Proofs.Json.Grammar
import WatchfaceCheck.Proofs.Json.Lexing
import WatchfaceCheck.Proofs.Json.Reading
import WatchfaceCheck.Proofs.Json.Records
import WatchfaceCheck.Proofs.SnapshotFormat
import WatchfaceCheck.Proofs.Json.Printing
import WatchfaceCheck.Proofs.Json.Told
import WatchfaceCheck.Proofs.WholeAnswer
import WatchfaceCheck.Proofs.Ancestors
import WatchfaceCheck.Proofs.Discovery
import WatchfaceCheck.Proofs.Json.Cutting
import WatchfaceCheck.Proofs.Json.Accepting
import WatchfaceCheck.Proofs.Json.Recorded
import WatchfaceCheck.Proofs.ConfigFile
import WatchfaceCheck.Proofs.FileSystem
import WatchfaceCheck.Proofs.Settings
