import PagePress.Artifact.Basic
import PagePress.Artifact.Index
import PagePress.Bytes
import PagePress.CommandLine.Arguments
import PagePress.CommandLine.Run
import PagePress.Datum.Basic
import PagePress.Datum.Equality
import PagePress.Datum.Json
import PagePress.Datum.Json.Printer
import PagePress.Diagnostic.Basic
import PagePress.Diagnostic.LineMap
import PagePress.Diagnostic.Relocation
import PagePress.Disk
import PagePress.Failure
import PagePress.Files.Access
import PagePress.Files.DiskFile
import PagePress.Files.Location
import PagePress.Files.Workspace
import PagePress.Log
import PagePress.Main
import PagePress.Modules.Attribute
import PagePress.Modules.Attribute.Table
import PagePress.Modules.Basic
import PagePress.Modules.Context
import PagePress.Modules.Execution
import PagePress.Modules.Finder
import PagePress.Modules.Import
import PagePress.Modules.Interpreter
import PagePress.Modules.Loading
import PagePress.Modules.Member
import PagePress.Modules.Predefined
import PagePress.Modules.Source
import PagePress.Modules.Value
import PagePress.Name
import PagePress.NameTable
import PagePress.Number.Binary64
import PagePress.Number.Shortest
import PagePress.Options.Basic
import PagePress.Options.Groups
import PagePress.Options.LanguageLevel
import PagePress.PageCompiler
import PagePress.Path
import PagePress.Program.Basic
import PagePress.Program.Expression
import PagePress.Program.FrontEnd
import PagePress.Program.Reader
import PagePress.Program.Token
import PagePress.Proofs.Activity.Sequencing
import PagePress.Proofs.Activity.Steps
import PagePress.Proofs.Artifact.Bench
import PagePress.Proofs.Delegation
import PagePress.Proofs.Files.Listing
import PagePress.Proofs.Files.Paths
import PagePress.Proofs.Files.Tree
import PagePress.Proofs.ImportCheck
import PagePress.Proofs.Importability
import PagePress.Proofs.LastCompiled
import PagePress.Proofs.Modules.Answer
import PagePress.Proofs.Modules.Descent
import PagePress.Proofs.Modules.Finder
import PagePress.Proofs.Modules.Growth
import PagePress.Proofs.NamespaceRoot
import PagePress.Proofs.Naming
import PagePress.Proofs.Options.Demands
import PagePress.Proofs.Options.Groups
import PagePress.Proofs.PageTask.Catalog
import PagePress.Proofs.PageTask.Compilation
import PagePress.Proofs.PageTask.ImportReports
import PagePress.Proofs.PageTask.Imports
import PagePress.Proofs.PageTask.Independence
import PagePress.Proofs.PageTask.Outcome
import PagePress.Proofs.PageTask.Verdict
import PagePress.Proofs.PageTask.Warnings
import PagePress.Proofs.Publication
import PagePress.Proofs.Recompilation
import PagePress.Proofs.Relocation
import PagePress.Proofs.Repacking
import PagePress.Proofs.ReservedListing
import PagePress.Proofs.Session
import PagePress.Proofs.SharedSessions
import PagePress.Proofs.Store.Consistency
import PagePress.Proofs.Store.History
import PagePress.Proofs.Store.Insertion
import PagePress.Proofs.SyntaxTree
import PagePress.Proofs.Text.Integer
import PagePress.Proofs.Unforeseen
import PagePress.Proofs.Validation
import PagePress.Service.Activity
import PagePress.Service.Basic
import PagePress.Service.CodeFile
import PagePress.Service.FrontEnd
import PagePress.Service.PageTask
import PagePress.Service.Scripted
import PagePress.Service.SyntaxTree
import PagePress.Settings.Basic
import PagePress.Settings.Checked
import PagePress.Settings.Compiler
import PagePress.Settings.Environment
import PagePress.Settings.FieldRules
import PagePress.Settings.File
import PagePress.Settings.Lax
import PagePress.SourceUnit
import PagePress.Store.Basic
import PagePress.Store.Clock
import PagePress.Text.Blank
import PagePress.Text.CharacterName
import PagePress.Text.CharacterName.Table
import PagePress.Text.Codec
import PagePress.Text.Encoding
import PagePress.Text.Encoding.Names
import PagePress.Text.Encoding.Standard
import PagePress.Text.Encoding.Table
import PagePress.Text.Decode
import PagePress.Text.Digit
import PagePress.Text.Encode
import PagePress.Text.Escape
import PagePress.Text.Integer
import PagePress.Text.Lines
import PagePress.Text.Normal
import PagePress.Text.Normal.Entry
import PagePress.Text.Normal.Table
import PagePress.Text.Printable
import PagePress.Text.Quoted
import PagePress.Text.Split
import PagePress.Text.Uppercase
import PagePress.Proofs.Preparation
import PagePress.Proofs.Files.Rows
import PagePress.Proofs.PackageListing
import PagePress.Proofs.ListedReading
import PagePress.Proofs.Files.UnitPath
import PagePress.Proofs.Files.Writing
import PagePress.Proofs.DiskOutput
import PagePress.Proofs.Store.Batch
import PagePress.Proofs.Store.Dates
import PagePress.Proofs.Store.RecursiveListing
import PagePress.Proofs.PayloadCommit
import PagePress.Proofs.LineMap.Calls
import PagePress.Proofs.LineMap.OneBased
import PagePress.Proofs.Activity.Framing
import PagePress.Proofs.PageTask.Accumulation
import PagePress.Proofs.Modules.Lasting
import PagePress.Proofs.Modules.Noting
import PagePress.Proofs.Lifecycle
import PagePress.Proofs.Settings.Defects
import PagePress.Proofs.Settings.Namespace
import PagePress.Proofs.Text.Blank
import PagePress.Proofs.Modules.Loads
import PagePress.Proofs.LoadedModules
import PagePress.Proofs.CommandLine.Configured
import PagePress.Proofs.CommandLine.Texts
import PagePress.Proofs.CommandLine.Inputs
import PagePress.Proofs.CommandLine.Compiling
import PagePress.Proofs.CommandLine.Ending
import PagePress.Proofs.CommandLine.Report
import PagePress.Proofs.Settings.Level
import PagePress.Proofs.Settings.Compiler
import PagePress.Proofs.Settings.LevelUse
import PagePress.Proofs.Settings.Override
