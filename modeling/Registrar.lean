import Registrar.Command
import Registrar.CommandLine
import Registrar.Config
import Registrar.Config.Load
import Registrar.Decl
import Registrar.Deprecation
import Registrar.Dialect
import Registrar.Discover
import Registrar.Document
import Registrar.Document.Code
import Registrar.Document.Format
import Registrar.Document.Json
import Registrar.Fault
import Registrar.FileError
import Registrar.FileTree
import Registrar.FileTree.Path
import Registrar.Generator
import Registrar.Go.Comment
import Registrar.Go.Directory
import Registrar.Go.Grammar
import Registrar.Go.Listing
import Registrar.Go.Literal
import Registrar.Go.Node
import Registrar.Go.ParseError
import Registrar.Go.Reader
import Registrar.Go.Rule
import Registrar.Go.Source
import Registrar.Go.Token
import Registrar.Host
import Registrar.Journal
import Registrar.Main
import Registrar.NameMap
import Registrar.Package
import Registrar.PackageEntry
import Registrar.Places
import Registrar.Proofs.Acceptance
import Registrar.Proofs.Accumulation
import Registrar.Proofs.Agreement
import Registrar.Proofs.Attributes
import Registrar.Proofs.ByteOrder
import Registrar.Proofs.CodeReading
import Registrar.Proofs.CommentText
import Registrar.Proofs.ConfigReading
import Registrar.Proofs.ConfigShape
import Registrar.Proofs.ConfigWriting
import Registrar.Proofs.Declarations
import Registrar.Proofs.Decoding
import Registrar.Proofs.DeprecationMarks
import Registrar.Proofs.Dialect
import Registrar.Proofs.DialectSettings
import Registrar.Proofs.Discovery
import Registrar.Proofs.DocComment
import Registrar.Proofs.DocGroup
import Registrar.Proofs.DocPlaces
import Registrar.Proofs.Document
import Registrar.Proofs.EarlyStop
import Registrar.Proofs.Entry
import Registrar.Proofs.Exactness
import Registrar.Proofs.Except
import Registrar.Proofs.Failure
import Registrar.Proofs.FirstChoice
import Registrar.Proofs.FirstFault
import Registrar.Proofs.FunctionNames
import Registrar.Proofs.Gathering
import Registrar.Proofs.Identifiers
import Registrar.Proofs.Interference
import Registrar.Proofs.Isolation
import Registrar.Proofs.JsonDocument
import Registrar.Proofs.JsonReading
import Registrar.Proofs.JsonString
import Registrar.Proofs.LastFile
import Registrar.Proofs.Layout
import Registrar.Proofs.LineEndings
import Registrar.Proofs.Lines
import Registrar.Proofs.Lookup
import Registrar.Proofs.MessageLine
import Registrar.Proofs.NameMap
import Registrar.Proofs.NormalText
import Registrar.Proofs.NullSettings
import Registrar.Proofs.OutputFiles
import Registrar.Proofs.Path
import Registrar.Proofs.PathLiteral
import Registrar.Proofs.Plans
import Registrar.Proofs.Registration
import Registrar.Proofs.Rejection
import Registrar.Proofs.Reruns
import Registrar.Proofs.Setting
import Registrar.Proofs.SourceDirectory
import Registrar.Proofs.SourceTree
import Registrar.Proofs.Substitution
import Registrar.Proofs.Survivors
import Registrar.Proofs.SymbolLine
import Registrar.Proofs.SymbolOrder
import Registrar.Proofs.Undisturbed
import Registrar.Proofs.ValueKeys
import Registrar.Proofs.Visits
import Registrar.Proofs.Walk
import Registrar.Proofs.Writing
import Registrar.Proofs.YamlValue
import Registrar.Registry
import Registrar.Registry.Session
import Registrar.Strategy
import Registrar.SymbolSet
import Registrar.SymbolSet.Edit
import Registrar.Text.Base64
import Registrar.Text.Blank
import Registrar.Text.CodePoints
import Registrar.Text.Decimal
import Registrar.Text.Identifier
import Registrar.Text.Json
import Registrar.Text.Lines
import Registrar.Text.Pattern
import Registrar.Text.Printable
import Registrar.Text.Quoted
import Registrar.Text.Template
import Registrar.Text.Uppercase
import Registrar.Text.Utf8
import Registrar.Yaml.Cursor
import Registrar.Yaml.Date
import Registrar.Yaml.Fault
import Registrar.Yaml.Layout
import Registrar.Yaml.Node
import Registrar.Yaml.Number
import Registrar.Yaml.Scalar
import Registrar.Yaml.Tag
import Registrar.Yaml.Token
import Registrar.Yaml.Value
