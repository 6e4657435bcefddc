import TypeExport.Annotation.Argument
import TypeExport.Annotation.Evaluate
import TypeExport.Annotation.Failure
import TypeExport.Annotation.Forward
import TypeExport.Annotation.Hint
import TypeExport.Annotation.Layers
import TypeExport.Annotation.ShapeOf
import TypeExport.Annotation.Subscript
import TypeExport.Class.Bases
import TypeExport.Class.Body
import TypeExport.Class.Definition
import TypeExport.Class.Enumeration
import TypeExport.Class.Hints
import TypeExport.Class.Linearization
import TypeExport.Class.Mapped
import TypeExport.Class.Record
import TypeExport.Class.Relations
import TypeExport.Class.Standard
import TypeExport.Class.StandardNames
import TypeExport.Class.StandardTable
import TypeExport.Class.Validated
import TypeExport.Class.World
import TypeExport.Command.Line
import TypeExport.Command.Perform
import TypeExport.Config.Basic
import TypeExport.Config.Comments
import TypeExport.Config.Document
import TypeExport.Config.Load
import TypeExport.Config.Review
import TypeExport.Config.Schema
import TypeExport.Config.Settings
import TypeExport.Config.Written
import TypeExport.Declaration.Basic
import TypeExport.Declaration.Draft
import TypeExport.Declaration.Render
import TypeExport.Descriptor.Basic
import TypeExport.Descriptor.Explicit
import TypeExport.Descriptor.Resolution
import TypeExport.Descriptor.Unseen
import TypeExport.File.Environment
import TypeExport.File.Listing
import TypeExport.File.Path
import TypeExport.File.Tree
import TypeExport.File.Write
import TypeExport.Generation.Basic
import TypeExport.Generation.Clash
import TypeExport.Generation.Files
import TypeExport.Json.Basic
import TypeExport.Json.Reader
import TypeExport.Json.Writer
import TypeExport.Keyed
import TypeExport.Log.Basic
import TypeExport.Lookup.Connection
import TypeExport.Lookup.EnumFiles
import TypeExport.Lookup.EnumModule
import TypeExport.Name.Case
import TypeExport.Name.Keyword
import TypeExport.Name.Member
import TypeExport.Name.Private
import TypeExport.Number.Double
import TypeExport.Number.Numeral
import TypeExport.Number.Shortest
import TypeExport.Policy
import TypeExport.Primitive.StandardModule
import TypeExport.Primitive.Table
import TypeExport.Proofs.File.Frame
import TypeExport.Proofs.File.PlainName
import TypeExport.Proofs.File.Sequence
import TypeExport.Proofs.Generation.Survival
import TypeExport.Proofs.Generation.Writes
import TypeExport.Proofs.Name.AsciiWord
import TypeExport.Proofs.Name.UniqueMembers
import TypeExport.Proofs.Source.Digits
import TypeExport.Proofs.Source.Tokens
import TypeExport.Proofs.Text.Literal
import TypeExport.Proofs.Translation.Agreement
import TypeExport.Proofs.Translation.Closure
import TypeExport.Proofs.Translation.TargetNames
import TypeExport.Proofs.Translation.Reference
import TypeExport.Run.Summary
import TypeExport.Run.Workflow
import TypeExport.Scan.Catalog
import TypeExport.Scan.Description
import TypeExport.Scan.Discovery
import TypeExport.Scan.Import
import TypeExport.Scan.Importer
import TypeExport.Scan.Library
import TypeExport.Scan.Loading
import TypeExport.Scan.ModuleBody
import TypeExport.Scan.Reference
import TypeExport.Scan.Session
import TypeExport.Scan.Target
import TypeExport.Scan.Universe
import TypeExport.Source.Content
import TypeExport.Source.Expr
import TypeExport.Source.Module
import TypeExport.Source.ModuleText
import TypeExport.Source.Printer
import TypeExport.Source.Reader
import TypeExport.Source.TextLiteral
import TypeExport.Source.Token
import TypeExport.Sql.Affinity
import TypeExport.Sql.Database
import TypeExport.Sql.Identifier
import TypeExport.Sql.Selection
import TypeExport.Sql.Token
import TypeExport.Text.Case
import TypeExport.Text.Case.Table
import TypeExport.Text.Classes
import TypeExport.Text.CodeText
import TypeExport.Text.Digest
import TypeExport.Text.Split
import TypeExport.Text.Property
import TypeExport.Text.Quoted
import TypeExport.Text.Utf8
import TypeExport.Url.Address
import TypeExport.Url.Masked
import TypeExport.Url.Percent
import TypeExport.Value.Basic
import TypeExport.Main
import TypeExport.Proofs.Action
import TypeExport.Proofs.Class.EnumDefinition
import TypeExport.Proofs.File.Making
import TypeExport.Proofs.Lookup.EnumFiles
import TypeExport.Proofs.Scan.WrittenEnums
import TypeExport.Proofs.Translation.FirstFailure
import TypeExport.Proofs.Translation.Rearrangement
import TypeExport.Proofs.Generation.RootOrder
import TypeExport.Proofs.Lookup.SharedFiles
import TypeExport.Proofs.File.Effect
import TypeExport.Proofs.Scan.EnumClasses
import TypeExport.Proofs.Scan.OneTarget
import TypeExport.Proofs.Scan.Requests
import TypeExport.Proofs.Scan.FirstIndex
import TypeExport.Proofs.Scan.Discovery
import TypeExport.Proofs.Scan.Growth
import TypeExport.Proofs.Generation.Enumerations
import TypeExport.Proofs.Run.TargetEnums
import TypeExport.Proofs.Run.EnumTrees
import TypeExport.Proofs.Run.EnumRun
import TypeExport.Proofs.Lookup.Description
import TypeExport.Proofs.Run.FailingRun
import TypeExport.Proofs.Run.DiscoveredRoots
import TypeExport.Proofs.Class.Hints
import TypeExport.Proofs.Declaration.Outline
import TypeExport.Proofs.Scan.LoadHistory
import TypeExport.Proofs.Config.LoadFailures
import TypeExport.Proofs.Config.Accepted
import TypeExport.Proofs.Run.BlankDirectory
import TypeExport.Proofs.Run.OutputDirectories
import TypeExport.Proofs.Lookup.ShownAddress
import TypeExport.Proofs.Translation.Evaluation
import TypeExport.Proofs.Scan.BrokenFile
import TypeExport.Proofs.Text.UpperCase
import TypeExport.Proofs.Name.LegalNames
import TypeExport.Proofs.Config.CommentSearch
import TypeExport.Proofs.Json.Lexing
import TypeExport.Proofs.Config.CommentFree
import TypeExport.Proofs.Config.Admitted
import TypeExport.Proofs.Declaration.Keys
import TypeExport.Proofs.Sql.QueryNames
import TypeExport.Proofs.TypeText.Structure
import TypeExport.Proofs.Text.LowerCase
import TypeExport.Proofs.Generation.Manifests
import TypeExport.Proofs.File.FailedWrites
import TypeExport.Proofs.Generation.FailingRoots
import TypeExport.Proofs.Class.PlainProperties
import TypeExport.Proofs.Config.Usable
import TypeExport.Proofs.Name.SnakeCase
import TypeExport.Proofs.Class.LayerStacks
import TypeExport.Proofs.Scan.ModuleRegister
import TypeExport.Proofs.Scan.SameStems
