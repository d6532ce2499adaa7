import ApiBindings.CommandLine.Arguments
import ApiBindings.CommandLine.Run
import ApiBindings.Configuration.Check
import ApiBindings.Configuration.Checked
import ApiBindings.Configuration.Document
import ApiBindings.Configuration.Environment
import ApiBindings.Configuration.Find
import ApiBindings.Configuration.Issue
import ApiBindings.Configuration.Value
import ApiBindings.Console.Markup
import ApiBindings.Console.Table
import ApiBindings.Console.Wrap
import ApiBindings.Declaration.Basic
import ApiBindings.Declaration.Builder
import ApiBindings.Declaration.EnumText
import ApiBindings.Digest.Sha256
import ApiBindings.Document.Display
import ApiBindings.Document.Misfit
import ApiBindings.Document.Moment
import ApiBindings.Document.Node
import ApiBindings.Emission.Context
import ApiBindings.Emission.Output
import ApiBindings.Emission.Plan
import ApiBindings.Emission.Render
import ApiBindings.Emission.Template
import ApiBindings.Emission.View
import ApiBindings.Failure
import ApiBindings.File.Name
import ApiBindings.File.Tree
import ApiBindings.Generation
import ApiBindings.Json.Reader
import ApiBindings.Json.Writer
import ApiBindings.Main
import ApiBindings.Name.Namer
import ApiBindings.Name.Registry
import ApiBindings.Name.SharedSegments
import ApiBindings.Name.Spelling
import ApiBindings.Name.TypeName
import ApiBindings.Noted
import ApiBindings.Number.Binary64
import ApiBindings.Operation
import ApiBindings.Proofs.Configuration.Expansion
import ApiBindings.Proofs.Configuration.Lookup
import ApiBindings.Proofs.Configuration.Unread
import ApiBindings.Proofs.Declaration.Composition
import ApiBindings.Proofs.Declaration.Duplicates
import ApiBindings.Proofs.Declaration.EnumBody
import ApiBindings.Proofs.Declaration.Listing
import ApiBindings.Proofs.Declaration.LiteralUnion
import ApiBindings.Proofs.Declaration.Parameters
import ApiBindings.Proofs.Declaration.Properties
import ApiBindings.Proofs.Declaration.Readable
import ApiBindings.Proofs.Declaration.Reading
import ApiBindings.Proofs.Declaration.References
import ApiBindings.Proofs.Declaration.Reordering
import ApiBindings.Proofs.Declaration.Run
import ApiBindings.Proofs.Document.Members
import ApiBindings.Proofs.Document.Reordering
import ApiBindings.Proofs.Emission.Abandoned
import ApiBindings.Proofs.Emission.Comments
import ApiBindings.Proofs.Emission.Indent
import ApiBindings.Proofs.Emission.Kept
import ApiBindings.Proofs.Emission.Mirrored
import ApiBindings.Proofs.Emission.Paths
import ApiBindings.Proofs.Emission.Untouched
import ApiBindings.Proofs.Emission.Written
import ApiBindings.Proofs.FailureKinds
import ApiBindings.Proofs.File.Directories
import ApiBindings.Proofs.File.Name
import ApiBindings.Proofs.File.Places
import ApiBindings.Proofs.File.Store
import ApiBindings.Proofs.Generation
import ApiBindings.Proofs.Name.FunctionName
import ApiBindings.Proofs.Name.Identifier
import ApiBindings.Proofs.Name.LeadingSegments
import ApiBindings.Proofs.Name.Numbering
import ApiBindings.Proofs.Name.PathName
import ApiBindings.Proofs.Name.Reading
import ApiBindings.Proofs.Name.ReservedWord
import ApiBindings.Proofs.Name.Settled
import ApiBindings.Proofs.Name.SharedSegments
import ApiBindings.Proofs.Name.TypeName
import ApiBindings.Proofs.Outcome
import ApiBindings.Proofs.Reference.Chain
import ApiBindings.Proofs.Reference.Escape
import ApiBindings.Proofs.Reference.Followed
import ApiBindings.Proofs.Reference.Growth
import ApiBindings.Proofs.Reference.Named
import ApiBindings.Proofs.Reference.Places
import ApiBindings.Proofs.Reference.Position
import ApiBindings.Proofs.Reference.Reordering
import ApiBindings.Proofs.Reference.Written
import ApiBindings.Proofs.Reporting
import ApiBindings.Proofs.Schema.Describable
import ApiBindings.Proofs.Schema.Literals
import ApiBindings.Proofs.Schema.Shapes
import ApiBindings.Proofs.Schema.Stopped
import ApiBindings.Proofs.Schema.Textless
import ApiBindings.Proofs.Schema.Unions
import ApiBindings.Proofs.Service.Aliases
import ApiBindings.Proofs.Service.Arguments
import ApiBindings.Proofs.Service.Built
import ApiBindings.Proofs.Service.Consulted
import ApiBindings.Proofs.Service.Entry
import ApiBindings.Proofs.Service.FiledOnce
import ApiBindings.Proofs.Service.Filing
import ApiBindings.Proofs.Service.FormFields
import ApiBindings.Proofs.Service.FunctionNames
import ApiBindings.Proofs.Service.Grouping
import ApiBindings.Proofs.Service.Growth.Reading
import ApiBindings.Proofs.Service.Growth.Run
import ApiBindings.Proofs.Service.Growth.Uploads
import ApiBindings.Proofs.Service.LegalNames
import ApiBindings.Proofs.Service.Listed
import ApiBindings.Proofs.Service.Neutral
import ApiBindings.Proofs.Service.ParameterGroups
import ApiBindings.Proofs.Service.Parameters
import ApiBindings.Proofs.Service.Prefix
import ApiBindings.Proofs.Service.Run
import ApiBindings.Proofs.Service.Session
import ApiBindings.Proofs.Service.Template
import ApiBindings.Proofs.Service.Unbuilt
import ApiBindings.Proofs.Service.UploadOrder
import ApiBindings.Proofs.Service.UploadSearch
import ApiBindings.Proofs.Service.Wanted
import ApiBindings.Proofs.Sorting
import ApiBindings.Proofs.Source.Loaded
import ApiBindings.Proofs.Text.Camel
import ApiBindings.Proofs.Text.Comment
import ApiBindings.Proofs.Text.Erasing
import ApiBindings.Proofs.Text.Joined
import ApiBindings.Proofs.Text.Letter
import ApiBindings.Proofs.Text.Pieces
import ApiBindings.Proofs.Text.Romanization
import ApiBindings.Proofs.Text.StringLiteral
import ApiBindings.Proofs.Yaml.Sharing
import ApiBindings.Reference.Pointer
import ApiBindings.Reference.Resolution
import ApiBindings.Schema.Describe
import ApiBindings.Schema.Kind
import ApiBindings.Schema.TypeDescriptor
import ApiBindings.Service.Body
import ApiBindings.Service.Entry
import ApiBindings.Service.Group
import ApiBindings.Service.Parameter
import ApiBindings.Service.Path
import ApiBindings.Service.Session
import ApiBindings.Settings
import ApiBindings.Source.Load
import ApiBindings.Source.Response
import ApiBindings.Source.Url
import ApiBindings.Text.Class
import ApiBindings.Text.CodePoint
import ApiBindings.Text.Letter
import ApiBindings.Text.Pieces
import ApiBindings.Text.Punycode
import ApiBindings.Text.Quoted
import ApiBindings.Text.Romanization
import ApiBindings.Text.Table.Accent
import ApiBindings.Text.Table.Case
import ApiBindings.Text.Table.Class
import ApiBindings.Text.Table.Width
import ApiBindings.Text.Utf8
import ApiBindings.Text.Width
import ApiBindings.Toml.Number
import ApiBindings.Toml.Table
import ApiBindings.Toml.Text
import ApiBindings.Toml.Value
import ApiBindings.Yaml.Cursor
import ApiBindings.Yaml.Properties
import ApiBindings.Yaml.ScalarText
import ApiBindings.Yaml.Scan
import ApiBindings.Yaml.Tag
import ApiBindings.Yaml.Token
import ApiBindings.Yaml.Tree
import ApiBindings.Yaml.Value
