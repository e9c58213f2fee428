import WikiStream.Attributes
import WikiStream.Block
import WikiStream.Cli.Convert
import WikiStream.Cli.Folder
import WikiStream.Cli.Program
import WikiStream.Cli.Request
import WikiStream.Conversion
import WikiStream.Converter
import WikiStream.Dict
import WikiStream.Event
import WikiStream.Event.Json
import WikiStream.Event.Trace
import WikiStream.Inline
import WikiStream.Json.Fields
import WikiStream.Json.Lexical
import WikiStream.Json.Reader
import WikiStream.Json.Stream
import WikiStream.Json.Writer
import WikiStream.Listener
import WikiStream.Macro
import WikiStream.Main
import WikiStream.Media
import WikiStream.Namespace
import WikiStream.NumberMap
import WikiStream.Options
import WikiStream.Options.Json
import WikiStream.OutputFormat
import WikiStream.Plan
import WikiStream.Proofs.Rendering
import WikiStream.Reference
import WikiStream.Reference.Json
import WikiStream.Reference.Resolver
import WikiStream.Rule
import WikiStream.Settings
import WikiStream.Settings.Value
import WikiStream.Settings.Path
import WikiStream.Text.Binary64
import WikiStream.Text.Blank
import WikiStream.Text.Case
import WikiStream.Text.CaseTable
import WikiStream.Text.CasedTable
import WikiStream.Text.Normal
import WikiStream.Text.HiddenTable
import WikiStream.Text.Numeral
import WikiStream.Token
import WikiStream.Token.Cleanup
import WikiStream.Token.Reader
import WikiStream.Token.Trim
import WikiStream.Token.Writer
import WikiStream.Toml.Document
import WikiStream.Toml.Lexical
import WikiStream.Toml.Moment
import WikiStream.Toml.Reader
import WikiStream.Toml.Scalar
import WikiStream.Toml.Value
import WikiStream.Proofs.Trimming
import WikiStream.Proofs.Traversal
import WikiStream.Proofs.Levels
import WikiStream.Proofs.Portions
import WikiStream.Proofs.Trail
import WikiStream.Proofs.Siblings
import WikiStream.Proofs.Locality
import WikiStream.Proofs.Unknown
import WikiStream.Proofs.Texts
import WikiStream.Proofs.Refusals
import WikiStream.Proofs.Nesting
import WikiStream.Proofs.Congruence
import WikiStream.Proofs.Ceiling
import WikiStream.Proofs.OpenConstructs
import WikiStream.Proofs.Hoisting
import WikiStream.Proofs.Tags
import WikiStream.Proofs.Conservation
import WikiStream.Proofs.Json.Outcome
import WikiStream.Proofs.Json.Grammar
import WikiStream.Proofs.Json.Words
import WikiStream.Proofs.Json.Reading
import WikiStream.Proofs.Json.Meaning
import WikiStream.Proofs.Json.Record
import WikiStream.Proofs.Token.Description
import WikiStream.Proofs.Token.Values
import WikiStream.Proofs.Token.Writing
import WikiStream.Proofs.Token.Reading
import WikiStream.Proofs.Skeleton
import WikiStream.Proofs.Cleanup
import WikiStream.Proofs.Listing
import WikiStream.Proofs.Json.Indented
import WikiStream.Proofs.Event.Reading
import WikiStream.Proofs.Namespaces
import WikiStream.Proofs.Aliases
import WikiStream.Proofs.Attributes.Reading
import WikiStream.Proofs.Attributes.History
import WikiStream.Proofs.Bodies
import WikiStream.Proofs.Registration
import WikiStream.Proofs.Cli.Delivery
import WikiStream.Proofs.Entities
import WikiStream.Proofs.Settings.Layers
import WikiStream.Proofs.Settings.Precedence
import WikiStream.Proofs.Normalization
import WikiStream.Proofs.OpenItem
import WikiStream.Proofs.FirstFault
import WikiStream.Proofs.Indentation
import WikiStream.Proofs.OwnItems
import WikiStream.Proofs.Tables
import WikiStream.Proofs.Reference.Targets
import WikiStream.Proofs.Gallery
import WikiStream.Proofs.Parameters
import WikiStream.Proofs.Tokenizing
import WikiStream.Proofs.Reference.Anchors
import WikiStream.Proofs.Capitals
import WikiStream.Proofs.Reference.Titles
import WikiStream.Proofs.Json.Numbers
import WikiStream.Proofs.Json.Written
import WikiStream.Proofs.Defaults
