import Toolsmith.Api.Auth
import Toolsmith.Api.Endpoint
import Toolsmith.Api.Outcome
import Toolsmith.Api.Server
import Toolsmith.Backend.Client
import Toolsmith.Backend.Message
import Toolsmith.Backend.Provider
import Toolsmith.Call.ContentType
import Toolsmith.Call.Engine
import Toolsmith.Call.Lookup
import Toolsmith.Call.Response
import Toolsmith.Chat.Conversation
import Toolsmith.Chat.Dialogue
import Toolsmith.Chat.Prompt
import Toolsmith.Chat.Reply
import Toolsmith.Chat.Verdict
import Toolsmith.Command.Call
import Toolsmith.Command.Generate
import Toolsmith.Command.Host
import Toolsmith.Command.Inspect
import Toolsmith.Command.Load
import Toolsmith.Command.Mistake
import Toolsmith.Command.Pairs
import Toolsmith.Command.Reading
import Toolsmith.Command.Session
import Toolsmith.Command.Signature
import Toolsmith.Command.Start
import Toolsmith.Document.Basic
import Toolsmith.Document.Catalog
import Toolsmith.Document.Parameters
import Toolsmith.Document.Server
import Toolsmith.Encoding.Base64
import Toolsmith.Encoding.Charset
import Toolsmith.Encoding.CharsetName
import Toolsmith.Encoding.Codepage
import Toolsmith.Encoding.CodepageTable
import Toolsmith.Encoding.Escaped
import Toolsmith.Encoding.Hz
import Toolsmith.Encoding.Iso2022
import Toolsmith.Encoding.Multibyte
import Toolsmith.Encoding.Percent
import Toolsmith.Encoding.Punycode
import Toolsmith.Encoding.Set.Big5
import Toolsmith.Encoding.Set.Gb2312
import Toolsmith.Encoding.Set.Hkscs
import Toolsmith.Encoding.Set.JisX0208
import Toolsmith.Encoding.Set.JisX0212
import Toolsmith.Encoding.Set.JisX0213
import Toolsmith.Encoding.Set.KsX1001
import Toolsmith.Encoding.SystemText
import Toolsmith.Encoding.Units
import Toolsmith.Encoding.Utf7
import Toolsmith.Encoding.Utf8
import Toolsmith.Failure
import Toolsmith.Generate.Check
import Toolsmith.Generate.Comment
import Toolsmith.Generate.JavaScript
import Toolsmith.Generate.Package
import Toolsmith.Generate.Python
import Toolsmith.Generate.Tool
import Toolsmith.Json.Reader
import Toolsmith.Json.Writer
import Toolsmith.Log
import Toolsmith.Main
import Toolsmith.Naming
import Toolsmith.Number.Binary64
import Toolsmith.Number.Layout
import Toolsmith.Number.Read
import Toolsmith.Number.Shortest
import Toolsmith.Script.Calls
import Toolsmith.Script.Grammar.Expression
import Toolsmith.Script.Grammar.Mistake
import Toolsmith.Script.Grammar.Statement
import Toolsmith.Script.Literal
import Toolsmith.Script.Reader
import Toolsmith.Script.Rule
import Toolsmith.Script.Token
import Toolsmith.Script.Tree
import Toolsmith.Settings
import Toolsmith.Shape
import Toolsmith.Text.Case
import Toolsmith.Text.CaseTable
import Toolsmith.Text.Class
import Toolsmith.Text.CodeTable
import Toolsmith.Text.IdentifierTable
import Toolsmith.Text.Lines
import Toolsmith.Text.Name
import Toolsmith.Text.Name.Alphabets
import Toolsmith.Text.Name.Block
import Toolsmith.Text.Name.Cuneiform
import Toolsmith.Text.Name.EastAsia
import Toolsmith.Text.Name.Historic
import Toolsmith.Text.Name.Mathematical
import Toolsmith.Text.Name.Pictures
import Toolsmith.Text.Name.Scripts
import Toolsmith.Text.Name.Second
import Toolsmith.Text.Name.Supplement
import Toolsmith.Text.Name.Symbols
import Toolsmith.Text.Path
import Toolsmith.Text.PlainForm
import Toolsmith.Text.Search
import Toolsmith.Text.Similar
import Toolsmith.Text.Surrogate
import Toolsmith.Text.Unprintable
import Toolsmith.Text.WordTable
import Toolsmith.Value.Basic
import Toolsmith.Value.Literal
import Toolsmith.Value.Web
import Toolsmith.Yaml.Cursor
import Toolsmith.Yaml.Meaning
import Toolsmith.Yaml.Node
import Toolsmith.Yaml.Resolve
import Toolsmith.Yaml.Scalar
import Toolsmith.Yaml.Token
import Toolsmith.Proofs.Naming
import Toolsmith.Proofs.Steps
import Toolsmith.Proofs.Value.Display
import Toolsmith.Proofs.Document.Identifiers
import Toolsmith.Proofs.Json.Limits
import Toolsmith.Proofs.Number.Rounding
import Toolsmith.Proofs.Chat.Reply
import Toolsmith.Proofs.Call.Arguments
import Toolsmith.Proofs.Call.Execute
import Toolsmith.Proofs.Call.Complete
import Toolsmith.Proofs.Generate.Callable
import Toolsmith.Proofs.Generate.JavaScript
import Toolsmith.Proofs.Generate.RoundTrip
import Toolsmith.Proofs.Chat.Events
import Toolsmith.Proofs.Chat.Intent
import Toolsmith.Proofs.Chat.Turn
import Toolsmith.Proofs.Chat.History
import Toolsmith.Proofs.Chat.Protocol
import Toolsmith.Proofs.Chat.Report
import Toolsmith.Proofs.Text.Parts
import Toolsmith.Proofs.Document.Catalog
import Toolsmith.Proofs.Document.Operations
import Toolsmith.Proofs.Document.Parameters
import Toolsmith.Proofs.Generate.Tools
import Toolsmith.Proofs.Call.Url
import Toolsmith.Proofs.Chat.Alike
import Toolsmith.Proofs.Chat.Credentials
import Toolsmith.Proofs.Needs
import Toolsmith.Proofs.Generate.Stored
import Toolsmith.Proofs.Document.Fit
import Toolsmith.Proofs.Value.Web
import Toolsmith.Proofs.Document.Load
import Toolsmith.Proofs.Document.Accept
import Toolsmith.Proofs.Yaml.Depth
import Toolsmith.Proofs.Yaml.Escape
import Toolsmith.Proofs.Yaml.Promise
import Toolsmith.Proofs.Generate.Outline.Literals
import Toolsmith.Proofs.Generate.Outline.Statements
import Toolsmith.Proofs.Generate.Comment
import Toolsmith.Proofs.Generate.Outline.JavaScript
import Toolsmith.Proofs.Generate.Outline.Python
import Toolsmith.Proofs.Generate.TopLevel
import Toolsmith.Proofs.Chat.Recovered
import Toolsmith.Proofs.Naming.Repetition
import Toolsmith.Proofs.Command.Generate
import Toolsmith.Proofs.Generate.Checked
import Toolsmith.Proofs.Call.Endings
import Toolsmith.Proofs.Call.Selection
import Toolsmith.Proofs.Document.Declared
import Toolsmith.Proofs.Document.Overriding
import Toolsmith.Proofs.Generate.Substitution
import Toolsmith.Proofs.Call.Lookup
import Toolsmith.Proofs.Text.Lines
import Toolsmith.Proofs.Generate.Enclosed
import Toolsmith.Proofs.Text.Escapes
import Toolsmith.Proofs.Json.ReadBack
import Toolsmith.Proofs.Json.Unescaped
import Toolsmith.Proofs.Json.Members
import Toolsmith.Proofs.Script.Literal
import Toolsmith.Proofs.Generate.ReadBack
import Toolsmith.Proofs.Document.Place
import Toolsmith.Proofs.Document.Reference
import Toolsmith.Proofs.Naming.NormalForm
import Toolsmith.Proofs.Call.Redaction
import Toolsmith.Proofs.Encoding
import Toolsmith.Proofs.Call.Segment
import Toolsmith.Proofs.Call.Authorization
